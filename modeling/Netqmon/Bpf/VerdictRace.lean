import Netqmon.Bpf.Program

/-! # The packet path and the agent on one verdict

The packet path looks a verdict up, compares its expiry with the clock, and deletes it by its key.
These are three operations, and between them other processors and the agent may work on the map. A
`World` has the map, the clock and, for every processor, how far it has come in `activeFlowVerdict`.

A verdict that the agent installs can be deleted in place of the one that it replaces: by a
processor that has found the old one, and found or still finds it outdated.
`installed_verdict_kept_iff` says that nothing else endangers it. -/

namespace Netqmon.Bpf.VerdictRace

open Agent.Flow Lib.Keyed Program

/-! ### Interleaved operations -/

/-- How far a processor has come in `activeFlowVerdict`. -/
inductive Phase
  | idle
  /-- The entry was found; it is still to be compared with the clock. -/
  | found (key : FlowKey) (verdict : FlowVerdict)
  /-- The entry is outdated; it is still to be deleted. -/
  | deleting (key : FlowKey)
deriving DecidableEq

structure World (Cpu : Type) where
  map : Rows FlowKey FlowVerdict
  now : ℕ
  state : FlowPolicyState
  phase : Cpu → Phase

inductive Event (Cpu : Type)
  | lookUp (cpu : Cpu) (key : FlowKey)
  | compare (cpu : Cpu)
  | delete (cpu : Cpu)
  | tick (elapsed : ℕ)
  /-- The agent writes a verdict. -/
  | install (key : FlowKey) (verdict : FlowVerdict)
  /-- The agent deletes a verdict. -/
  | remove (key : FlowKey)

variable {Cpu : Type} [DecidableEq Cpu]

variable (w : World Cpu)

def World.enter (cpu : Cpu) (phase : Phase) : World Cpu :=
  { w with phase := Function.update w.phase cpu phase }

/-- An operation that a processor has not come to yet does nothing. -/
def step : Event Cpu → World Cpu
  | .lookUp cpu key =>
    match w.phase cpu, w.map.lookup key with
    | .idle, some verdict => w.enter cpu (.found key verdict)
    | _, _ => w
  | .compare cpu =>
    match w.phase cpu with
    | .found key verdict =>
      w.enter cpu (if verdictOutdated w.now w.state verdict then .deleting key else .idle)
    | _ => w
  | .delete cpu =>
    match w.phase cpu with
    | .deleting key => { w.enter cpu .idle with map := w.map.erase key }
    | _ => w
  | .tick elapsed => { w with now := w.now + elapsed }
  | .install key verdict => { w with map := w.map.insert key verdict }
  | .remove key => { w with map := w.map.erase key }

def run (events : List (Event Cpu)) : World Cpu := events.foldl step w

/-- Without interruption the three operations are `activeFlowVerdict`. -/
theorem run_uninterrupted (cpu : Cpu) (key : FlowKey) (ctx : Context) (m : Machine)
    (hid : w.phase cpu = .idle) (hmap : m.maps.flowVerdictMap = w.map) (hnow : ctx.now = w.now)
    (hst : m.maps.flowPolicyState = w.state) :
    (run w [.lookUp cpu key, .compare cpu, .delete cpu]).map =
      (activeFlowVerdict ctx key m).2.maps.flowVerdictMap := by
  unfold activeFlowVerdict
  rw [hnow, hst]
  cases hl : w.map.lookup key with
  | none => simp [run, step, hid, hl, hmap]
  | some verdict =>
    by_cases hold : verdictOutdated w.now w.state verdict
    · simp [run, step, hid, hl, hold, World.enter, Machine.perform, Maps.apply, hmap]
    · simp [run, step, hid, hl, hold, World.enter, hmap]

/-! ### What endangers a verdict -/

variable (k : FlowKey)

/-- The agent leaves the key alone. -/
def AgentKeepsOff : Event Cpu → Prop
  | .install key _ => key ≠ k
  | .remove key => key ≠ k
  | _ => True

/-- The key has the verdict as long as it is not expired. -/
def Kept (v : FlowVerdict) (w : World Cpu) : Prop :=
  w.now < v.expiresMonotonicNs → w.map.lookup k = some v

/-- The processor has found an earlier entry of the key, which is outdated, or becomes so before `v`
expires. -/
def Endangers (v : FlowVerdict) (state : FlowPolicyState) : Phase → Prop
  | .idle => False
  | .found key old => key = k ∧ (old.expiresMonotonicNs < v.expiresMonotonicNs ∨
      (state.generation ≠ 0 ∧ old.policyGeneration ≠ state.generation))
  | .deleting key => key = k

/-- The verdict is there, and no processor will delete it. -/
structure Safe (k : FlowKey) (v : FlowVerdict) (state : FlowPolicyState) (w : World Cpu) :
    Prop where
  state_eq : w.state = state
  found : w.map.lookup k = some v
  undisturbed : ∀ cpu, ¬ Endangers k v state (w.phase cpu)

variable {k : FlowKey} {v : FlowVerdict} {state : FlowPolicyState} {w : World Cpu}

theorem Safe.enter (h : Safe k v state w) (cpu : Cpu) {phase : Phase}
    (hph : ¬ Endangers k v state phase) : Safe k v state (w.enter cpu phase) := by
  refine ⟨h.state_eq, h.found, fun other => ?_⟩
  by_cases heq : other = cpu
  · simpa [World.enter, heq] using hph
  · simpa [World.enter, heq] using h.undisturbed other

/-- Before the verdict expires, no operation endangers it. -/
theorem Safe.step (h : Safe k v state w) (hcur : v.policyGeneration = state.generation)
    (hnow : w.now < v.expiresMonotonicNs) {e : Event Cpu} (he : AgentKeepsOff k e) :
    Safe k v state (step w e) := by
  cases e with
  | lookUp cpu key =>
    unfold VerdictRace.step
    dsimp only
    split
    · next verdict hid hl =>
      refine h.enter cpu ?_
      rintro ⟨rfl, hbad⟩
      rw [h.found] at hl
      grind
    · exact h
  | compare cpu =>
    unfold VerdictRace.step
    dsimp only
    cases hph : w.phase cpu with
    | idle => exact h
    | deleting key => exact h
    | found key old =>
      have hsafe := h.undisturbed cpu
      rw [hph] at hsafe
      refine h.enter cpu ?_
      split
      · next hold =>
        rintro rfl
        refine hsafe ⟨rfl, ?_⟩
        rw [h.state_eq] at hold
        exact hold.imp (fun hx => by omega) fun hgen => hgen
      · exact id
  | delete cpu =>
    unfold VerdictRace.step
    dsimp only
    cases hph : w.phase cpu with
    | idle => exact h
    | found key old => exact h
    | deleting key =>
      have hsafe := h.undisturbed cpu
      rw [hph] at hsafe
      have hid : Safe k v state (w.enter cpu .idle) := h.enter cpu id
      exact ⟨hid.state_eq, (AList.lookup_erase_ne (Ne.symm hsafe)).trans h.found,
        hid.undisturbed⟩
  | tick elapsed => exact { h with }
  | install key verdict =>
    exact ⟨h.state_eq, (AList.lookup_insert_ne (Ne.symm he)).trans h.found, h.undisturbed⟩
  | remove key =>
    exact ⟨h.state_eq, (AList.lookup_erase_ne (Ne.symm he)).trans h.found, h.undisturbed⟩

theorem now_step (e : Event Cpu) : w.now ≤ (step w e).now := by
  cases e with
  | lookUp cpu key => unfold step; dsimp only; split <;> exact le_rfl
  | compare cpu => unfold step; dsimp only; split <;> exact le_rfl
  | delete cpu => unfold step; dsimp only; split <;> exact le_rfl
  | tick elapsed => exact Nat.le_add_right _ _
  | install key verdict => exact le_rfl
  | remove key => exact le_rfl

/-- A verdict that is not endangered is kept until it expires. -/
theorem kept_of_safe {es : List (Event Cpu)} (hcur : v.policyGeneration = state.generation)
    (h : w.now < v.expiresMonotonicNs → Safe k v state w)
    (hevs : ∀ e ∈ es, AgentKeepsOff k e) : Kept k v (run w es) := by
  induction es generalizing w with
  | nil => exact fun hnow => (h hnow).found
  | cons e es ih =>
    refine ih (fun hnow => ?_) fun e' he' => hevs e' (.tail _ he')
    have hbef := (now_step e).trans_lt hnow
    exact (h hbef).step hcur hbef (hevs e (.head _))

/-- A processor that endangers the verdict can delete it before it expires. -/
theorem lost_of_endangered {cpu : Cpu} (hnow : w.now < v.expiresMonotonicNs)
    (h : Endangers k v w.state (w.phase cpu)) :
    ∃ es : List (Event Cpu), (∀ e ∈ es, AgentKeepsOff k e) ∧ ¬ Kept k v (run w es) := by
  cases hph : w.phase cpu with
  | idle => simp [hph, Endangers] at h
  | deleting key =>
    rw [hph] at h
    obtain rfl : key = k := h
    refine ⟨[.delete cpu], by simp [AgentKeepsOff], fun hk => ?_⟩
    have hl := hk (by simpa [run, step, hph, World.enter] using hnow)
    simp [run, step, hph] at hl
  | found key old =>
    rw [hph] at h
    obtain ⟨rfl, hbad⟩ := h
    -- wait until the old entry is outdated, then compare and delete
    let wait := old.expiresMonotonicNs - w.now
    by_cases hold : verdictOutdated w.now w.state old
    · refine ⟨[.compare cpu, .delete cpu], by simp [AgentKeepsOff], fun hk => ?_⟩
      have hl := hk (by simpa [run, step, hph, World.enter, hold] using hnow)
      simp [run, step, hph, World.enter, hold] at hl
    · have hx : old.expiresMonotonicNs < v.expiresMonotonicNs :=
        hbad.resolve_right fun hgen => hold (.inr hgen)
      have hlt : verdictOutdated (w.now + wait) w.state old := .inl (by omega)
      refine ⟨[.tick wait, .compare cpu, .delete cpu], by simp [AgentKeepsOff], fun hk => ?_⟩
      have hbef : w.now + wait < v.expiresMonotonicNs := by omega
      have hl := hk (by simpa [run, step, hph, World.enter, hlt] using hbef)
      simp [run, step, hph, World.enter, hlt] at hl

/-- **An installed verdict is kept until it expires**, whatever the processors do, exactly if at its
installation no processor has found an earlier entry of the key that is outdated or becomes so in
that time. -/
theorem installed_verdict_kept_iff (w : World Cpu) (k : FlowKey) (v : FlowVerdict)
    (hcurrent : v.policyGeneration = w.state.generation) :
    (∀ events : List (Event Cpu), (∀ e ∈ events, AgentKeepsOff k e) →
        Kept k v (run (step w (.install k v)) events)) ↔
      (w.now < v.expiresMonotonicNs → ∀ cpu, ¬ Endangers k v w.state (w.phase cpu)) := by
  constructor
  · intro hkept hnow cpu hendangers
    obtain ⟨events, hevents, hlost⟩ :=
      lost_of_endangered (w := step w (.install k v)) hnow hendangers
    exact hlost (hkept events hevents)
  · intro hquiet events hevents
    have hsafe : w.now < v.expiresMonotonicNs → Safe k v w.state (step w (.install k v)) :=
      fun hnow => ⟨rfl, AList.lookup_insert _, hquiet hnow⟩
    exact kept_of_safe hcurrent hsafe hevents

/-! ### A verdict that is lost -/

def sampleKey : FlowKey :=
  ⟨4, 6, 0, 1, 2, 0xc0a80102000000000000000000000000, 0xcb007105000000000000000000000000, 40000,
    443⟩

/-- A block of generation 7. -/
def blockUntil (expires : ℕ) : FlowVerdict := ⟨expires, 7, 1, 0x020000000001, 0, verdictBlock⟩

/-- A block that has just expired. -/
def expiredWorld : World Unit :=
  ⟨AList.insert sampleKey (blockUntil 1000) ∅, 1000, ⟨true, 7⟩, fun _ => .idle⟩

/-- The agent renews the block while a processor is about to delete the expired one: the renewed
block is gone long before it expires. -/
theorem renewed_block_lost :
    (run expiredWorld [.lookUp () sampleKey, .compare (), .install sampleKey (blockUntil 9000),
        .delete ()]).map.lookup sampleKey = none ∧
      (run expiredWorld [.lookUp () sampleKey, .compare (), .install sampleKey (blockUntil 9000),
        .delete ()]).now = 1000 := by
  decide +kernel

/-- The block is kept if it is renewed while no packet of the flow is being looked up. -/
theorem renewed_block_kept :
    ¬ ∃ events : List (Event Unit), (∀ e ∈ events, AgentKeepsOff sampleKey e) ∧
      ¬ Kept sampleKey (blockUntil 9000)
        (run (step expiredWorld (.install sampleKey (blockUntil 9000))) events) := by
  rintro ⟨events, hevents, hlost⟩
  exact hlost ((installed_verdict_kept_iff expiredWorld sampleKey (blockUntil 9000) rfl).2
    (fun _ _ => id) events hevents)

end Netqmon.Bpf.VerdictRace
