import Netqmon.Agent.Polling

/-! # From the kernel's counters to deltas

The kernel counts the traffic of a flow in an entry of the flow map. A poll looks the entries up one after
the other, deletes those that have been idle for too long (`processFlowEntry`), and hands all of them to the
flow runtime. The kernel goes on counting meanwhile.

A `World` has the map, the poll that is going on, the runtime, and as history the lifetimes of entries, the
counters that the runtime was given and the deltas that it returned. A lifetime is a key together with the
time at which it was first seen.

The runtime forgets silent flows by another clock than the map deletes idle entries. A flow that is forgotten
while its entry lives on is counted again from zero; `KeepsLive` says that a poll does not do that. -/

namespace Netqmon.Agent.Conservation

open Agent.Flow Polling Lib.Keyed

/-! ### Reading the flow map -/

structure Config where
  (tcpIdleTimeoutSeconds udpIdleTimeoutSeconds : ℕ)

variable (config : Config)

def flowIsIdle (nowNs : ℕ) (key : FlowKey) (counters : FlowCounters) : Bool :=
  let timeoutSeconds :=
    if key.protocol = 6 then config.tcpIdleTimeoutSeconds else config.udpIdleTimeoutSeconds
  min (1000000000 * timeoutSeconds) (2 ^ 64 - 1) < nowNs - counters.lastSeenNs

structure FlowMapSnapshot where
  flows : List (FlowKey × FlowCounters)
  retainedEntries : ℕ

def FlowMapSnapshot.empty : FlowMapSnapshot := ⟨[], 0⟩

/-- The value of an entry was looked up before. An idle entry is looked up once more and deleted in one
go; `deletes` says whether this works. -/
def processFlowEntry (nowNs : ℕ) (deletes : Bool) (map : Rows FlowKey FlowCounters)
    (entry : FlowKey × FlowCounters) (snapshot : FlowMapSnapshot) :
    Rows FlowKey FlowCounters × FlowMapSnapshot :=
  let retained : FlowMapSnapshot := ⟨snapshot.flows ++ [entry], snapshot.retainedEntries + 1⟩
  if flowIsIdle config nowNs entry.1 entry.2 then
    if deletes then
      match map.lookup entry.1 with
      | some latest =>
        (map.erase entry.1, { snapshot with flows := snapshot.flows ++ [(entry.1, latest)] })
      | none => (map, { snapshot with flows := snapshot.flows ++ [entry] })
    else (map, retained)
  else (map, retained)

/-! ### Worlds -/

/-- The counters that were read of every key, the latest first. -/
abbrev Seen : Type := FlowKey → List FlowCounters

variable (seen : Seen)

def see (entry : FlowKey × FlowCounters) : Seen := fun key =>
  if key = entry.1 then entry.2 :: seen key else seen key

structure World where
  map : Rows FlowKey FlowCounters
  /-- The kernel time at which the poll began. -/
  pollNs : ℕ
  /-- Entries that were looked up and not processed yet. -/
  fetched : List (FlowKey × FlowCounters)
  snapshot : FlowMapSnapshot
  runtime : FlowRuntime
  lifetimes : List (FlowKey × ℕ)
  seen : Seen
  deltas : List FlowDelta

inductive Event
  | create (key : FlowKey) (counters : FlowCounters)
  | count (key : FlowKey) (counters : FlowCounters)
  | poll (nowNs : ℕ)
  | fetch (key : FlowKey)
  | process (deletes : Bool)
  | update (now : ℕ) (policyIds : PolicyIds)

/-- The counters of an entry have grown. -/
def Grows (old new : FlowCounters) : Prop :=
  new.firstSeenNs = old.firstSeenNs ∧ old.packets ≤ new.packets ∧ old.bytes ≤ new.bytes

namespace World

variable (config : Config)

def start : World where
  map := ∅
  pollNs := 0
  fetched := []
  snapshot := .empty
  runtime := ⟨∅, 1000000000 * config.tcpIdleTimeoutSeconds, 1000000000 * config.udpIdleTimeoutSeconds⟩
  lifetimes := []
  seen _ := []
  deltas := []

variable (w : World)

def step : Event → World
  | .create key counters =>
    { w with
      map := w.map.insert key counters
      lifetimes := (key, counters.firstSeenNs) :: w.lifetimes }
  | .count key counters => { w with map := w.map.insert key counters }
  | .poll nowNs => { w with pollNs := nowNs, snapshot := .empty }
  | .fetch key =>
    { w with fetched := w.fetched ++ ((w.map.lookup key).map fun counters => (key, counters)).toList }
  | .process deletes =>
    match w.fetched with
    | [] => w
    | entry :: rest =>
      let processed := processFlowEntry config w.pollNs deletes w.map entry w.snapshot
      { w with map := processed.1, snapshot := processed.2, fetched := rest }
  | .update now policyIds =>
    let updated := updateWithPolicyIds w.runtime w.snapshot.flows now policyIds
    { w with
      runtime := updated.1
      snapshot := .empty
      seen := w.snapshot.flows.foldl see w.seen
      deltas := w.deltas ++ updated.2.deltas }

def run (events : List Event) : World := events.foldl (step config) w

/-- What the kernel and a poll do. The first packet makes an entry, with a time that no earlier entry of
the key was first seen at. No key is looked up twice before it is processed. The runtime is updated after
the whole map was read. -/
def Possible : Event → Prop
  | .create key counters =>
    w.map.lookup key = none ∧ (key, counters.firstSeenNs) ∉ w.lifetimes ∧
      counters.firstSeenNs ≠ 0 ∧ counters.packets ≠ 0
  | .count key counters => ∃ old, w.map.lookup key = some old ∧ Grows old counters
  | .poll _ => w.fetched = [] ∧ w.snapshot.flows = []
  | .fetch key => key ∉ w.fetched.map Prod.fst
  | .process _ => True
  | .update now _ => w.fetched = [] ∧ w.pollNs ≤ now

instance (old new : FlowCounters) : Decidable (Grows old new) :=
  inferInstanceAs (Decidable (_ ∧ _ ∧ _))

instance (w : World) : ∀ event, Decidable (w.Possible event)
  | .create .. => inferInstanceAs (Decidable (_ ∧ _ ∧ _ ∧ _))
  | .count key counters =>
    inferInstanceAs (Decidable (∃ old ∈ w.map.lookup key, Grows old counters))
  | .poll _ => inferInstanceAs (Decidable (_ ∧ _))
  | .fetch _ => inferInstanceAs (Decidable (¬ _))
  | .process _ => inferInstanceAs (Decidable True)
  | .update .. => inferInstanceAs (Decidable (_ ∧ _))

/-- A flow whose entry is still in the map, and that the runtime has seen no traffic of in this poll, has
not been silent for as long as the runtime's timeout. -/
def KeepsLive : Event → Prop
  | .update now _ => ∀ key live state, w.map.lookup key = some live →
      w.runtime.flows.lookup key = some state →
      state.counters.firstSeenNs = live.firstSeenNs →
      (∀ counters, (key, counters) ∈ w.snapshot.flows →
        counters.packets = state.counters.packets ∧ counters.bytes = state.counters.bytes) →
      now - state.lastActivity < w.runtime.timeout key
  | _ => True

def PossibleRun (config : Config) : World → List Event → Prop
  | _, [] => True
  | w, event :: events => w.Possible event ∧ PossibleRun config (w.step config event) events

instance decidablePossibleRun (config : Config) :
    ∀ (w : World) (events : List Event), Decidable (w.PossibleRun config events)
  | _, [] => inferInstanceAs (Decidable True)
  | w, event :: events =>
    have := decidablePossibleRun config (w.step config event) events
    inferInstanceAs (Decidable (_ ∧ _))

def KeepsLiveRun (config : Config) : World → List Event → Prop
  | _, [] => True
  | w, event :: events => w.KeepsLive event ∧ KeepsLiveRun config (w.step config event) events

end World

/-- The last counters that were read in a lifetime. -/
def lastRead (key : FlowKey) (firstSeenNs : ℕ) : FlowCounters :=
  ((seen key).find? (·.firstSeenNs == firstSeenNs)).getD .zero

variable (deltas : List FlowDelta)

/-- The deltas of a lifetime. -/
def deltasOf (key : FlowKey) (firstSeenNs : ℕ) : List FlowDelta :=
  deltas.filter fun delta => delta.key == key && delta.counters.firstSeenNs == firstSeenNs

def packetsOf (key : FlowKey) (firstSeenNs : ℕ) : ℕ :=
  ((deltasOf deltas key firstSeenNs).map (·.packets)).sum

def bytesOf (key : FlowKey) (firstSeenNs : ℕ) : ℕ :=
  ((deltasOf deltas key firstSeenNs).map (·.bytes)).sum

/-! ### Chronicles -/

/-- The counters of a key, the latest first: they grow within a lifetime, and lifetimes follow each
other. -/
inductive Chronicle : List FlowCounters → Prop
  | nil : Chronicle []
  | grown {a b : FlowCounters} {l : List FlowCounters} (h : Chronicle (a :: l)) (hgrows : Grows a b) :
      Chronicle (b :: a :: l)
  | fresh {b : FlowCounters} {l : List FlowCounters} (h : Chronicle l)
      (hfirst : b.firstSeenNs ∉ l.map (·.firstSeenNs)) (hclock : b.firstSeenNs ≠ 0)
      (htraffic : b.packets ≠ 0) : Chronicle (b :: l)

namespace Chronicle

variable {a b : FlowCounters} {l : List FlowCounters}

theorem tail (h : Chronicle (a :: l)) : Chronicle l := by
  cases h with
  | grown h _ => exact h
  | fresh h _ _ _ => exact h

theorem of_append : ∀ {m : List FlowCounters}, Chronicle (m ++ l) → Chronicle l
  | [], h => h
  | _ :: _, h => of_append h.tail

theorem valid (h : Chronicle l) : ∀ c ∈ l, c.firstSeenNs ≠ 0 ∧ c.packets ≠ 0 := by
  induction h with
  | nil => exact fun c hc => absurd hc List.not_mem_nil
  | grown h hgr ih =>
    obtain ⟨hfst, hpkt, -⟩ := hgr
    have hold := ih _ List.mem_cons_self
    exact List.forall_mem_cons.2 ⟨⟨by rw [hfst]; exact hold.1, by omega⟩, ih⟩
  | fresh h _ hck htr ih => exact List.forall_mem_cons.2 ⟨⟨hck, htr⟩, ih⟩

theorem replace (h : Chronicle (a :: l)) (hgr : Grows a b) : Chronicle (b :: l) := by
  obtain ⟨hfst, hpkt, hby⟩ := hgr
  cases h with
  | grown h hold =>
    obtain ⟨hfirst', hpackets', hbytes'⟩ := hold
    exact .grown h ⟨hfst.trans hfirst', hpackets'.trans hpkt, hbytes'.trans hby⟩
  | fresh h hnew hck htr => exact .fresh h (by rwa [hfst]) (by rwa [hfst]) (by omega)

theorem again (h : Chronicle (a :: l)) : Chronicle (a :: a :: l) :=
  .grown h ⟨rfl, le_refl _, le_refl _⟩

section

variable (h : Chronicle (a :: b :: l))
include h

theorem skip : Chronicle (a :: l) := by
  cases h with
  | grown h hgr => exact h.replace hgr
  | fresh h hnew hck htr =>
    rw [List.map_cons, List.mem_cons, not_or] at hnew
    exact .fresh h.tail hnew.2 hck htr

theorem grows_of_eq (hfst : a.firstSeenNs = b.firstSeenNs) : Grows b a := by
  cases h with
  | grown _ hgr => exact hgr
  | fresh _ hnew _ _ => grind

theorem fresh_of_ne (hfst : a.firstSeenNs ≠ b.firstSeenNs) :
    a.firstSeenNs ∉ (b :: l).map (·.firstSeenNs) := by
  cases h with
  | grown _ hgr => exact absurd hgr.1 hfst
  | fresh _ hnew _ _ => exact hnew

end

end Chronicle

variable {firstSeenNs : ℕ}

/-! ### What has been seen -/

section Seen

variable {seen seen' : Seen} {key : FlowKey} {l : List (FlowKey × FlowCounters)}

theorem foldl_see_congr (h : seen key = seen' key) : l.foldl see seen key = l.foldl see seen' key := by
  induction l generalizing seen seen' with
  | nil => exact h
  | cons entry l ih =>
    refine ih ?_
    unfold see
    rw [h]

theorem foldl_see_of_notMem (h : key ∉ l.map Prod.fst) : l.foldl see seen key = seen key := by
  induction l generalizing seen with
  | nil => rfl
  | cons entry l ih =>
    rw [List.map_cons, List.mem_cons, not_or] at h
    rw [List.foldl_cons, ih h.2, see, if_neg h.1]

theorem suffix_foldl_see (seen : Seen) (key : FlowKey) :
    ∀ l : List (FlowKey × FlowCounters), ∃ later, l.foldl see seen key = later ++ seen key := by
  intro l
  induction l generalizing seen with
  | nil => exact ⟨[], rfl⟩
  | cons entry l ih =>
    obtain ⟨later, hlt⟩ := ih (see seen entry)
    rw [List.foldl_cons, hlt]
    unfold see
    split_ifs
    · exact ⟨later ++ [entry.2], by rw [List.append_assoc]; rfl⟩
    · exact ⟨later, rfl⟩

theorem mem_foldl_see {c : FlowCounters} :
    c ∈ l.foldl see seen key ↔ (key, c) ∈ l ∨ c ∈ seen key := by
  induction l generalizing seen with
  | nil => simp
  | cons entry l ih =>
    rw [List.foldl_cons, ih]
    unfold see
    split_ifs with heq
    · grind
    · have hne : (key, c) ≠ entry := fun h => heq (by rw [← h])
      simp [hne]

theorem lastRead_see (entry : FlowKey × FlowCounters) : lastRead (see seen entry) key firstSeenNs =
      if key = entry.1 ∧ entry.2.firstSeenNs = firstSeenNs then entry.2
      else lastRead seen key firstSeenNs := by
  unfold lastRead see
  by_cases hkey : key = entry.1
  · grind
  · rw [if_neg hkey, if_neg fun h => hkey h.1]

end Seen

/-! ### Observing -/

variable (flows : Rows FlowKey FlowRuntimeState)

/-- What the runtime remembers is what it was given last. -/
def Remembered : Prop :=
  ∀ key state, flows.lookup key = some state → (seen key).head? = some state.counters

/-- Lifetimes of flows that are not remembered are over, or have not been seen. -/
def Forgotten (pending : FlowKey → FlowCounters → Prop) : Prop :=
  ∀ key, flows.lookup key = none → ∀ c, pending key c →
    c.firstSeenNs ∉ (seen key).map (·.firstSeenNs)

/-- The deltas add up to the counters. -/
def Balanced (deltas : List FlowDelta) : Prop :=
  ∀ key firstSeenNs, packetsOf deltas key firstSeenNs = (lastRead seen key firstSeenNs).packets ∧
    bytesOf deltas key firstSeenNs = (lastRead seen key firstSeenNs).bytes

section Observe

variable {seen : Seen} {flows : Rows FlowKey FlowRuntimeState} {now : ℕ}
  {entry : FlowKey × FlowCounters}

/-- The runtime compares an entry with what was read last in its lifetime. -/
theorem current_counters (hch : Chronicle (entry.2 :: seen entry.1))
    (hrem : Remembered seen flows) (hforg : flows.lookup entry.1 = none →
      entry.2.firstSeenNs ∉ (seen entry.1).map (·.firstSeenNs)) :
    (current flows now entry).counters = lastRead seen entry.1 entry.2.firstSeenNs ∧
      (lastRead seen entry.1 entry.2.firstSeenNs).packets ≤ entry.2.packets ∧
      (lastRead seen entry.1 entry.2.firstSeenNs).bytes ≤ entry.2.bytes := by
  have hfr : entry.2.firstSeenNs ∉ (seen entry.1).map (·.firstSeenNs) →
      lastRead seen entry.1 entry.2.firstSeenNs = .zero := by
    intro hnever
    have hn : (seen entry.1).find? (·.firstSeenNs == entry.2.firstSeenNs) = none := by grind
    rw [lastRead, hn]
    rfl
  unfold current
  cases hl : flows.lookup entry.1 with
  | none =>
    rw [hfr (hforg hl)]
    exact ⟨rfl, Nat.zero_le _, Nat.zero_le _⟩
  | some s =>
    obtain ⟨older, hsn⟩ := List.head?_eq_some_iff.1 (hrem _ _ hl)
    rw [hsn] at hch
    have hval := hch.valid
    have hnew := (hval entry.2 List.mem_cons_self).1
    have hold := (hval s.counters (List.mem_cons_of_mem _ List.mem_cons_self)).1
    by_cases hfst : entry.2.firstSeenNs = s.counters.firstSeenNs
    · have hgr := hch.grows_of_eq hfst
      have hla : lastRead seen entry.1 entry.2.firstSeenNs = s.counters := by grind [lastRead]
      have hsm : isRestarted s entry.2 = false := by simp [isRestarted, hfst]
      grind [hgr.2.1, hgr.2.2]
    · have hnever := hch.fresh_of_ne hfst
      rw [← hsn] at hnever
      rw [hfr hnever]
      have hre : isRestarted s entry.2 = true := by
        simp [isRestarted, hfst, hnew, hold]
      dsimp only
      rw [hre]
      exact ⟨rfl, Nat.zero_le _, Nat.zero_le _⟩

/-- Only a flow that is remembered, and is still the same, is compared with anything but zero. -/
theorem remembered_of_current (hch : Chronicle (entry.2 :: seen entry.1))
    (hrem : Remembered seen flows) (h : (current flows now entry).counters.packets ≠ 0) :
    ∃ s, flows.lookup entry.1 = some s ∧ current flows now entry = s ∧
      entry.2.firstSeenNs = s.counters.firstSeenNs := by
  unfold current at h ⊢
  cases hl : flows.lookup entry.1 with
  | none => simp [hl, FlowCounters.zero] at h
  | some s =>
    rw [hl] at h
    cases hre : isRestarted s entry.2 with
    | true => simp [hre, FlowCounters.zero] at h
    | false =>
      refine ⟨s, rfl, by simp [hre], ?_⟩
      have hmem : s.counters ∈ seen entry.1 :=
        List.mem_of_mem_head? (hrem _ _ hl)
      have hold := (hch.valid _ (List.mem_cons_of_mem _ hmem)).1
      have hnew := (hch.valid _ List.mem_cons_self).1
      simpa [isRestarted, hold, hnew] using hre

theorem deltasOf_append (l m : List FlowDelta) (key : FlowKey) :
    deltasOf (l ++ m) key firstSeenNs = deltasOf l key firstSeenNs ++ deltasOf m key firstSeenNs :=
  List.filter_append ..

theorem deltasOf_singleton (delta : FlowDelta) (key : FlowKey) :
    deltasOf [delta] key firstSeenNs =
      if key = delta.key ∧ delta.counters.firstSeenNs = firstSeenNs then [delta] else [] := by
  by_cases hkey : delta.key = key
  · grind [deltasOf]
  · simp [deltasOf, hkey, Ne.symm hkey]

theorem monotonicDelta_of_le {current previous : ℕ} (h : previous ≤ current) :
    monotonicDelta current previous = current - previous := if_pos h

/-- The flow has been active in this poll, or it is as it was before the poll. -/
def Quiet (before : Rows FlowKey FlowRuntimeState) (now : ℕ) (done : List (FlowKey × FlowCounters))
    (key : FlowKey) (state : FlowRuntimeState) : Prop :=
  state.lastActivity = now ∨ ∃ old, before.lookup key = some old ∧
    state.lastActivity = old.lastActivity ∧
    state.counters.firstSeenNs = old.counters.firstSeenNs ∧
    state.counters.packets = old.counters.packets ∧ state.counters.bytes = old.counters.bytes ∧
    ∀ counters, (key, counters) ∈ done →
      counters.packets = old.counters.packets ∧ counters.bytes = old.counters.bytes

/-- The state of the loop over the entries of a poll: those that are done, those to come, and what the
kernel has in its map. -/
structure Observing (before : Rows FlowKey FlowRuntimeState) (emitted : List FlowDelta) (now : ℕ)
    (live : FlowKey → Option FlowCounters) (done todo : List (FlowKey × FlowCounters)) (seen : Seen)
    (acc : Rows FlowKey FlowRuntimeState × FlowRuntimeUpdate) : Prop where
  ordered : ∀ key, Chronicle ((live key).toList ++ todo.foldl see seen key)
  remembered : Remembered seen acc.1
  forgotten : Forgotten seen acc.1 fun key c => live key = some c ∨ (key, c) ∈ todo
  balanced : Balanced seen (emitted ++ acc.2.deltas)
  quiet : ∀ key state, acc.1.lookup key = some state → Quiet before now done key state

variable {before : Rows FlowKey FlowRuntimeState} {emitted : List FlowDelta}
  {live : FlowKey → Option FlowCounters} {done todo : List (FlowKey × FlowCounters)}
  {acc : Rows FlowKey FlowRuntimeState × FlowRuntimeUpdate}

theorem observe_cases (policyIds : PolicyIds) (now : ℕ)
    (acc : Rows FlowKey FlowRuntimeState × FlowRuntimeUpdate) (entry : FlowKey × FlowCounters) :
    let previous := (current acc.1 now entry).counters
    let packets := monotonicDelta entry.2.packets previous.packets
    let bytes := monotonicDelta entry.2.bytes previous.bytes
    (packets ≠ 0 ∨ bytes ≠ 0) ∧
        (observe policyIds now acc entry).1 = acc.1.insert entry.1 ⟨entry.2, now, .active⟩ ∧
        (∃ id, (observe policyIds now acc entry).2.deltas =
          acc.2.deltas ++ [⟨entry.1, id, packets, bytes, entry.2⟩]) ∨
      (packets = 0 ∧ bytes = 0) ∧
        (observe policyIds now acc entry).1 =
          acc.1.insert entry.1 { current acc.1 now entry with counters := entry.2 } ∧
        (observe policyIds now acc entry).2.deltas = acc.2.deltas := by
  intro previous packets bytes
  unfold observe
  by_cases htr : packets ≠ 0 ∨ bytes ≠ 0
  · grind
  · grind

theorem Observing.step (policyIds : PolicyIds)
    (h : Observing before emitted now live done (entry :: todo) seen acc) :
    Observing before emitted now live (done ++ [entry]) todo (see seen entry)
      (observe policyIds now acc entry) := by
  have hch : Chronicle (entry.2 :: seen entry.1) := by
    have hord := (h.ordered entry.1).of_append
    rw [List.foldl_cons] at hord
    obtain ⟨later, hlt⟩ := suffix_foldl_see (see seen entry) entry.1 todo
    rw [hlt, see, if_pos rfl] at hord
    exact hord.of_append
  obtain ⟨hctr, hpkt, hby⟩ := @current_counters seen acc.1 now entry hch
    h.remembered fun hn => h.forgotten entry.1 hn entry.2 (.inr List.mem_cons_self)
  have hk : ∀ s, (observe policyIds now acc entry).1 = acc.1.insert entry.1 s →
      s.counters = entry.2 →
      Remembered (see seen entry) (observe policyIds now acc entry).1 ∧
        Forgotten (see seen entry) (observe policyIds now acc entry).1
          fun key c => live key = some c ∨ (key, c) ∈ todo := by
    intro s hfls hst
    rw [hfls]
    constructor
    · intro key other hl
      rw [lookup_insert_ite] at hl
      unfold see
      split_ifs at hl ⊢ with heq
      · grind
      · exact h.remembered key other hl
    · intro key hl c hpend
      rw [lookup_insert_ite] at hl
      unfold see
      split_ifs at hl ⊢ with heq
      exact h.forgotten key hl c (hpend.imp_right (List.mem_cons_of_mem _))
  have hcs := observe_cases policyIds now acc entry
  rw [hctr] at hcs
  dsimp only at hcs
  rw [monotonicDelta_of_le hpkt, monotonicDelta_of_le hby] at hcs
  rcases hcs with ⟨-, hfls, id, hdeltas⟩ | ⟨⟨hpackets', hbytes'⟩, hfls, hdeltas⟩
  · obtain ⟨hrem, hforg⟩ := hk _ hfls rfl
    refine ⟨h.ordered, hrem, hforg, fun key firstSeenNs => ?_,
      fun key s hl => ?_⟩
    · obtain ⟨hp, hb⟩ := h.balanced key firstSeenNs
      rw [packetsOf] at hp ⊢
      rw [bytesOf] at hb ⊢
      rw [hdeltas, ← List.append_assoc, deltasOf_append, deltasOf_singleton, lastRead_see,
        List.map_append, List.map_append, List.sum_append, List.sum_append, hp, hb]
      split_ifs with heq
      · obtain ⟨rfl, rfl⟩ := heq
        simp only [List.map_cons, List.map_nil, List.sum_singleton]
        omega
      · exact ⟨rfl, rfl⟩
    · rw [hfls, lookup_insert_ite] at hl
      split_ifs at hl with heq
      · cases hl
        exact .inl rfl
      · refine (h.quiet key s hl).imp_right ?_
        grind
  · obtain ⟨hrem, hforg⟩ := hk _ hfls rfl
    refine ⟨h.ordered, hrem, hforg, fun key firstSeenNs => ?_,
      fun key s hl => ?_⟩
    · obtain ⟨hp, hb⟩ := h.balanced key firstSeenNs
      grind [lastRead_see]
    · rw [hfls, lookup_insert_ite] at hl
      split_ifs at hl with heq
      · -- an entry without new traffic belongs to a flow that is remembered
        cases hl
        have hnonzero := (hch.valid entry.2 List.mem_cons_self).2
        obtain ⟨s, hst, hsm, hfst⟩ := @remembered_of_current seen acc.1 now entry
          hch h.remembered (by rw [hctr]; omega)
        rw [hsm] at hctr ⊢
        refine (h.quiet entry.1 s hst).imp_right ?_
        rintro ⟨old, hold, hactivity, hfirst', hp, hb, hdn⟩
        rw [hctr] at hp hb
        refine ⟨old, heq ▸ hold, hactivity, hfst.trans hfirst', by dsimp only; omega,
          by dsimp only; omega, fun counters hmem => ?_⟩
        rcases List.mem_append.1 hmem with hmem | hmem
        · exact hdn counters (heq ▸ hmem)
        · have he : counters = entry.2 := congrArg Prod.snd (List.mem_singleton.1 hmem)
          rw [he]
          omega
      · refine (h.quiet key s hl).imp_right ?_
        grind

theorem Observing.run (policyIds : PolicyIds) : ∀ {todo done : List (FlowKey × FlowCounters)} {seen : Seen}
    {acc : Rows FlowKey FlowRuntimeState × FlowRuntimeUpdate},
    Observing before emitted now live done todo seen acc →
      Observing before emitted now live (done ++ todo) [] (todo.foldl see seen)
        (todo.foldl (observe policyIds now) acc)
  | [], done, _, _, h => by rwa [List.append_nil]
  | entry :: todo, done, seen, acc, h => by
    have hr := Observing.run policyIds (h.step policyIds)
    grind

end Observe

/-! ### The invariant -/

namespace World

/-- Counters that the runtime has not been given yet. -/
def Pending (w : World) (key : FlowKey) (c : FlowCounters) : Prop :=
  w.map.lookup key = some c ∨ (key, c) ∈ w.snapshot.flows ++ w.fetched

/-- All counters of a key, up to what is in the map now. -/
def chronicle (w : World) (key : FlowKey) : List FlowCounters :=
  (w.map.lookup key).toList ++ (w.snapshot.flows ++ w.fetched).foldl see w.seen key

end World

structure Sound (w : World) : Prop where
  ordered : ∀ key, Chronicle (w.chronicle key)
  /-- Every lifetime is on record. -/
  dated : ∀ key, ∀ c ∈ w.chronicle key, (key, c.firstSeenNs) ∈ w.lifetimes
  /-- What is waiting to be processed is still in the map. -/
  waiting : ∀ entry ∈ w.fetched, (w.map.lookup entry.1).isSome
  once : (w.fetched.map Prod.fst).Nodup
  remembered : Remembered w.seen w.runtime.flows
  forgotten : Forgotten w.seen w.runtime.flows w.Pending
  balanced : Balanced w.seen w.deltas
  timeouts : 0 < w.runtime.tcpIdleTimeout ∧ 0 < w.runtime.udpIdleTimeout

theorem sound_start {config : Config} (htcp : 0 < config.tcpIdleTimeoutSeconds)
    (hudp : 0 < config.udpIdleTimeoutSeconds) : Sound (.start config) where
  ordered _ := .nil
  dated _ _ hc := absurd hc List.not_mem_nil
  waiting _ he := absurd he List.not_mem_nil
  once := .nil
  remembered := nofun
  forgotten _ _ _ _ := List.not_mem_nil
  balanced _ _ := ⟨rfl, rfl⟩
  timeouts := ⟨by unfold World.start; dsimp only; omega, by unfold World.start; dsimp only; omega⟩

namespace Sound

variable {w : World} {config : Config} {key : FlowKey}

theorem mem_chronicle {c : FlowCounters} :
    c ∈ w.chronicle key ↔ w.Pending key c ∨ c ∈ w.seen key := by
  unfold World.chronicle World.Pending
  rw [List.mem_append, mem_foldl_see, Option.mem_toList, or_assoc]

variable {counters : FlowCounters}

section

variable (h : Sound w)
include h

theorem write {lifetimes : List (FlowKey × ℕ)} (hlife : w.lifetimes ⊆ lifetimes)
    (hdated : (key, counters.firstSeenNs) ∈ lifetimes)
    (hord : Chronicle (counters :: (w.snapshot.flows ++ w.fetched).foldl see w.seen key))
    (hforg : w.runtime.flows.lookup key = none →
      counters.firstSeenNs ∉ (w.seen key).map (·.firstSeenNs)) :
    Sound { w with map := w.map.insert key counters, lifetimes := lifetimes } := by
  have hl : ∀ other, (w.map.insert key counters).lookup other =
      if other = key then some counters else w.map.lookup other := fun other =>
    lookup_insert_ite other
  refine ⟨fun other => ?_, fun other c hc => ?_, fun entry he => ?_, h.once, h.remembered,
    fun other ho c hp => ?_, h.balanced, h.timeouts⟩
  · unfold World.chronicle
    rw [hl]
    split_ifs with heq
    · rw [heq]
      exact hord
    · exact h.ordered other
  · rcases mem_chronicle.1 hc with (hlv | hrd) | hsn
    · rw [hl] at hlv
      split_ifs at hlv with heq
      · cases hlv
        rw [heq]
        exact hdated
      · exact hlife (h.dated other c (mem_chronicle.2 (.inl (.inl hlv))))
    · exact hlife (h.dated other c (mem_chronicle.2 (.inl (.inr hrd))))
    · exact hlife (h.dated other c (mem_chronicle.2 (.inr hsn)))
  · rw [hl]
    split_ifs
    · rfl
    · exact h.waiting entry he
  · rcases hp with hlv | hrd
    · rw [hl] at hlv
      split_ifs at hlv with heq
      · cases hlv
        rw [heq] at ho ⊢
        exact hforg ho
      · exact h.forgotten other ho c (.inl hlv)
    · exact h.forgotten other ho c (.inr hrd)

theorem create (hpo : w.Possible (.create key counters)) :
    Sound (w.step config (.create key counters)) := by
  obtain ⟨hn, hnew, hck, htr⟩ := hpo
  have hfr : ∀ c ∈ w.chronicle key, c.firstSeenNs ≠ counters.firstSeenNs := fun c hc heq =>
    hnew (heq ▸ h.dated key c hc)
  refine h.write (List.subset_cons_self _ _) List.mem_cons_self ?_ fun _ hmem => ?_
  · have hord := h.ordered key
    rw [World.chronicle, hn] at hord hfr
    exact .fresh hord (by simpa using hfr) hck htr
  · obtain ⟨c, hc, hfst⟩ := List.mem_map.1 hmem
    exact hfr c (mem_chronicle.2 (.inr hc)) hfst

theorem count (hpo : w.Possible (.count key counters)) :
    Sound (w.step config (.count key counters)) := by
  obtain ⟨old, hold, hgr⟩ := hpo
  have hord := h.ordered key
  rw [World.chronicle, hold] at hord
  refine h.write (List.Subset.refl _) ?_ (hord.replace hgr) fun hn => ?_
  · rw [hgr.1]
    exact h.dated key old (mem_chronicle.2 (.inl (.inl hold)))
  · rw [hgr.1]
    exact h.forgotten key hn old (.inl hold)

theorem poll {nowNs : ℕ} (hpo : w.Possible (.poll nowNs)) :
    Sound (w.step config (.poll nowNs)) := by
  obtain ⟨-, hfls⟩ := hpo
  have hch : ∀ other, (w.step config (.poll nowNs)).chronicle other = w.chronicle other := by
    intro other
    unfold World.chronicle
    rw [hfls]
    rfl
  refine ⟨fun other => ?_, fun other => ?_, h.waiting, h.once, h.remembered,
    fun other ho c hp => h.forgotten other ho c ?_, h.balanced, h.timeouts⟩
  · rw [hch]
    exact h.ordered other
  · rw [hch]
    exact h.dated other
  · unfold World.Pending
    rw [hfls]
    exact hp

theorem fetch (hpo : w.Possible (.fetch key)) : Sound (w.step config (.fetch key)) := by
  cases hlv : w.map.lookup key with
  | none =>
    have hsm : w.step config (.fetch key) = w := by
      unfold World.step
      simp [hlv]
    rw [hsm]
    exact h
  | some counters =>
    have hfet : (w.step config (.fetch key)).fetched = w.fetched ++ [(key, counters)] := by
      unfold World.step
      simp [hlv]
    have hp : ∀ other c, (w.step config (.fetch key)).Pending other c → w.Pending other c := by
      rintro other c (hmap | hrd)
      · exact .inl hmap
      · rw [hfet, ← List.append_assoc, List.mem_append, List.mem_singleton] at hrd
        rcases hrd with hrd | heq
        · exact .inr hrd
        · cases heq
          exact .inl hlv
    have hnew : key ∉ w.fetched.map Prod.fst := hpo
    refine ⟨fun other => ?_, fun other c hc => ?_, fun entry he => ?_, ?_, h.remembered,
      fun other ho c hc => h.forgotten other ho c (hp other c hc), h.balanced,
      h.timeouts⟩
    · have hord := h.ordered other
      have hsm : (w.step config (.fetch key)).chronicle other = (w.map.lookup other).toList ++
          see ((w.snapshot.flows ++ w.fetched).foldl see w.seen) (key, counters) other := by
        unfold World.chronicle
        rw [hfet, ← List.append_assoc, List.foldl_append]
        rfl
      rw [hsm]
      unfold World.chronicle at hord
      unfold see
      split_ifs with heq
      · rw [heq, hlv] at hord ⊢
        exact hord.again
      · exact hord
    · rcases mem_chronicle.1 hc with hrd | hsn
      · exact h.dated other c (mem_chronicle.2 (.inl (hp other c hrd)))
      · exact h.dated other c (mem_chronicle.2 (.inr hsn))
    · rw [hfet, List.mem_append, List.mem_singleton] at he
      rcases he with he | rfl
      · exact h.waiting entry he
      · exact Option.isSome_iff_exists.2 ⟨counters, hlv⟩
    · rw [hfet, List.map_append]
      exact h.once.append (List.nodup_singleton _) (by simpa using hnew)

variable {rest : List (FlowKey × FlowCounters)} {entry : FlowKey × FlowCounters}

/-- An entry that stays in the map is handed on as it was looked up. -/
theorem retain (hfet : w.fetched = entry :: rest) (retained : ℕ) :
    Sound { w with snapshot := ⟨w.snapshot.flows ++ [entry], retained⟩, fetched := rest } := by
  have hrd : w.snapshot.flows ++ [entry] ++ rest = w.snapshot.flows ++ w.fetched := by
    rw [hfet, List.append_assoc]
    rfl
  have hord := h.ordered
  have hdated := h.dated
  have hforg := h.forgotten
  have hwait := h.waiting
  have honce := h.once
  unfold World.chronicle at hord hdated
  unfold World.Pending at hforg
  rw [← hrd] at hord hdated hforg
  rw [hfet] at hwait honce
  exact ⟨hord, hdated, fun other ho => hwait other (List.mem_cons_of_mem _ ho),
    (List.nodup_cons.1 honce).2, h.remembered, hforg, h.balanced, h.timeouts⟩

/-- An entry that is deleted is handed on as it was in the end. -/
theorem delete (hfet : w.fetched = entry :: rest) {latest : FlowCounters}
    (hlat : w.map.lookup entry.1 = some latest) (retained : ℕ) :
    Sound { w with
      map := w.map.erase entry.1
      snapshot := ⟨w.snapshot.flows ++ [(entry.1, latest)], retained⟩
      fetched := rest } := by
  obtain ⟨key, counters⟩ := entry
  have honce := h.once
  rw [hfet, List.map_cons, List.nodup_cons] at honce
  have herased : (w.map.erase key).lookup key = none := AList.lookup_erase _ _
  have ho : ∀ other, other ≠ key → (w.map.erase key).lookup other = w.map.lookup other :=
    fun other hne => AList.lookup_erase_ne hne
  have hp : ∀ other c, World.Pending
      { w with
        map := w.map.erase key
        snapshot := ⟨w.snapshot.flows ++ [(key, latest)], retained⟩
        fetched := rest } other c → w.Pending other c := by
    rintro other c (hlv | hrd)
    · refine .inl ?_
      grind
    · rw [List.append_assoc, List.mem_append, List.singleton_append, List.mem_cons] at hrd
      rcases hrd with hrd | heq | hrd
      · exact .inr (List.mem_append_left _ hrd)
      · cases heq
        exact .inl hlat
      · exact .inr (List.mem_append_right _ (by rw [hfet]; exact List.mem_cons_of_mem _ hrd))
  refine ⟨fun other => ?_, fun other c hc => ?_, fun entry he => ?_, honce.2, h.remembered,
    fun other hn c hc => h.forgotten other hn c (hp other c hc), h.balanced, h.timeouts⟩
  · have hord := h.ordered other
    unfold World.chronicle at hord ⊢
    rw [hfet] at hord
    rw [List.foldl_append, List.foldl_cons] at hord
    rw [List.append_assoc, List.foldl_append, List.singleton_append, List.foldl_cons]
    by_cases heq : other = key
    · rw [heq, hlat, foldl_see_of_notMem honce.1, see, if_pos rfl] at hord
      rw [heq, herased, foldl_see_of_notMem honce.1, see, if_pos rfl]
      exact hord.skip
    · have hunt : ∀ c, see (w.snapshot.flows.foldl see w.seen) (key, c) other =
          w.snapshot.flows.foldl see w.seen other := fun c => by rw [see, if_neg heq]
      grind [foldl_see_congr]
  · rcases mem_chronicle.1 hc with hrd | hsn
    · exact h.dated other c (mem_chronicle.2 (.inl (hp other c hrd)))
    · exact h.dated other c (mem_chronicle.2 (.inr hsn))
  · have hne : entry.1 ≠ key := by grind
    rw [ho _ hne]
    exact h.waiting entry (by rw [hfet]; exact List.mem_cons_of_mem _ he)

theorem process (deletes : Bool) : Sound (w.step config (.process deletes)) := by
  cases hfet : w.fetched with
  | nil =>
    have hsm : w.step config (.process deletes) = w := by
      unfold World.step
      simp [hfet]
    rw [hsm]
    exact h
  | cons entry rest =>
    have hstp : w.step config (.process deletes) =
        { w with
          map := (processFlowEntry config w.pollNs deletes w.map entry w.snapshot).1
          snapshot := (processFlowEntry config w.pollNs deletes w.map entry w.snapshot).2
          fetched := rest } := by
      unfold World.step
      simp [hfet]
    rw [hstp]
    -- an entry is deleted with its latest counters, or handed on as it was looked up
    unfold processFlowEntry
    split
    · split
      · split
        · rename_i latest hlat
          exact h.delete hfet hlat _
        · exact h.retain hfet _
      · exact h.retain hfet _
    · exact h.retain hfet _

theorem timeout_pos (key : FlowKey) : 0 < w.runtime.timeout key := by
  unfold FlowRuntime.timeout
  split_ifs
  · exact h.timeouts.2
  · exact h.timeouts.1

theorem observing (hfet : w.fetched = []) (now : ℕ) :
    Observing w.runtime.flows w.deltas now w.map.lookup [] w.snapshot.flows w.seen
      (w.runtime.flows, ⟨[], []⟩) := by
  have hord := h.ordered
  have hforg := h.forgotten
  unfold World.chronicle at hord
  unfold World.Pending at hforg
  rw [hfet, List.append_nil] at hord hforg
  refine ⟨hord, h.remembered, hforg, ?_, fun key s hl => ?_⟩
  · rw [List.append_nil]
    exact h.balanced
  · exact .inr ⟨s, hl, rfl, rfl, rfl, rfl, fun _ hmem => absurd hmem List.not_mem_nil⟩

theorem update {now : ℕ} {policyIds : PolicyIds}
    (hpo : w.Possible (.update now policyIds)) (hkp : w.KeepsLive (.update now policyIds)) :
    Sound (w.step config (.update now policyIds)) := by
  obtain ⟨hfet, -⟩ := hpo
  have hdn := (h.observing hfet now).run policyIds
  set seen := w.snapshot.flows.foldl see w.seen with hsn
  set acc := w.snapshot.flows.foldl (observe policyIds now) (w.runtime.flows, ⟨[], []⟩) with hacc
  have hl : ∀ key, (w.step config (.update now policyIds)).runtime.flows.lookup key =
      ((acc.1.lookup key).filter fun state => !isTimedOut w.runtime now key state).map fun state =>
        if turnsIdle now state then { state with lifecycleState := .idle } else state := by
    intro key
    exact (lookup_updateWhere _).trans (by rw [lookup_deleteWhere])
  have hch : ∀ key, (w.step config (.update now policyIds)).chronicle key =
      w.chronicle key := by
    intro key
    unfold World.chronicle
    rw [hfet, List.append_nil]
    change (w.map.lookup key).toList ++ (([] : List (FlowKey × FlowCounters)) ++ w.fetched).foldl see
      seen key = _
    rw [hfet]
    rfl
  have hwait : (w.step config (.update now policyIds)).fetched = [] := hfet
  refine ⟨fun key => ?_, fun key => ?_, ?_, ?_, fun key state hst => ?_,
    fun key hn c hp => ?_, hdn.balanced, h.timeouts⟩
  · rw [hch]
    exact h.ordered key
  · rw [hch]
    exact h.dated key
  · grind
  · rw [hwait]
    exact List.nodup_nil
  · rw [hl] at hst
    obtain ⟨before, hbef, heq⟩ := Option.map_eq_some_iff.1 hst
    have hrem := hdn.remembered key before (Option.filter_eq_some_iff.1 hbef).1
    have hctr : state.counters = before.counters := by
      rw [← heq]
      split_ifs <;> rfl
    rw [hctr]
    exact hrem
  · have hlv : w.map.lookup key = some c := by
      rcases hp with hlv | hrd
      · exact hlv
      · rw [hwait] at hrd
        exact absurd hrd List.not_mem_nil
    cases hst : acc.1.lookup key with
    | none => exact hdn.forgotten key hst c (.inl hlv)
    | some state =>
      have htimedOut : isTimedOut w.runtime now key state = true := by grind
      have hsilent : w.runtime.timeout key ≤ now - state.lastActivity := by
        simpa [isTimedOut] using htimedOut
      obtain ⟨older, hhd⟩ := List.head?_eq_some_iff.1 (hdn.remembered key state hst)
      have hord := hdn.ordered key
      rw [hlv, List.foldl_nil, hhd] at hord
      change c.firstSeenNs ∉ (seen key).map (·.firstSeenNs)
      rw [hhd]
      refine hord.fresh_of_ne fun hfst => ?_
      -- the flow would be forgotten while its entry lives on
      rcases hdn.quiet key state hst with hact | ⟨old, hold, hactivity, hfirst', -, -, hsm⟩
      · have hpositive := h.timeout_pos key
        omega
      · have hk := hkp key c old hlv hold (hfirst'.symm.trans hfst.symm) hsm
        omega

theorem step {event : Event} (hpo : w.Possible event)
    (hkp : w.KeepsLive event) : Sound (w.step config event) := by
  cases event with
  | create key counters => exact h.create hpo
  | count key counters => exact h.count hpo
  | poll nowNs => exact h.poll hpo
  | fetch key => exact h.fetch hpo
  | process deletes => exact h.process deletes
  | update now policyIds => exact h.update hpo hkp

end

theorem run : ∀ {es : List Event} {w : World}, Sound w → w.PossibleRun config es →
    w.KeepsLiveRun config es → Sound (w.run config es)
  | [], _, h, _, _ => h
  | _ :: _, _, h, hpo, hkp => (h.step hpo.1 hkp.1).run hpo.2 hkp.2

end Sound

/-- **Conservation.** If no poll forgets a flow whose entry lives on, the deltas of every lifetime of an
entry add up to the counters that were read last. -/
theorem traffic_conserved (config : Config) (htcp : 0 < config.tcpIdleTimeoutSeconds)
    (hudp : 0 < config.udpIdleTimeoutSeconds) (events : List Event)
    (hpossible : World.PossibleRun config (.start config) events)
    (hkeeps : World.KeepsLiveRun config (.start config) events) (key : FlowKey) (firstSeenNs : ℕ) :
    let w := World.run config (.start config) events
    packetsOf w.deltas key firstSeenNs = (lastRead w.seen key firstSeenNs).packets ∧
      bytesOf w.deltas key firstSeenNs = (lastRead w.seen key firstSeenNs).bytes :=
  ((sound_start htcp hudp).run hpossible hkeeps).balanced key firstSeenNs

/-! ### Sample runs -/

/-- A UDP flow. -/
def sampleKey : FlowKey := ⟨4, 17, 0, 1, 2, 0, 1, 5000, 53⟩

def sampleConfig : Config := ⟨120, 30⟩

/-- A packet after nine tenths of a second, and polls after one second, after half a minute and a second
later. The second one is done at `doneNs`. -/
def samplePolls (doneNs : ℕ) : List Event :=
  [.create sampleKey ⟨1, 100, 900000000, 900000000, 0⟩,
    .poll 1000000000, .fetch sampleKey, .process true, .update 1010000000 none,
    .poll 30900000000, .fetch sampleKey, .process true, .update doneNs none,
    .poll 31900000000, .fetch sampleKey, .process true, .update 31910000000 none]

theorem keepsLive_of_entries {w : World} {now : ℕ} {policyIds : PolicyIds}
    (h : ∀ entry ∈ w.map.entries, ∀ s ∈ w.runtime.flows.lookup entry.1,
      now - s.lastActivity < w.runtime.timeout entry.1) :
    w.KeepsLive (.update now policyIds) := by
  intro key live s hlv hst _ _
  exact h ⟨key, live⟩ (lookup_eq_some_iff.1 hlv) s hst

/-- A poll that is done in a tenth of a second keeps the flow until its entry is deleted. -/
theorem quick_poll_conserves :
    let w := World.run sampleConfig (.start sampleConfig) (samplePolls 31000000000)
    w.map.lookup sampleKey = none ∧ (lastRead w.seen sampleKey 900000000).bytes = 100 ∧
      bytesOf w.deltas sampleKey 900000000 = (lastRead w.seen sampleKey 900000000).bytes := by
  refine ⟨by decide +kernel, by decide +kernel,
    (traffic_conserved sampleConfig (by decide) (by decide) (samplePolls 31000000000)
      (by decide +kernel) ?_ sampleKey 900000000).2⟩
  refine ⟨trivial, trivial, trivial, trivial, ?_, trivial, trivial, trivial, ?_, trivial, trivial,
    trivial, ?_, trivial⟩
  · exact keepsLive_of_entries (by decide +kernel)
  · exact keepsLive_of_entries (by decide +kernel)
  · exact keepsLive_of_entries (by decide +kernel)

/-- A poll that takes a little longer forgets the flow first, and its traffic is counted twice. -/
theorem slow_poll_counts_twice :
    World.PossibleRun sampleConfig (.start sampleConfig) (samplePolls 31010000000) ∧
      let w := World.run sampleConfig (.start sampleConfig) (samplePolls 31010000000)
      (lastRead w.seen sampleKey 900000000).bytes = 100 ∧
        bytesOf w.deltas sampleKey 900000000 = 200 := by
  decide +kernel

end Netqmon.Agent.Conservation
