import Netqmon.Agent.Flow
import Netqmon.Lib.Keyed

/-! # The flow runtime

At every poll the agent reads the kernel's flow map and compares it with what it remembers of each
flow. `update` returns the traffic since the last poll (`deltas`) and the changes of state
(`lifecycleEvents`). Durations are nanoseconds.

The runtime's table is scanned in the order in which it is stored. -/

namespace Netqmon.Agent.Polling

open Agent.Flow Lib.Keyed

/-! ### Data -/

structure FlowCounters where
  (packets bytes firstSeenNs lastSeenNs tcpFlags : ℕ)
deriving DecidableEq

def FlowCounters.zero : FlowCounters := ⟨0, 0, 0, 0, 0⟩

inductive FlowState
  | active
  | idle
  | ended
deriving DecidableEq

structure FlowLifecycleEvent where
  key : FlowKey
  policyFlowId : Option String
  state : FlowState
deriving DecidableEq

structure FlowDelta where
  key : FlowKey
  policyFlowId : Option String
  (packets bytes : ℕ)
  counters : FlowCounters
deriving DecidableEq

structure FlowRuntimeState where
  counters : FlowCounters
  lastActivity : ℕ
  lifecycleState : FlowState
deriving DecidableEq

structure FlowRuntime where
  flows : Rows FlowKey FlowRuntimeState
  (tcpIdleTimeout udpIdleTimeout : ℕ)

structure FlowRuntimeUpdate where
  deltas : List FlowDelta
  lifecycleEvents : List FlowLifecycleEvent
deriving DecidableEq

/-- How flow ids are made from a key and the time it was first seen, if they are enabled. -/
abbrev PolicyIds : Type := Option (FlowKey → ℕ → String)

/-! ### One entry of the flow map -/

/-- A counter that was reset counts from zero. -/
def monotonicDelta (current previous : ℕ) : ℕ :=
  if previous ≤ current then current - previous else current

/-- The kernel has started another flow under the key. -/
def isRestarted (previous : FlowRuntimeState) (counters : FlowCounters) : Bool :=
  counters.firstSeenNs ≠ 0 && previous.counters.firstSeenNs ≠ 0
    && counters.firstSeenNs ≠ previous.counters.firstSeenNs

/-- What is remembered of the flow that an entry belongs to. -/
def current (flows : Rows FlowKey FlowRuntimeState) (now : ℕ) (entry : FlowKey × FlowCounters) :
    FlowRuntimeState :=
  match flows.lookup entry.1 with
  | some previous =>
    if isRestarted previous entry.2 then
      { previous with counters := .zero, lifecycleState := .idle }
    else previous
  | none => ⟨.zero, now, .idle⟩

/-- A flow that was replaced by another one under its key has ended. -/
def replaced (policyIds : PolicyIds) (flows : Rows FlowKey FlowRuntimeState)
    (entry : FlowKey × FlowCounters) : List FlowLifecycleEvent :=
  match flows.lookup entry.1 with
  | some previous =>
    if isRestarted previous entry.2 then
      [⟨entry.1, policyIds.map fun id => id entry.1 previous.counters.firstSeenNs, .ended⟩]
    else []
  | none => []

def observe (policyIds : PolicyIds) (now : ℕ)
    (acc : Rows FlowKey FlowRuntimeState × FlowRuntimeUpdate) (entry : FlowKey × FlowCounters) :
    Rows FlowKey FlowRuntimeState × FlowRuntimeUpdate :=
  let state := current acc.1 now entry
  let events := acc.2.lifecycleEvents ++ replaced policyIds acc.1 entry
  let packets := monotonicDelta entry.2.packets state.counters.packets
  let bytes := monotonicDelta entry.2.bytes state.counters.bytes
  let id := policyIds.map fun id => id entry.1 entry.2.firstSeenNs
  if packets ≠ 0 ∨ bytes ≠ 0 then
    (acc.1.insert entry.1 ⟨entry.2, now, .active⟩,
      { deltas := acc.2.deltas ++ [⟨entry.1, id, packets, bytes, entry.2⟩]
        lifecycleEvents :=
          if state.lifecycleState = .active then events else events ++ [⟨entry.1, id, .active⟩] })
  else
    (acc.1.insert entry.1 { state with counters := entry.2 }, { acc.2 with lifecycleEvents := events })

/-! ### Silent flows -/

variable (runtime : FlowRuntime)

def FlowRuntime.timeout (key : FlowKey) : ℕ :=
  if key.protocol = 17 then runtime.udpIdleTimeout else runtime.tcpIdleTimeout

def isTimedOut (now : ℕ) (key : FlowKey) (state : FlowRuntimeState) : Bool :=
  runtime.timeout key ≤ now - state.lastActivity

def turnsIdle (now : ℕ) (state : FlowRuntimeState) : Bool :=
  0 < now - state.lastActivity && state.lifecycleState = .active

/-- The event of a flow in the last pass over all flows. -/
def silence (policyIds : PolicyIds) (now : ℕ)
    (row : FlowKey × FlowRuntimeState) : Option FlowLifecycleEvent :=
  let id := policyIds.map fun id => id row.1 row.2.counters.firstSeenNs
  if isTimedOut runtime now row.1 row.2 then some ⟨row.1, id, .ended⟩
  else if turnsIdle now row.2 then some ⟨row.1, id, .idle⟩
  else none

def updateWithPolicyIds (entries : List (FlowKey × FlowCounters)) (now : ℕ)
    (policyIds : PolicyIds) : FlowRuntime × FlowRuntimeUpdate :=
  let observed := entries.foldl (observe policyIds now) (runtime.flows, ⟨[], []⟩)
  let silenced := (select (fun _ _ => true) observed.1).filterMap (silence runtime policyIds now)
  ({ runtime with
      flows := updateWhere (fun _ state => turnsIdle now state)
        (fun _ state => { state with lifecycleState := .idle })
        (deleteWhere (isTimedOut runtime now) observed.1) },
    { observed.2 with lifecycleEvents := observed.2.lifecycleEvents ++ silenced })

/-! ### Flows seen for the first time -/

section Fresh

variable {policyIds : PolicyIds} {now : ℕ}

/-- The delta of a flow that is new. -/
def freshDelta (policyIds : PolicyIds) (entry : FlowKey × FlowCounters) : FlowDelta :=
  ⟨entry.1, policyIds.map fun id => id entry.1 entry.2.firstSeenNs, entry.2.packets, entry.2.bytes,
    entry.2⟩

def freshEvent (policyIds : PolicyIds) (entry : FlowKey × FlowCounters) : FlowLifecycleEvent :=
  ⟨entry.1, policyIds.map fun id => id entry.1 entry.2.firstSeenNs, .active⟩

theorem observe_fresh {acc : Rows FlowKey FlowRuntimeState × FlowRuntimeUpdate}
    {e : FlowKey × FlowCounters} (hfr : acc.1.lookup e.1 = none) (htr : e.2.packets ≠ 0) :
    observe policyIds now acc e =
      (acc.1.insert e.1 ⟨e.2, now, .active⟩,
        ⟨acc.2.deltas ++ [freshDelta policyIds e],
          acc.2.lifecycleEvents ++ [freshEvent policyIds e]⟩) := by
  have hcur : current acc.1 now e = ⟨.zero, now, .idle⟩ := by
    unfold current
    rw [hfr]
  have hreplaced : replaced policyIds acc.1 e = [] := by
    unfold replaced
    rw [hfr]
  unfold observe
  rw [hcur, hreplaced]
  simp [FlowCounters.zero, monotonicDelta, htr, freshDelta, freshEvent]

/-- Every flow of the table was active in this poll. -/
def AllActive (now : ℕ) (flows : Rows FlowKey FlowRuntimeState) : Prop :=
  ∀ key state, flows.lookup key = some state → state.lastActivity = now

theorem AllActive.insert {flows : Rows FlowKey FlowRuntimeState} (h : AllActive now flows)
    (key : FlowKey) (counters : FlowCounters) :
    AllActive now (flows.insert key ⟨counters, now, .active⟩) := by
  intro other s hl
  by_cases hkey : other = key
  · grind
  · rw [AList.lookup_insert_ne hkey] at hl
    exact h other s hl

theorem foldl_observe_fresh :
    ∀ {entries : List (FlowKey × FlowCounters)}
      {acc : Rows FlowKey FlowRuntimeState × FlowRuntimeUpdate},
      (entries.map Prod.fst).Nodup → (∀ e ∈ entries, acc.1.lookup e.1 = none) →
      (∀ e ∈ entries, e.2.packets ≠ 0) → AllActive now acc.1 →
      (entries.foldl (observe policyIds now) acc).2 =
          ⟨acc.2.deltas ++ entries.map (freshDelta policyIds),
            acc.2.lifecycleEvents ++ entries.map (freshEvent policyIds)⟩ ∧
        AllActive now (entries.foldl (observe policyIds now) acc).1
  | [], acc, _, _, _, hact => ⟨by simp, hact⟩
  | e :: entries, acc, hnd, hfr, htr, hact => by
    rw [List.map_cons, List.nodup_cons] at hnd
    have hone := @observe_fresh policyIds now acc e (hfr e List.mem_cons_self)
      (htr e List.mem_cons_self)
    have hr : ∀ other ∈ entries,
        (acc.1.insert e.1 ⟨e.2, now, .active⟩).lookup other.1 = none := by
      intro other ho
      have hne : other.1 ≠ e.1 := fun heq => hnd.1 (heq ▸ List.mem_map_of_mem ho)
      rw [AList.lookup_insert_ne hne]
      exact hfr other (List.mem_cons_of_mem _ ho)
    obtain ⟨hup, hact⟩ := @foldl_observe_fresh entries
      (acc.1.insert e.1 ⟨e.2, now, .active⟩,
        ⟨acc.2.deltas ++ [freshDelta policyIds e],
          acc.2.lifecycleEvents ++ [freshEvent policyIds e]⟩)
      hnd.2 hr (fun other ho => htr other (List.mem_cons_of_mem _ ho))
      (hact.insert e.1 e.2)
    grind

/-- The first poll reports every flow with traffic once, and no flow as silent. -/
theorem update_fresh {runtime : FlowRuntime} {entries : List (FlowKey × FlowCounters)}
    (hem : runtime.flows = ∅) (htcp : 0 < runtime.tcpIdleTimeout)
    (hudp : 0 < runtime.udpIdleTimeout) (hnd : (entries.map Prod.fst).Nodup)
    (htr : ∀ e ∈ entries, e.2.packets ≠ 0) :
    (updateWithPolicyIds runtime entries now policyIds).2 =
      ⟨entries.map (freshDelta policyIds), entries.map (freshEvent policyIds)⟩ := by
  obtain ⟨hup, hact⟩ := @foldl_observe_fresh policyIds now entries (∅, ⟨[], []⟩) hnd
    (fun _ _ => rfl) htr (fun _ _ h => by cases h)
  have htimeout : ∀ key, 0 < runtime.timeout key := by grind [FlowRuntime.timeout]
  unfold updateWithPolicyIds
  rw [hem]
  dsimp only
  rw [hup, List.filterMap_eq_nil_iff.2 ?_, List.append_nil]
  · rfl
  · intro row hrow
    unfold silence isTimedOut turnsIdle
    rw [hact row.1 row.2 (mem_select.1 hrow).1]
    simp [Nat.pos_iff_ne_zero.1 (htimeout row.1)]

end Fresh

end Netqmon.Agent.Polling
