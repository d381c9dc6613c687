import Netqmon.Storage.Restart
import Netqmon.Storage.Staging

/-! # Maintenance in the collector

The collector takes in batches and late samples with its serving storage. A maintenance pass on a
database file works with a second connection, whose storage has no flows in memory
(`maintenanceWriter`), so it changes the database but not the flows that the serving storage holds.
Those are the flows that were loaded at the start or heard of since, and whose last delta was not an
end (`isOpen_foldl`). -/

namespace Netqmon.Collector.Maintenance

open Lib.Keyed Protocol.Telemetry Storage.Attribution Storage.Schema Storage.Ledger Storage.Batch
open Storage.Operations Storage.Retention Storage.Restart Storage.Staging

/-! ### Passes -/

variable (storage : SqliteStorage)

/-- An independent connection to the database file of the storage. -/
def maintenanceWriter : SqliteStorage := ⟨storage.database, ∅⟩

structure MaintenancePass where
  retention : Bool
  nowMs : ℕ
  policy : RetentionPolicy
  maxRows : ℕ
  scan : Scan
  turns : List Turn

/-- The result says whether the pass has completed. -/
def runMaintenance (pass : MaintenancePass) (storage : SqliteStorage) : Bool × SqliteStorage :=
  let writer := maintenanceWriter storage
  let finished :=
    if pass.retention then
      runRetentionBounded pass.scan pass.turns pass.nowMs pass.policy pass.maxRows writer
    else
      let pruned := pruneReclassificationBounded pass.scan pass.nowMs pass.maxRows writer
      if !pruned.1 then (false, pruned.2) else (true, rollUpHourAndDay pass.nowMs pruned.2)
  (finished.1, { storage with database := finished.2.database })

/-! ### Runs -/

inductive CollectorOp
  | ingest (batch : TelemetryBatch) (attributions : List FlowAttribution) (receivedAtMs : ℕ)
  | sample (scan : Scan) (gateway : String) (flow : FlowDelta) (attribution : FlowAttribution)
      (receivedAtMs : ℕ)
  | maintain (pass : MaintenancePass)
  | restart (scan : Scan) (turns : List StartupTurn) (nowMs : ℕ)

def step : CollectorOp → SqliteStorage
  | .ingest batch attributions receivedAtMs =>
    (persistClassifiedBatch batch attributions receivedAtMs storage).2
  | .sample scan gateway flow attribution receivedAtMs =>
    reclassifyFlowAt scan gateway flow attribution receivedAtMs storage
  | .maintain pass => (runMaintenance pass storage).2
  | .restart scan turns nowMs => fromConnectionAt scan turns nowMs storage.database

def run (ops : List CollectorOp) : SqliteStorage := ops.foldl step .empty

variable (key : FlowKey)

/-- A batch with a delta of the flow was received after the given time. -/
def heard (time : ℤ) : CollectorOp → Bool
  | .ingest batch _ receivedAtMs => (batchKeys batch).contains key && time < toI64 receivedAtMs
  | _ => false

/-- Whether the last delta of a flow was not an end. -/
def openAfter (gatewayId : String) (key : FlowKey) (wasOpen : Bool) (flows : List FlowDelta) :
    Bool :=
  flows.foldl (fun isOpen flow =>
    if FlowKey.fromBatch gatewayId flow = key then !isEnded flow else isOpen) wasOpen

/-- The batch of an operation, if it is one that the storage takes in. -/
def accepted : CollectorOp → Option TelemetryBatch
  | .ingest batch attributions receivedAtMs =>
    if (persistClassifiedBatch batch attributions receivedAtMs storage).1 = .accepted then
      some batch
    else none
  | _ => none

/-- A flow is open after an operation: a start loads it, and deltas decide by their lifecycle. -/
def openNext (storage : SqliteStorage) (wasOpen : Bool) (op : CollectorOp) : Bool :=
  match op with
  | .restart scan turns nowMs =>
    ((fromConnectionAt scan turns nowMs storage.database).activeFlows.lookup key).isSome
  | op => (accepted storage op).elim wasOpen fun batch =>
      openAfter batch.gatewayId key wasOpen batch.flows

/-- Whether the last delta that was taken in of a flow, or its load at a start, leaves it open. -/
def leftOpen (key : FlowKey) : SqliteStorage → Bool → List CollectorOp → Bool
  | _, wasOpen, [] => wasOpen
  | storage, wasOpen, op :: ops =>
    leftOpen key (step storage op) (openNext key storage wasOpen op) ops

/-! ### The flows in memory -/

variable (batch : TelemetryBatch)

theorem isSome_foldl_updateActiveFlow (receivedAt : ℤ) (key : FlowKey)
    (deltas : List (FlowDelta × FlowAttribution)) (st : BatchState) :
    ((deltas.foldl (updateActiveFlow batch receivedAt) st).active.lookup key).isSome =
      openAfter batch.gatewayId key (st.active.lookup key).isSome (deltas.map Prod.fst) := by
  induction deltas generalizing st with
  | nil => rfl
  | cons delta deltas ih =>
    rw [List.foldl_cons, ih, lookup_updateActiveFlow]
    unfold openAfter
    grind [flowAfter]

theorem map_fst_classified (flows : List FlowDelta) (attrs : List FlowAttribution) :
    (classified flows attrs).map Prod.fst = flows := by
  rw [classified, List.map_map]
  exact List.zipIdx_map_fst 0 flows

/-- A late sample changes flows in memory, but not which ones there are. -/
theorem isSome_stagedSamples {active : Rows FlowKey ActiveFlow} {gateway : String}
    {flow : FlowDelta} {key : FlowKey}
    (h : ((stagedSamples active gateway flow).lookup key).isSome = true) :
    (active.lookup key).isSome = true := by
  refine List.foldlRecOn (motive := fun staged : Rows FlowKey ActiveFlow =>
    (staged.lookup key).isSome = true → (active.lookup key).isSome = true) _ _
      (fun hem => by cases hem) (fun staged hstg k _ => ?_) h
  cases hk : active.lookup k with
  | none => exact hstg
  | some cur =>
    dsimp only
    split_ifs
    · intro hins
      rw [lookup_insert_ite] at hins
      split_ifs at hins with hkey
      · rw [hkey, hk]
        rfl
      · exact hstg hins
    · exact hstg

variable (ops : List CollectorOp) (storage : SqliteStorage)

theorem isOpen_step (op : CollectorOp) :
    ((step storage op).activeFlows.lookup key).isSome =
      openNext key storage (storage.activeFlows.lookup key).isSome op := by
  cases op with
  | ingest batch attrs receivedAtMs =>
    unfold openNext step accepted persistClassifiedBatch
    dsimp only
    by_cases hkn : (storage.database.ingestBatches.lookup
        (batch.gatewayId, batch.bootId, toI64 batch.sequence)).isSome = true
    · grind
    · rw [if_neg hkn, if_pos rfl, Option.elim_some, lookup_staged]
      unfold updateActiveFlows
      rw [isSome_foldl_updateActiveFlow, map_fst_classified]
  | sample scan gateway flow attr receivedAtMs =>
    unfold step reclassifyFlowAt reclassifySqlite
    rw [lookup_extend, Option.isSome_or, lookup_updateWhere, Option.isSome_map]
    cases hstg : ((stagedSamples storage.activeFlows gateway flow).lookup key).isSome with
    | false => rfl
    | true => rw [isSome_stagedSamples hstg]; rfl
  | maintain pass => rfl
  | restart scan turns nowMs => rfl

/-- **The flows in memory** are those that were left open, however often maintenance has run. -/
theorem isOpen_foldl :
    ((ops.foldl step storage).activeFlows.lookup key).isSome =
      leftOpen key storage (storage.activeFlows.lookup key).isSome ops := by
  induction ops generalizing storage with
  | nil => rfl
  | cons op ops ih =>
    rw [List.foldl_cons, ih, isOpen_step]
    rfl

/-! ### What a pass leaves -/

/-- The time from which on a flow counts as recent in a pass. -/
def recentFrom (pass : MaintenancePass) : ℤ := toI64 pass.nowMs - activeFlowTtlMs

/-- **Recency of the flows in memory.** After a pass that has completed, every flow in memory was
heard of in the last thirty minutes exactly if this holds for every flow that was left open. A pass
does not remove the others. -/
theorem active_flows_recent_iff (ops : List CollectorOp) (pass : MaintenancePass)
    (_hdone : (runMaintenance pass (run ops)).1 = true) :
    (∀ key flow, (runMaintenance pass (run ops)).2.activeFlows.lookup key = some flow →
        ops.any (heard key (recentFrom pass)) = true) ↔
      ∀ key, leftOpen key .empty false ops = true →
        ops.any (heard key (recentFrom pass)) = true := by
  have hopen : ∀ key, ((runMaintenance pass (run ops)).2.activeFlows.lookup key).isSome =
      leftOpen key .empty false ops := fun key => isOpen_foldl key ops .empty
  constructor
  · intro h key hkey
    rw [← hopen] at hkey
    obtain ⟨flow, hflow⟩ := Option.isSome_iff_exists.1 hkey
    exact h key flow hflow
  · grind

/-! ### A flow whose end never arrives -/

def samplePass (retention : Bool) (age : ℕ) : MaintenancePass where
  retention
  nowMs := sampleTime + age
  policy := .default
  maxRows := 500
  scan := .asStored
  turns := []

def sampleKey : FlowKey := FlowKey.fromBatch "gateway" (sampleFlow 0 1)

/-- One batch, and nothing is heard of its flow for an hour. -/
theorem silent_flow_stays_in_memory :
    (runMaintenance (samplePass false 3600000)
        (run [.ingest (sampleBatch 1 0 1) [] sampleTime])).1 = true ∧
      ((runMaintenance (samplePass false 3600000)
        (run [.ingest (sampleBatch 1 0 1) [] sampleTime])).2.activeFlows.lookup
          sampleKey).isSome = true ∧
      [CollectorOp.ingest (sampleBatch 1 0 1) [] sampleTime].any
        (heard sampleKey (recentFrom (samplePass false 3600000))) = false := by
  decide +kernel

/-- The flow was heard of ten minutes before the pass. -/
theorem heard_flow_is_recent :
    (runMaintenance (samplePass false 600000)
        (run [.ingest (sampleBatch 1 0 1) [] sampleTime])).1 = true ∧
      ∀ key flow, (runMaintenance (samplePass false 600000)
        (run [.ingest (sampleBatch 1 0 1) [] sampleTime])).2.activeFlows.lookup key = some flow →
          [CollectorOp.ingest (sampleBatch 1 0 1) [] sampleTime].any
            (heard key (recentFrom (samplePass false 600000))) = true := by
  have hdone : (runMaintenance (samplePass false 600000)
      (run [.ingest (sampleBatch 1 0 1) [] sampleTime])).1 = true := by decide +kernel
  refine ⟨hdone, (active_flows_recent_iff _ _ hdone).2 fun key hkey => ?_⟩
  by_cases hsample : key = sampleKey
  · rw [hsample]
    decide +kernel
  · have hclosed :
        leftOpen key .empty false [.ingest (sampleBatch 1 0 1) [] sampleTime] = false := by
      exact if_neg (Ne.symm hsample)
    rw [hclosed] at hkey
    cases hkey

end Netqmon.Collector.Maintenance
