import Netqmon.Storage.Ledger

/-! # Persisting a telemetry batch

`persistClassifiedBatch` takes in a batch once. Every delta is added to its flow in memory
(`openFlow`, `settle`), to the minute rows, to the correction ledger and from time to time to
the stored session (`checkpoint`). The total dimension is collected in a `TotalRollupBatch` and
written in few statements.

Only what the flows and the traffic tables depend on is modelled: of a device its address and id,
and nothing of names, evidence and gateway health. -/

namespace Netqmon.Storage.Batch

open Lib.Keyed Protocol.Telemetry Attribution Traffic Schema Ledger

def flowCheckpointMs : ℤ := 5 * minuteMs
def totalRollupMaxDeltas : ℤ := 1024
def i64Min : ℤ := -2 ^ 63

/-! ### Minute rows -/

variable (batch : TelemetryBatch)

def minuteBucket (key : DimensionKey) : Bucket :=
  ⟨batchMinute batch, batch.gatewayId, key⟩

def upsertRollup (flow : FlowDelta) (key : DimensionKey) (tiers : Tiers) : Tiers :=
  adjustRollup .minute (minuteBucket batch key) (flowMetrics flow) tiers

/-- The application row of a delta; unlike `applicationKeys` it takes an empty application id for
known. -/
def minuteApplication (attribution : FlowAttribution) : DimensionKey :=
  if attribution.applicationId = "unknown" && attribution.protocolId ≠ ""
      && attribution.protocolId ≠ "unknown" then
    .application (protocolApplication ++ attribution.protocolId) "unknown"
  else .application attribution.applicationId attribution.categoryId

variable (flow : FlowDelta)

/-- The rows of a delta, besides the total. -/
def minuteKeys (attribution : FlowAttribution) (deviceId : Option ℤ) : List DimensionKey :=
  (deviceId.map .device).toList ++
    [minuteApplication attribution, .domain (attribution.domain.getD "unknown"),
      .destination flow.remoteIp]

def persistMinuteRollups (flow : FlowDelta) (attribution : FlowAttribution)
    (deviceId : Option ℤ) (db : Database) : Database :=
  { db with
    tiers := (minuteKeys flow attribution deviceId).foldl
      (fun tiers key => upsertRollup batch flow key tiers) db.tiers
    scopes := adjustScope
      { timestamp := batchMinute batch
        gatewayId := batch.gatewayId
        scope := flow.scope
        direction := flow.direction
        deviceId := deviceId.getD 0
        applicationId := attribution.applicationId
        categoryId := attribution.categoryId
        domain := attribution.domain.getD "unknown"
        remoteIp := flow.remoteIp
        protocol := flow.protocol
        protocolId := attribution.protocolId } (flowMetrics flow) db.scopes }

/-! ### The total dimension -/

/-- Deltas of the total row that are not written yet, and the counters that were read when the
first of them came. -/
structure TotalRollupBatch where
  base : Option (Metrics × Metrics)
  delta : Metrics
  disabled : Bool

namespace TotalRollupBatch

def new : TotalRollupBatch := ⟨none, 0, false⟩

/-- The counters of a row, unless one of them is negative. -/
def readCounters (row : Option Metrics) : Option Metrics :=
  match row with
  | none => some 0
  | some m =>
    if 0 ≤ m.upload && 0 ≤ m.download && 0 ≤ m.packets && 0 ≤ m.flows then some m else none

variable (batch : TelemetryBatch)

def readBase (tiers : Tiers) : Option (Metrics × Metrics) := do
  let bucket := minuteBucket batch .total
  let old ← readCounters (tiers.minute.lookup bucket)
  let pending ← readCounters (tiers.hourPending.lookup (bucket.truncate Tier.hour.size))
  return (old, pending)

def fitsI64 (m : Metrics) : Bool :=
  [m.upload, m.download, m.packets, m.flows].all fun v => i64Min ≤ v && v ≤ i64Max

def flush (totals : TotalRollupBatch) (tiers : Tiers) : TotalRollupBatch × Tiers :=
  ({ totals with base := none, delta := 0 },
    if totals.delta.flows ≠ 0 then
      adjustRollup .minute (minuteBucket batch .total) totals.delta tiers
    else tiers)

def withBase (tiers : Tiers) (totals : TotalRollupBatch) : TotalRollupBatch :=
  if !totals.disabled && totals.base.isNone then
    match readBase batch tiers with
    | some base => { totals with base := some base }
    | none => { totals with disabled := true }
  else totals

def add (flow : FlowDelta) (totals : TotalRollupBatch) (tiers : Tiers) : TotalRollupBatch × Tiers :=
  let totals := totals.withBase batch tiers
  match totals.base with
  | some (old, pending) =>
    let next := totals.delta + flowMetrics flow
    if fitsI64 next && fitsI64 (old + next) && fitsI64 (pending + next) then
      let totals := { totals with delta := next }
      if next.flows = totalRollupMaxDeltas then flush batch totals tiers else (totals, tiers)
    else
      let flushed := flush batch totals tiers
      ({ flushed.1 with disabled := true }, upsertRollup batch flow .total flushed.2)
  | none => (totals, upsertRollup batch flow .total tiers)

end TotalRollupBatch

/-! ### One delta -/

/-- What the loop over the deltas of a batch works on. -/
structure BatchState where
  active : Rows FlowKey ActiveFlow
  deviceIds : Rows Bytes (Option ℤ)
  totals : TotalRollupBatch
  db : Database

/-- The flow of a delta: the one in memory, or a new one with what is stored of its session. -/
def openFlow (flow : FlowDelta) (receivedAt : ℤ) (st : BatchState) : ActiveFlow :=
  let key := FlowKey.fromBatch batch.gatewayId flow
  match st.active.lookup key with
  | some current => current
  | none => restore st.db (ActiveFlow.new key flow .unknown receivedAt)

/-- A new attribution applies to what the session has counted before. -/
def settle (previous : FlowAttribution) (current : ActiveFlow)
    (receivedAt : ℤ) (st : BatchState) : BatchState :=
  if current.attribution ≠ previous then
    let flushed := st.totals.flush batch st.db.tiers
    { st with
      totals := flushed.1
      db := reassign current.sessionId current.attribution receivedAt
        { st.db with tiers := flushed.2 } }
  else st

/-- Device ids are looked up once in a batch. -/
def findDevice (mac : Bytes) (st : BatchState) : Option ℤ :=
  (st.deviceIds.lookup mac).getD (deviceIdForMac st.db batch.gatewayId mac)

/-- Count a delta. -/
def count (flow : FlowDelta) (current : ActiveFlow) (receivedAt : ℤ)
    (st : BatchState) : BatchState :=
  let added := st.totals.add batch flow st.db.tiers
  { st with
    totals := added.1
    db := record current batch flow receivedAt
      (persistMinuteRollups batch flow current.attribution current.deviceId
        { st.db with tiers := added.2 }) }

def isEnded : Bool := flow.lifecycle = lifecycleEnded

def checkpointDue (current : ActiveFlow) (receivedAt : ℤ) : Bool :=
  flowCheckpointMs ≤ receivedAt - current.checkpointedAt

def checkpoint (current : ActiveFlow) (receivedAt : ℤ) (db : Database) : Database :=
  let endedAt := if isEnded flow then some (flowLifecycleEndAt flow receivedAt) else none
  if (isEnded flow || checkpointDue current receivedAt) && 0 < current.lastSeenAt then
    writeFlowSession current endedAt receivedAt db
  else db

def checkpointed (flow : FlowDelta) (current : ActiveFlow) (receivedAt : ℤ) : ActiveFlow :=
  if isEnded flow || checkpointDue current receivedAt then
    { current with checkpointedAt := receivedAt }
  else current

def updateActiveFlow (receivedAt : ℤ) (st : BatchState)
    (delta : FlowDelta × FlowAttribution) : BatchState :=
  let flow := delta.1
  let key := FlowKey.fromBatch batch.gatewayId flow
  let opened := openFlow batch flow receivedAt st
  let added := opened.add flow delta.2 receivedAt
  let settled := settle batch opened.attribution added receivedAt st
  let deviceId := findDevice batch added.clientMac settled
  let current := { added with deviceId := deviceId.or added.deviceId }
  let counted := count batch flow current receivedAt settled
  { counted with
    active := if isEnded flow then counted.active.erase key
      else counted.active.insert key (checkpointed flow current receivedAt)
    deviceIds := counted.deviceIds.insert added.clientMac deviceId
    db := checkpoint flow current receivedAt counted.db }

/-! ### A batch -/

/-- Every delta with its attribution; a missing one is unknown. -/
def classified (flows : List FlowDelta) (attributions : List FlowAttribution) :
    List (FlowDelta × FlowAttribution) :=
  flows.zipIdx.map fun flow => (flow.1, attributions.getD flow.2 .unknown)

variable (attributions : List FlowAttribution)

def updateActiveFlows (receivedAt : ℤ) (active : Rows FlowKey ActiveFlow) (db : Database) :
    Rows FlowKey ActiveFlow × Database :=
  let st := (classified batch.flows attributions).foldl (updateActiveFlow batch receivedAt)
    ⟨active, ∅, .new, db⟩
  (st.active, { st.db with tiers := (st.totals.flush batch st.db.tiers).2 })

variable (active : Rows FlowKey ActiveFlow)

def stageActiveFlows (batch : TelemetryBatch) : Rows FlowKey ActiveFlow :=
  batch.flows.foldl (fun staged flow =>
    let key := FlowKey.fromBatch batch.gatewayId flow
    match staged.lookup key, active.lookup key with
    | none, some current => staged.insert key current
    | _, _ => staged) ∅

/-- Insert all rows of the second table. -/
def extend {K V : Type} [DecidableEq K] (t u : Rows K V) : Rows K V :=
  u.entries.foldl (fun t e => t.insert e.1 e.2) t

/-- A flow that ended is no longer staged, so the flows of the batch are removed first. -/
def commitActiveFlows (batch : TelemetryBatch)
    (staged : Rows FlowKey ActiveFlow) : Rows FlowKey ActiveFlow :=
  extend (batch.flows.foldl (fun active flow =>
    active.erase (FlowKey.fromBatch batch.gatewayId flow)) active) staged

/-- New devices get the next id. -/
def persistDevices (db : Database) : Database :=
  { db with
    devices := batch.deviceObservations.foldl (fun devices device =>
      upsert devices (batch.gatewayId, device.mac) (devices.entries.length + 1) id) db.devices }

inductive PersistDisposition
  | accepted
  | duplicate
deriving DecidableEq

def persistClassifiedBatch
    (receivedAtMs : ℕ) (storage : SqliteStorage) : PersistDisposition × SqliteStorage :=
  let receivedAt := toI64 receivedAtMs
  let entry := (batch.gatewayId, batch.bootId, toI64 batch.sequence)
  if (storage.database.ingestBatches.lookup entry).isSome then (.duplicate, storage)
  else
    let db := persistDevices batch
      { storage.database with
        ingestBatches := storage.database.ingestBatches.insert entry receivedAt }
    let updated := updateActiveFlows batch attributions receivedAt
      (stageActiveFlows storage.activeFlows batch) db
    (.accepted, ⟨updated.2, commitActiveFlows storage.activeFlows batch updated.1⟩)

end Netqmon.Storage.Batch
