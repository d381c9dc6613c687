import Netqmon.Storage.Retention

/-! # Restarts

A storage that is opened on an existing database first prunes it, in bounded slices and as far as its
time allows. Then it loads the flows that were heard of in the last thirty minutes: those with an
open checkpoint, and those with an open ledger session, which knows more. -/

namespace Netqmon.Storage.Restart

open Lib.Keyed Attribution Schema Ledger Operations Retention

/-! ### Pruning at the start -/

/-- What happens in one round of the loop; the rounds end when the time is up. -/
inductive StartupTurn
  | busy
  | interrupted
  | committed (scan : Scan) (fast : Bool)

def maxRowsPerBatch : ℕ := 500

/-- The row limit after a slice that left work. -/
def rampUp (fast : Bool) (rows : ℕ) : ℕ :=
  if rows < maxRowsPerBatch && fast then min (rows * 2) maxRowsPerBatch else rows

def pruneReclassificationAtStartup (nowMs : ℕ) :
    List StartupTurn → ℕ → SqliteStorage → SqliteStorage
  | [], _, storage => storage
  | .busy :: turns, rows, storage => pruneReclassificationAtStartup nowMs turns rows storage
  | .interrupted :: turns, rows, storage =>
    pruneReclassificationAtStartup nowMs turns (halve rows) storage
  | .committed scan fast :: turns, rows, storage =>
    let pruned := pruneReclassificationBounded scan nowMs rows storage
    if pruned.1 then pruned.2
    else pruneReclassificationAtStartup nowMs turns (rampUp fast rows) pruned.2

/-! ### Loading -/

/-- An open checkpoint of the last thirty minutes. -/
def isResumable (now : ℤ) (row : FlowSession) : Bool :=
  row.endedAt.isNone && now - activeFlowTtlMs < row.checkpointedAt

def resumed (id : SessionId) (row : FlowSession) : ActiveFlow :=
  { sessionId := id
    clientMac := []
    deviceId := row.deviceId
    uploadBytes := row.uploadBytes
    downloadBytes := row.downloadBytes
    packets := row.packets
    startedAt := row.startedAt
    lastSeenAt := row.lastSeenAt
    checkpointedAt := row.checkpointedAt
    lastReceivedAt := row.checkpointedAt
    attribution := row.attribution
    scope := row.scope
    pathType := row.pathType
    nat := row.nat
    sourceSegment := row.sourceSegment
    destinationSegment := row.destinationSegment }

/-- An open ledger session of the last thirty minutes. -/
def isRecent (now : ℤ) (row : RollupSession) : Bool :=
  row.endedAt.isNone && now - correctionWindowMs < row.updatedAt

/-- What the ledger and the checkpoint know of one session. -/
def joined (restored current : ActiveFlow) : ActiveFlow :=
  { restored with
    attribution := merge restored.attribution current.attribution
    uploadBytes := max restored.uploadBytes current.uploadBytes
    downloadBytes := max restored.downloadBytes current.downloadBytes
    packets := max restored.packets current.packets
    lastSeenAt := max restored.lastSeenAt current.lastSeenAt
    checkpointedAt := max restored.checkpointedAt current.checkpointedAt }

/-- Of two sessions of a flow the one that started later is kept. -/
def restoreRow (active : Rows FlowKey ActiveFlow) (restored : ActiveFlow) : Rows FlowKey ActiveFlow :=
  let key := restored.sessionId.key
  match active.lookup key with
  | none => active.insert key restored
  | some current =>
    if current.sessionId = restored.sessionId then active.insert key (joined restored current)
    else if restored.startedAt ≤ current.startedAt then active
    else active.insert key restored

variable (scan : Scan)

def restoreActive (now : ℤ) (db : Database) (active : Rows FlowKey ActiveFlow) :
    Rows FlowKey ActiveFlow :=
  ((scan.order (select (fun _ row => isRecent now row) db.rollupSessions)).map
    (·.2.recovered)).foldl restoreRow active

def loadActiveFlows (now : ℤ) (db : Database) : Rows FlowKey ActiveFlow :=
  restoreActive scan now db
    ((scan.order (select (fun _ row => isResumable now row) db.flowSessions)).foldl
      (fun active row => active.insert row.1.key (resumed row.1 row.2)) ∅)

def fromConnectionAt (turns : List StartupTurn) (nowMs : ℕ) (db : Database) : SqliteStorage :=
  let pruned := pruneReclassificationAtStartup nowMs turns maxRowsPerBatch ⟨db, ∅⟩
  ⟨pruned.database, loadActiveFlows scan (toI64 nowMs) pruned.database⟩

end Netqmon.Storage.Restart
