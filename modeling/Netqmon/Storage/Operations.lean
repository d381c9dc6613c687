import Netqmon.Storage.Batch

/-! # The operations of the storage

Besides taking in batches the storage reclassifies flows from late samples, rolls minutes up to hours
and days, and prunes what is no longer needed, either at once or in bounded slices. `run` is any
sequence of these operations on a new database. -/

namespace Netqmon.Storage.Operations

open Lib.Keyed Protocol.Telemetry Attribution Traffic Schema Ledger Batch

/-! ### Late classification -/

/-- The sample was taken in the lifetime of a session with these times. -/
def lifetimeMatches (flow : FlowDelta) (startedAt lastSeenAt : ℤ) : Bool :=
  startedAt ≤ toI64 (u64SaturatingSucc flow.lastSeenUnixMs)
    && toI64 (flow.firstSeenUnixMs - 1) ≤ lastSeenAt

/-- The addresses of a session are those of the sample. -/
def tupleMatches (key : FlowKey) (gateway : String) (flow : FlowDelta) : Bool :=
  key.gatewayId == gateway && key.ipVersion == flow.ipVersion && key.protocol == flow.protocol
    && key.clientIp == flow.clientIp && key.clientPort == flow.clientPort
    && key.remoteIp == flow.remoteIp && key.remotePort == flow.remotePort

def sampleMatches (key : FlowKey) (current : ActiveFlow) (gateway : String) (flow : FlowDelta) :
    Bool :=
  tupleMatches key gateway flow && lifetimeMatches flow current.startedAt current.lastSeenAt

variable (active : Rows FlowKey ActiveFlow)

/-- The flows in memory that a sample is about. -/
def stagedSamples (gateway : String) (flow : FlowDelta) : Rows FlowKey ActiveFlow :=
  (FlowKey.sampleKeys gateway flow).foldl (fun staged key =>
    match active.lookup key with
    | some current =>
      if sampleMatches key current gateway flow then staged.insert key current else staged
    | none => staged) ∅

/-- The stored sessions that a sample is about. -/
def sampledSessions (db : Database) (gateway : String) (flow : FlowDelta) :
    List (SessionId × FlowSession) :=
  select (fun id row => tupleMatches id.key gateway flow
    && lifetimeMatches flow row.startedAt row.lastSeenAt) db.flowSessions

/-- The attributions to correct; what is in memory goes before what is stored. -/
def sampledAttributions (db : Database) (staged : Rows FlowKey ActiveFlow) (gateway : String)
    (flow : FlowDelta) : Rows SessionId FlowAttribution :=
  let stored := (sampledSessions db gateway flow).foldl
    (fun sessions row => sessions.insert row.1 row.2.attribution) ∅
  staged.entries.foldl (fun sessions e => sessions.insert e.2.sessionId e.2.attribution) stored

def reclassifySession (incoming : FlowAttribution) (now : ℤ) (db : Database)
    (session : SessionId × FlowAttribution) : Database :=
  let attr := merge session.2 incoming
  let db := reassign session.1 attr now db
  { db with
    flowSessions := updateWhere (fun id _ => id = session.1)
      (fun _ row => { row with attribution := attr }) db.flowSessions }

variable (scan : Scan)

def reclassifySqlite (gateway : String) (flow : FlowDelta) (incoming : FlowAttribution)
    (now : ℤ) (storage : SqliteStorage) : SqliteStorage :=
  let staged := updateWhere (fun _ _ => true)
    (fun _ current => { current with attribution := merge current.attribution incoming })
    (stagedSamples storage.activeFlows gateway flow)
  let sessions := select (fun _ _ => true) (sampledAttributions storage.database staged gateway flow)
  ⟨(scan.order sessions).foldl (reclassifySession incoming now) storage.database,
    extend storage.activeFlows staged⟩

def reclassifyFlowAt (gateway : String) (flow : FlowDelta)
    (attribution : FlowAttribution) (receivedAtMs : ℕ) (storage : SqliteStorage) : SqliteStorage :=
  reclassifySqlite scan gateway flow attribution (toI64 receivedAtMs) storage

/-! ### Maintenance -/

def rollUpHourAndDay (nowMs : ℕ) (storage : SqliteStorage) : SqliteStorage :=
  let now := toI64 nowMs
  let db := storage.database
  { storage with database := markAggregated now { db with tiers := rollUpTiers now db.tiers } }

/-- A flow in memory that has not been heard of for the time to live. -/
def isSilent (now : ℤ) (flow : ActiveFlow) : Bool := flow.lastReceivedAt ≤ now - activeFlowTtlMs

def pruneFlowState (now : ℤ) (db : Database) : Database :=
  let silent := (select (fun _ flow => isSilent now flow) active).map (·.2)
  let db := prune now (silent.foldl (closeFlow now) db)
  { db with
    flowSessions := updateWhere (isAbandoned db now) (fun _ row => closeAbandoned row)
      db.flowSessions }

def pruneReclassification (nowMs : ℕ) (storage : SqliteStorage) : SqliteStorage :=
  let now := toI64 nowMs
  ⟨pruneFlowState storage.activeFlows now storage.database,
    deleteWhere (fun _ flow => isSilent now flow) storage.activeFlows⟩

/-- A silent flow with traffic, whose session is still to be written. -/
def isCandidate (now : ℤ) (flow : ActiveFlow) : Bool := isSilent now flow && 0 < flow.lastSeenAt

/-- One bounded slice of pruning that is neither interrupted nor kept waiting; the result says
whether it has completed the work. -/
def pruneReclassificationBounded (nowMs : ℕ) (limit : ℕ) (storage : SqliteStorage) :
    Bool × SqliteStorage :=
  let now := toI64 nowMs
  let candidates := limited scan (max limit 1) (fun _ flow => isCandidate now flow)
    storage.activeFlows
  let written := (candidates.map (·.2)).foldl (fun db flow =>
    writeFlowSession flow (some flow.lastSeenAt) now db) storage.database
  let pruned := pruneBounded scan now (max limit 1) written
  let active := deleteKeys (candidates.map (·.1)) storage.activeFlows
  (!(pruned.1 || anyRow (fun _ flow => isCandidate now flow) active), ⟨pruned.2, active⟩)

/-! ### Runs -/

inductive Op
  | persist (batch : TelemetryBatch) (attributions : List FlowAttribution) (receivedAtMs : ℕ)
  | reclassify (scan : Scan) (gateway : String) (flow : FlowDelta) (attribution : FlowAttribution)
      (receivedAtMs : ℕ)
  | prune (nowMs : ℕ)
  | pruneBounded (scan : Scan) (nowMs limit : ℕ)
  | rollUp (nowMs : ℕ)

def step (storage : SqliteStorage) : Op → SqliteStorage
  | .persist batch attributions receivedAtMs =>
    (persistClassifiedBatch batch attributions receivedAtMs storage).2
  | .reclassify scan gateway flow attribution receivedAtMs =>
    reclassifyFlowAt scan gateway flow attribution receivedAtMs storage
  | .prune nowMs => pruneReclassification nowMs storage
  | .pruneBounded scan nowMs limit => (pruneReclassificationBounded scan nowMs limit storage).2
  | .rollUp nowMs => rollUpHourAndDay nowMs storage

def run (ops : List Op) : SqliteStorage := ops.foldl step .empty

/-! ### A sample flow -/

def sampleTime : ℕ := 1700000000000

/-- A delta of an upload, seen at the given time after its start. -/
def sampleFlow (age : ℕ) (lifecycle : ℤ) : FlowDelta :=
  { ipVersion := 4
    protocol := 6
    clientIp := [192, 168, 1, 20]
    clientPort := 50000
    remoteIp := [203, 0, 113, 7]
    remotePort := 443
    direction := 1
    uploadBytes := 1200
    downloadBytes := 0
    packets := 3
    firstSeenUnixMs := sampleTime
    lastSeenUnixMs := sampleTime + age
    tcpFlags := 16
    lifecycle
    clientMac := [2, 0, 0, 0, 0, 20]
    protocolHint := ""
    scope := 1
    pathType := 1
    nat := 2
    sourceSegment := "192.168.1.0/24"
    destinationSegment := ""
    policyFlowId := "" }

def sampleBatch (sequence age : ℕ) (lifecycle : ℤ) : TelemetryBatch :=
  { gatewayId := "gateway"
    bootId := "boot"
    sequence
    sentAt := sampleTime + age
    agentVersion := "0.1.0"
    protocolVersion
    flows := [sampleFlow age lifecycle]
    dnsObservations := []
    deviceObservations :=
      [⟨[2, 0, 0, 0, 0, 20], [192, 168, 1, 20], "laptop", sampleTime + age, none⟩]
    health := none
    deviceDiscoveryObservations := []
    probeResults := [] }

/-- An application that was recognized with a confidence. -/
def sampleApplication (id domain : String) (confidence : ℚ) : FlowAttribution :=
  { FlowAttribution.unknown with
    domain := some domain
    applicationId := id
    categoryId := "video"
    applicationConfidence := confidence
    confidence
    reason := "domain rule" }

end Netqmon.Storage.Operations
