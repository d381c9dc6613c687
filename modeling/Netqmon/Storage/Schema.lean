import Netqmon.Protocol.Telemetry
import Netqmon.Storage.Attribution
import Netqmon.Storage.Traffic

/-! # The database

What the storage reads from telemetry, the flows it holds in memory and the tables of the database.
Times are milliseconds. -/

namespace Netqmon.Storage.Schema

open Lib.Keyed Protocol.Telemetry Attribution Traffic

def i64Max : ℤ := 2 ^ 63 - 1

/-- Unsigned values that do not fit are clamped. -/
def toI64 (value : ℕ) : ℤ := min value i64Max

def saturatingAdd (a b : ℤ) : ℤ := min (a + b) i64Max

def u64SaturatingSucc (value : ℕ) : ℕ := min (value + 1) (2 ^ 64 - 1)

/-! ### Telemetry -/

def batchMinute (batch : TelemetryBatch) : ℤ := toI64 batch.sentAt / minuteMs * minuteMs

variable (flow : FlowDelta)

def flowMetrics : Metrics :=
  ⟨toI64 flow.uploadBytes, toI64 flow.downloadBytes, toI64 flow.packets, 1⟩

def flowHasTraffic : Bool :=
  0 < flow.uploadBytes || 0 < flow.downloadBytes || 0 < flow.packets

def flowLifecycleEndAt (receivedAt : ℤ) : ℤ :=
  let observedAt := toI64 flow.lastSeenUnixMs
  if 0 < observedAt then observedAt else receivedAt

/-! ### Flows -/

structure FlowKey where
  gatewayId : String
  (ipVersion protocol : ℕ)
  clientIp : Bytes
  clientPort : ℕ
  remoteIp : Bytes
  remotePort : ℕ
  direction : ℤ
deriving DecidableEq

def FlowKey.fromBatch (gatewayId : String) (flow : FlowDelta) : FlowKey :=
  { gatewayId
    ipVersion := flow.ipVersion
    protocol := flow.protocol
    clientIp := flow.clientIp
    clientPort := flow.clientPort
    remoteIp := flow.remoteIp
    remotePort := flow.remotePort
    direction := flow.direction }

/-- Samples have no direction: unspecified, upload and download are tried. -/
def FlowKey.sampleKeys (gateway : String) (flow : FlowDelta) : List FlowKey :=
  [0, 1, 2].map fun direction => { FlowKey.fromBatch gateway flow with direction := direction }

/-- The text of a session id lists these parts; its last fields have no colon, so it determines
them. -/
structure SessionId where
  key : FlowKey
  startedAt : ℤ
deriving DecidableEq

structure ActiveFlow where
  sessionId : SessionId
  clientMac : Bytes
  deviceId : Option ℤ
  (uploadBytes downloadBytes packets startedAt lastSeenAt checkpointedAt lastReceivedAt : ℤ)
  attribution : FlowAttribution
  (scope pathType nat : ℤ)
  (sourceSegment destinationSegment : String)
deriving DecidableEq

namespace ActiveFlow

def new (key : FlowKey) (flow : FlowDelta) (attribution : FlowAttribution) (receivedAt : ℤ) :
    ActiveFlow :=
  let observedStartedAt := toI64 flow.firstSeenUnixMs
  let startedAt := if observedStartedAt = 0 then receivedAt else observedStartedAt
  { sessionId := ⟨key, startedAt⟩
    clientMac := flow.clientMac
    deviceId := none
    uploadBytes := 0
    downloadBytes := 0
    packets := 0
    startedAt
    lastSeenAt := if flowHasTraffic flow then max (toI64 flow.lastSeenUnixMs) startedAt else 0
    checkpointedAt := startedAt
    lastReceivedAt := receivedAt
    attribution
    scope := flow.scope
    pathType := flow.pathType
    nat := flow.nat
    sourceSegment := flow.sourceSegment
    destinationSegment := flow.destinationSegment }

def add (current : ActiveFlow) (flow : FlowDelta) (attribution : FlowAttribution)
    (receivedAt : ℤ) : ActiveFlow :=
  { current with
    lastReceivedAt := max current.lastReceivedAt receivedAt
    clientMac :=
      if current.clientMac.isEmpty && !flow.clientMac.isEmpty then flow.clientMac
      else current.clientMac
    uploadBytes := saturatingAdd current.uploadBytes (toI64 flow.uploadBytes)
    downloadBytes := saturatingAdd current.downloadBytes (toI64 flow.downloadBytes)
    packets := saturatingAdd current.packets (toI64 flow.packets)
    lastSeenAt :=
      if flowHasTraffic flow then max current.lastSeenAt (toI64 flow.lastSeenUnixMs)
      else current.lastSeenAt
    scope := flow.scope
    pathType := flow.pathType
    nat := flow.nat
    sourceSegment := flow.sourceSegment
    destinationSegment := flow.destinationSegment
    attribution := merge current.attribution attribution }

end ActiveFlow

/-! ### Tables -/

/-- A row of `flow_rollup_sessions`: the recovery checkpoint of a session. -/
structure RollupSession where
  /-- Metadata, attribution and counters; the time of the last receipt is `updatedAt`. -/
  flow : ActiveFlow
  updatedAt : ℤ
  endedAt : Option ℤ
deriving DecidableEq

def RollupSession.recovered (row : RollupSession) : ActiveFlow :=
  { row.flow with lastReceivedAt := row.updatedAt }

/-- The primary key of `flow_rollup_contributions`. -/
structure ContributionKey where
  session : SessionId
  (timestamp scope direction deviceId : ℤ)
  remoteIp : Bytes
  protocol : ℤ
deriving DecidableEq

/-- The columns under which traffic is attributed. -/
structure Label where
  (applicationId categoryId domain protocolId : String)
deriving DecidableEq

/-- A row of `flow_rollup_contributions`: what a session has counted in a minute, and how much of it
has reached the hour and the day. -/
structure Contribution where
  label : Label
  (minute hour day : Metrics)
  expiresAt : ℤ
deriving DecidableEq

structure FlowSession where
  deviceId : Option ℤ
  (uploadBytes downloadBytes packets startedAt lastSeenAt : ℤ)
  endedAt : Option ℤ
  checkpointedAt : ℤ
  attribution : FlowAttribution
  (scope pathType nat : ℤ)
  (sourceSegment destinationSegment : String)
deriving DecidableEq

structure Database where
  /-- When a batch was taken in, by gateway, boot id and sequence number. -/
  ingestBatches : Rows (String × String × ℤ) ℤ
  devices : Rows (String × Bytes) ℤ
  tiers : Tiers
  scopes : ScopeTables
  rollupSessions : Rows SessionId RollupSession
  contributions : Rows ContributionKey Contribution
  flowSessions : Rows SessionId FlowSession

def Database.empty : Database := ⟨∅, ∅, .empty, .empty, ∅, ∅, ∅⟩

structure SqliteStorage where
  database : Database
  activeFlows : Rows FlowKey ActiveFlow

def SqliteStorage.empty : SqliteStorage := ⟨.empty, ∅⟩

end Netqmon.Storage.Schema
