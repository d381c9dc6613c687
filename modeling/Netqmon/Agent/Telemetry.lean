import Netqmon.Agent.Polling
import Netqmon.Protocol.Telemetry

/-! # Collecting telemetry

The agent's main loop polls the flow map, turns what has changed into wire records and collects
them until the next batch is due (`LoopState`, `assemble`). Conntrack, the neighbor table and the
alias cache are read through a `PollView`. -/

namespace Netqmon.Agent.Telemetry

open Agent.Flow Agent.Polling
open Protocol.Telemetry (Bytes DeviceObservation TelemetryBatch directionUpload
  directionDownload lifecycleActive lifecycleIdle lifecycleEnded)

def agentVersion : String := "1.1.1-beta.10"
def maxPendingDiscovery : ℕ := 10000
def u32Max : ℕ := 2 ^ 32 - 1
def u64Max : ℕ := 2 ^ 64 - 1

/-! ### Wire records -/

inductive Direction
  | upload
  | download
  | internal
  | unknown
deriving DecidableEq

inductive FlowScope
  | client
  | routerLocal
  | internal
  | tunnel
  | unknown
deriving DecidableEq

inductive PathType
  | forwarded
  | routerLocal
  | internal
  | tunnel
  | unknown
deriving DecidableEq

structure NormalizedFlow where
  clientAddr : IpAddr
  clientPort : UInt16
  remoteAddr : IpAddr
  remotePort : UInt16
  (sourceSegment destinationSegment : Option String)
  direction : Direction
  scope : FlowScope
  pathType : PathType
  (sourceNat destinationNat : Bool)
deriving DecidableEq

/-- The bytes of an address, the most significant one first. -/
def octets : IpAddr → Bytes
  | .v4 address => (List.range 4).reverse.map fun i => ⟨address.extractLsb' (8 * i) 8⟩
  | .v6 address => (List.range 16).reverse.map fun i => ⟨address.extractLsb' (8 * i) 8⟩

def wireDirection : Direction → ℤ
  | .upload => directionUpload
  | .download => directionDownload
  | .internal | .unknown => 0

def wireScope : FlowScope → ℤ
  | .client => 1
  | .internal => 2
  | .tunnel => 3
  | .unknown | .routerLocal => 4

def wirePathType : PathType → ℤ
  | .forwarded => 1
  | .internal => 2
  | .tunnel => 3
  | .unknown | .routerLocal => 4

def wireNat : Bool → Bool → ℤ
  | false, false => 1
  | true, false => 2
  | false, true => 3
  | true, true => 4

def flowDelta (delta : Polling.FlowDelta) (flow : NormalizedFlow) (clientMac : Option Bytes)
    (bootEpochMs : ℕ) : Protocol.Telemetry.FlowDelta :=
  { ipVersion := delta.key.ipVersion.toNat
    protocol := delta.key.protocol.toNat
    clientIp := octets flow.clientAddr
    clientPort := flow.clientPort.toNat
    remoteIp := octets flow.remoteAddr
    remotePort := flow.remotePort.toNat
    direction := wireDirection flow.direction
    uploadBytes := if flow.direction = .download then 0 else delta.bytes
    downloadBytes := if flow.direction = .download then delta.bytes else 0
    packets := delta.packets
    firstSeenUnixMs := min (bootEpochMs + delta.counters.firstSeenNs / 1000000) u64Max
    lastSeenUnixMs := min (bootEpochMs + delta.counters.lastSeenNs / 1000000) u64Max
    tcpFlags := min delta.counters.tcpFlags u32Max
    lifecycle := lifecycleActive
    clientMac := clientMac.getD []
    protocolHint := ""
    scope := wireScope flow.scope
    pathType := wirePathType flow.pathType
    nat := wireNat flow.sourceNat flow.destinationNat
    sourceSegment := flow.sourceSegment.getD ""
    destinationSegment := flow.destinationSegment.getD ""
    policyFlowId := delta.policyFlowId.getD "" }

def wireLifecycle : FlowState → ℤ
  | .active => lifecycleActive
  | .idle => lifecycleIdle
  | .ended => lifecycleEnded

def lifecycleDelta (flow : NormalizedFlow) (clientMac : Option Bytes) (protocol : UInt8)
    (lifecycle : ℤ) (observedAtMs : ℕ) (policyFlowId : Option String) :
    Protocol.Telemetry.FlowDelta :=
  { ipVersion := match flow.clientAddr with | .v4 _ => 4 | .v6 _ => 6
    protocol := protocol.toNat
    clientIp := octets flow.clientAddr
    clientPort := flow.clientPort.toNat
    remoteIp := octets flow.remoteAddr
    remotePort := flow.remotePort.toNat
    direction := wireDirection flow.direction
    uploadBytes := 0
    downloadBytes := 0
    packets := 0
    firstSeenUnixMs := observedAtMs
    lastSeenUnixMs := observedAtMs
    tcpFlags := 0
    lifecycle
    clientMac := clientMac.getD []
    protocolHint := ""
    scope := wireScope flow.scope
    pathType := wirePathType flow.pathType
    nat := wireNat flow.sourceNat flow.destinationNat
    sourceSegment := flow.sourceSegment.getD ""
    destinationSegment := flow.destinationSegment.getD ""
    policyFlowId := policyFlowId.getD "" }

/-! ### A poll -/

/-- What a poll reads besides the flow map. The conntrack snapshot may be refreshed in a poll, so
every call of `normalize` has a number of its own. -/
structure PollView where
  normalize : ℕ → FlowKey → Option NormalizedFlow
  controllerEndpoints : List (IpAddr × UInt16)
  deviceMac : IpAddr → Option Bytes
  /-- The alias cache has taken the id of a flow. -/
  tracksId : Polling.FlowDelta → Bool
  observedAtMs : ℕ → ℕ

def isControllerTransport (flow : NormalizedFlow) (endpoints : List (IpAddr × UInt16)) : Bool :=
  endpoints.any fun endpoint =>
    (flow.clientAddr = endpoint.1 && flow.clientPort = endpoint.2)
      || (flow.remoteAddr = endpoint.1 && flow.remotePort = endpoint.2)

variable (view : PollView)

/-- Traffic of the router itself and to the controller is not reported. -/
def isReported (flow : NormalizedFlow) : Bool :=
  flow.scope ≠ .routerLocal && !isControllerTransport flow view.controllerEndpoints

def deltaRecord (bootEpochMs : ℕ) (delta : Polling.FlowDelta × ℕ) :
    Option Protocol.Telemetry.FlowDelta :=
  match view.normalize delta.2 delta.1.key with
  | some flow =>
    if isReported view flow then
      let tracked := { delta.1 with
        policyFlowId := if view.tracksId delta.1 then delta.1.policyFlowId else none }
      some (flowDelta tracked flow (view.deviceMac flow.clientAddr) bootEpochMs)
    else none
  | none => none

def lifecycleRecord (calls : ℕ) (event : FlowLifecycleEvent × ℕ) :
    Option Protocol.Telemetry.FlowDelta :=
  if event.1.state = .active then none
  else
    match view.normalize (calls + event.2) event.1.key with
    | some flow =>
      if isReported view flow then
        some (lifecycleDelta flow (view.deviceMac flow.clientAddr) event.1.key.protocol
          (wireLifecycle event.1.state) (view.observedAtMs event.2) event.1.policyFlowId)
      else none
    | none => none

def pollRecords (bootEpochMs : ℕ) (update : FlowRuntimeUpdate) :
    List Protocol.Telemetry.FlowDelta :=
  update.deltas.zipIdx.filterMap (deltaRecord view bootEpochMs)
    ++ update.lifecycleEvents.zipIdx.filterMap (lifecycleRecord view update.deltas.length)

/-! ### The loop -/

structure LoopState where
  runtime : FlowRuntime
  pendingFlows : List Protocol.Telemetry.FlowDelta
  (dnsObservations discoveryObservations : List Bytes)

namespace LoopState

def new (tcpIdleTimeout udpIdleTimeout : ℕ) : LoopState :=
  ⟨⟨∅, tcpIdleTimeout, udpIdleTimeout⟩, [], [], []⟩

def poll (entries : List (FlowKey × FlowCounters)) (now : ℕ) (policyIds : PolicyIds)
    (view : PollView) (bootEpochMs : ℕ) (state : LoopState) : LoopState :=
  let updated := updateWithPolicyIds state.runtime entries now policyIds
  { state with
    runtime := updated.1
    pendingFlows := state.pendingFlows ++ pollRecords view bootEpochMs updated.2 }

def observeDns (observation : Bytes) (state : LoopState) : LoopState :=
  { state with dnsObservations := state.dnsObservations ++ [observation] }

/-- At most ten thousand discovery observations wait for a batch. -/
def discover (observations : List Bytes) (state : LoopState) : LoopState :=
  { state with
    discoveryObservations := state.discoveryObservations
      ++ observations.take (maxPendingDiscovery - state.discoveryObservations.length) }

/-- The next batch; boot id, sequence and gateway are filled in by the sender. -/
def assemble (sentAt : ℕ) (devices : List DeviceObservation) (health : Bytes)
    (state : LoopState) : TelemetryBatch :=
  { gatewayId := ""
    bootId := ""
    sequence := 0
    sentAt
    agentVersion
    protocolVersion := Protocol.Telemetry.protocolVersion
    flows := state.pendingFlows
    dnsObservations := state.dnsObservations
    deviceObservations := devices
    health := some health
    deviceDiscoveryObservations := state.discoveryObservations
    probeResults := [] }

/-- Nothing is pending after a batch was assembled. -/
def drained (state : LoopState) : LoopState :=
  { state with pendingFlows := [], dnsObservations := [], discoveryObservations := [] }

end LoopState

end Netqmon.Agent.Telemetry
