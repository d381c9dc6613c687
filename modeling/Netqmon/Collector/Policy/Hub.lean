import Mathlib
import Netqmon.Collector.Policy.Compiler
import Netqmon.Collector.Policy.Evaluator
import Netqmon.Lib.Keyed

/-! # The policy hub

For every gateway the hub keeps the published snapshot, the agent session and the flow commands.
`flowStates` holds the latest decision for every flow, `flowPending` what is to be sent, `flowQueue` a
bounded selection of it, `flowInFlight` what was sent and not acknowledged, and `flowPartialRetries`
what is to be sent again later. A flow command is taken out of the queue by the session, sent, and either
marked as sent or given back.

The clock is read anew by every function, so a call that fills the queue has two readings. The
notifications that wake up the session and the channels to it are left out. -/

namespace Netqmon.Collector.Policy.Hub

open Lib.Keyed Protocol.Policy Protocol.Snapshot Protocol.Validate Compiler Evaluator

def flowCommandQueueCapacity : ℕ := 64
def flowCommandStateCapacity : ℕ := 16384
def flowCommandInFlightCapacity : ℕ := 64
def flowCommandRetryAfterMs : ℤ := 5000
def flowCommandMaxAttempts : ℕ := 3
def flowEvaluationContextTtlMs : ℤ := 300000
def u64Max : ℕ := 2 ^ 64 - 1

/-! ### State -/

structure FlowEvaluationContext where
  generation : ℕ
  (bootId policyFlowId : String)
  protocol : ℕ
  request : PolicyPreviewRequest
  expiresAtMs : ℤ
deriving DecidableEq

structure InFlightFlowCommand where
  key : String
  frame : FlowCommand
  /-- A reading of the monotonic clock. -/
  sentAt : ℤ
  attempts : ℕ
deriving DecidableEq

structure DelayedPartialRetry where
  commandId : String
  /-- A reading of the monotonic clock. -/
  retryAt : ℤ
deriving DecidableEq

structure GatewayState where
  generation : ℕ
  bundle : Option PolicySnapshot
  session : Option ℕ
  (sessionBootId flowBootId : Option String)
  flowPending : Rows String FlowCommand
  flowQueue : List String
  flowQueued : Finset String
  flowStates : Rows String FlowCommand
  flowEvaluationContexts : Rows String FlowEvaluationContext
  flowInFlight : Rows String InFlightFlowCommand
  flowAttempts : Rows String ℕ
  flowPartialRetries : Rows String DelayedPartialRetry
  flowCapabilities : Option (ℕ × Bool × Bool)

def GatewayState.new : GatewayState where
  generation := 0
  bundle := none
  session := none
  sessionBootId := none
  flowBootId := none
  flowPending := ∅
  flowQueue := []
  flowQueued := ∅
  flowStates := ∅
  flowEvaluationContexts := ∅
  flowInFlight := ∅
  flowAttempts := ∅
  flowPartialRetries := ∅
  flowCapabilities := none

structure AgentSession where
  gatewayId : String
  id : ℕ
deriving DecidableEq

def flowCommandKey (bootId policyFlowId : String) : String := bootId ++ "\x00" ++ policyFlowId

/-- The key of a command. -/
def keyOf (frame : FlowCommand) : String := flowCommandKey frame.bootId frame.policyFlowId

/-- What the clocks show when an entry is looked at. -/
structure RetryClock where
  (ready due exhausted : String → ℤ)
  now : String → ℤ

/-- A reading of the clock and an order of the hash map, for one call of `fillFlowQueue`. -/
structure Fill where
  now : ℤ
  scan : Scan

namespace GatewayState

variable (state : GatewayState)

/-- The published revision. -/
def revision : Option ℕ := state.bundle.map (·.configRevision)

variable (session : AgentSession)

/-- The session is the one that the gateway is connected with. -/
def isActive : Bool := state.session == some session.id

def clearFlowDelivery : GatewayState :=
  { state with
    flowPending := ∅
    flowQueue := []
    flowQueued := ∅
    flowInFlight := ∅
    flowAttempts := ∅
    flowPartialRetries := ∅ }

def clearFlowCommands : GatewayState :=
  { state.clearFlowDelivery with flowStates := ∅, flowEvaluationContexts := ∅ }

/-- Flow state belongs to one boot of the agent. -/
def ownedBy (bootId : String) : GatewayState :=
  { (if state.flowBootId.any (· ≠ bootId) then state.clearFlowCommands else state) with
    flowBootId := some bootId }

/-! ### The queue -/

variable (now : ℤ)

/-- The command is worth being kept for sending. -/
def isSendable (frame : FlowCommand) : Bool :=
  now < frame.expiresAtMs && state.revision.all (· ≤ frame.configRevision)

variable (frame : FlowCommand)

/-- The command can be sent with the published snapshot. -/
def isCurrent : Bool := state.revision.all (· == frame.configRevision)

/-- Forget what has expired or belongs to an older snapshot. -/
def discard : GatewayState :=
  let discarded := (select (fun _ frame => !state.isSendable now frame) state.flowPending).map
    (·.2.commandId)
  { state with
    flowPending := deleteWhere (fun _ frame => !state.isSendable now frame) state.flowPending
    flowAttempts := deleteWhere (fun id _ => discarded.contains id
      && (state.flowInFlight.lookup id).isNone
      && !anyRow (fun _ retry => retry.commandId == id) state.flowPartialRetries)
      state.flowAttempts
    flowStates := deleteWhere (fun _ frame => frame.expiresAtMs ≤ now) state.flowStates }

/-- Drop the keys that are no longer to be sent, and take in others while there is room. -/
def enqueue (scan : Scan) : GatewayState :=
  let kept := state.flowQueue.filter fun key => (state.flowPending.lookup key).any state.isCurrent
  let fresh := (scan.order (select (fun key frame => !kept.contains key && state.isCurrent frame)
    state.flowPending)).map (·.1)
  let added := fresh.take (flowCommandQueueCapacity - kept.length)
  { state with
    flowQueue := kept ++ added
    flowQueued := (kept ++ added).toFinset }

def fillFlowQueue (fill : Fill) : GatewayState := (state.discard fill.now).enqueue fill.scan

/-- Everything that is still valid is to be sent again. -/
def requeueFlowStates (fill : Fill) : GatewayState :=
  fillFlowQueue { state with
    flowInFlight := ∅
    flowAttempts := ∅
    flowPartialRetries := ∅
    flowPending := insertAll state.flowPending
      (select (fun _ frame => now < frame.expiresAtMs) state.flowStates) } fill

def revokeFrame (epoch : String) (revision : ℕ) (now : ℤ) (commandId : String)
    (frame : FlowCommand) : FlowCommand where
  wireVersion := policyWireVersion
  gatewayId := frame.gatewayId
  bootId := frame.bootId
  controllerEpoch := epoch
  configRevision := revision
  commandId
  policyFlowId := frame.policyFlowId
  operation := .revoke
  verdict := none
  policyIds := []
  expiresAtMs := saturatingAdd now 30000
  issuedAtMs := now

/-- The commands that take back what is in force. `commandIds` are the identifiers drawn for them. -/
def revocations (commandIds : String → String) (epoch : String) (revision : ℕ) (now : ℤ) :
    List (String × FlowCommand) :=
  (select (fun _ frame => frame.operation == .upsert) state.flowStates).map fun row =>
    (row.1, revokeFrame epoch revision now (commandIds row.1) row.2)

def revokeActiveFlowStates (commandIds : String → String) (epoch : String) (revision : ℕ) (now : ℤ)
    (fill : Fill) : GatewayState :=
  let revoked := state.revocations commandIds epoch revision now
  fillFlowQueue { state with
    flowStates := insertAll state.flowStates revoked
    flowPending := insertAll state.flowPending revoked
    flowQueue := []
    flowQueued := ∅ } fill

/-! ### Snapshots -/

/-- The second half of `refresh_gateway`, under the lock. The revision and the policies were read before,
and so was the clock. -/
def refreshGateway (toolkit : Toolkit) (gatewayId controllerEpoch : String) (now : ℤ)
    (revision : ℕ) (policies : List PolicySnapshotEntry) (forceNewGeneration : Bool)
    (commandIds : String → String) (fill : Fill) : Except String PolicySnapshot × GatewayState :=
  match state.bundle.filter fun bundle => revision < bundle.configRevision
      || !forceNewGeneration && bundle.configRevision == revision && now < bundle.validUntilMs with
  | some bundle => (.ok bundle, state)
  | none =>
    if state.generation = u64Max then (.error "policy bundle generation exhausted", state)
    else
      match compileSnapshot toolkit.chrono toolkit.codec gatewayId controllerEpoch
          (state.generation + 1) now revision policies with
      | .error message => (.error message, state)
      | .ok frame =>
        let revoked :=
          if state.bundle.any (·.configRevision ≠ frame.configRevision) then
            { state.revokeActiveFlowStates commandIds frame.controllerEpoch frame.configRevision now
                fill with flowCapabilities := none }
          else state
        (.ok frame, { revoked with generation := state.generation + 1, bundle := some frame })

/-! ### Sessions -/

def register (id : ℕ) : GatewayState :=
  { state.clearFlowDelivery with session := some id, sessionBootId := none }

/-- Whether the boot is another one, and the state with the boot of the session. -/
def latchAgentBoot (bootId : String) (now : ℤ) (fill : Fill) : Bool × GatewayState :=
  if !state.isActive session then (false, state)
  else
    let firstLatch := state.sessionBootId.isNone
    let bootChanged := state.flowBootId != some bootId
    let cleared :=
      if bootChanged then { state.clearFlowCommands with flowCapabilities := none } else state
    let latched := { cleared with sessionBootId := some bootId, flowBootId := some bootId }
    (bootChanged,
      if firstLatch && !bootChanged then latched.requeueFlowStates now fill else latched)

def unregister : GatewayState :=
  if state.isActive session then { state with session := none } else state

/-! ### Contexts and capabilities -/

/-- Forget the contexts that have expired. -/
def retainContexts : GatewayState :=
  { state with
    flowEvaluationContexts := deleteWhere (fun _ context => context.expiresAtMs ≤ now)
      state.flowEvaluationContexts }

/-- What is to be evaluated anew: the snapshot, the contexts and the capabilities. -/
structure Evaluation where
  bundle : PolicySnapshot
  contexts : List FlowEvaluationContext
  (blockSupported limitSupported : Bool)

/-- The first half of `refresh_active_flow_commands`; the commands are queued one by one afterwards. -/
def refreshActiveFlowCommands (now : ℤ) : Option Evaluation × GatewayState :=
  if !state.isActive session then (none, state)
  else
    let retained := state.retainContexts now
    (do
      let bundle ← state.bundle
      let (revision, block, limit) ← state.flowCapabilities
      if bundle.configRevision ≠ revision then none
      else some ⟨bundle, retained.flowEvaluationContexts.entries.map (·.2), block, limit⟩, retained)

/-- The first half of `record_flow_capabilities`. -/
def recordFlowCapabilities (revision : ℕ)
    (capabilities : PolicyCapabilities) (now : ℤ) : Option Evaluation × GatewayState :=
  if !state.isActive session then (none, state)
  else
    let block := capabilities.applicationBlock ≠ .unsupported
    let limit := capabilities.applicationLimit = .supported
    let retained := state.retainContexts now
    match state.bundle.filter (·.configRevision == revision) with
    | none => (none, retained)
    | some bundle =>
      (some ⟨bundle, retained.flowEvaluationContexts.entries.map (·.2), block, limit⟩,
        { retained with flowCapabilities := some (revision, block, limit) })

/-- `generation` was drawn for the context. -/
def rememberFlowContext (generation : ℕ) (bootId policyFlowId : String) (protocol : ℕ)
    (request : PolicyPreviewRequest) (now : ℤ) : Option ℕ × GatewayState :=
  if state.sessionBootId.any (· ≠ bootId) then (none, state)
  else
    let latched := { state.ownedBy bootId with sessionBootId := some bootId }
    let key := flowCommandKey bootId policyFlowId
    let isFull (s : GatewayState) : Bool :=
      flowCommandStateCapacity ≤ s.flowEvaluationContexts.entries.length
    let isKnown := (latched.flowEvaluationContexts.lookup key).isSome
    let retained := if !isKnown && isFull latched then latched.retainContexts now else latched
    if !isKnown && isFull latched && isFull retained then (none, retained)
    else
      (some generation,
        { retained with
          flowEvaluationContexts := retained.flowEvaluationContexts.insert key
            { generation
              bootId
              policyFlowId
              protocol
              request
              expiresAtMs := saturatingAdd now flowEvaluationContextTtlMs } })

def forgetFlowContext (bootId policyFlowId : String) : GatewayState :=
  { state with
    flowEvaluationContexts := state.flowEvaluationContexts.erase
      (flowCommandKey bootId policyFlowId) }

/-! ### Queueing commands -/

def saturatingSub (a b : ℤ) : ℤ := saturatingAdd a (-b)

def sameFlowDecision (left right : FlowCommand) : Bool :=
  left.gatewayId == right.gatewayId && left.bootId == right.bootId
    && left.controllerEpoch == right.controllerEpoch
    && left.configRevision == right.configRevision && left.policyFlowId == right.policyFlowId
    && left.operation == right.operation && left.verdict == right.verdict
    && left.policyIds == right.policyIds

/-- More than half of the lifetime of the earlier command is left when the new one is issued. -/
def isFresh (previous frame : FlowCommand) : Bool :=
  saturatingAdd frame.issuedAtMs (Int.tdiv (saturatingSub previous.expiresAtMs previous.issuedAtMs) 2)
    < previous.expiresAtMs

/-- Commands for one flow are issued one after the other. -/
def reissue (previous : Option FlowCommand) (frame : FlowCommand) : FlowCommand :=
  match previous with
  | none => frame
  | some previous =>
    let ttl := saturatingSub frame.expiresAtMs frame.issuedAtMs
    let issuedAtMs := max frame.issuedAtMs (saturatingAdd previous.issuedAtMs 1)
    { frame with issuedAtMs := issuedAtMs, expiresAtMs := saturatingAdd issuedAtMs ttl }

/-- Store a command as the latest decision and make it pending. -/
def storeCommand (key : String) (frame : FlowCommand) : GatewayState :=
  let attempts := match state.flowPartialRetries.lookup key with
    | some retry => state.flowAttempts.erase retry.commandId
    | none => state.flowAttempts
  { state with
    flowPartialRetries := state.flowPartialRetries.erase key
    flowStates := state.flowStates.insert key frame
    flowPending := state.flowPending.insert key frame
    flowAttempts := match state.flowPending.lookup key with
      | some previous =>
        if previous.commandId ≠ frame.commandId
            && (state.flowInFlight.lookup previous.commandId).isNone then
          attempts.erase previous.commandId
        else attempts
      | none => attempts }

/-- The published snapshot is the one that the command was made for. -/
def fitsBundle : Bool :=
  state.bundle.all fun bundle => bundle.gatewayId == frame.gatewayId
    && bundle.controllerEpoch == frame.controllerEpoch
    && bundle.configRevision == frame.configRevision

variable (expectedContextGeneration : Option ℕ)

/-- The context that a decision was made for has been replaced. -/
def isSuperseded : Bool :=
  expectedContextGeneration.any fun generation => state.flowBootId != some frame.bootId
    || ((state.flowEvaluationContexts.lookup (keyOf frame)).map (·.generation)) != some generation

/-- The earlier decision says the same and is good for some time yet. -/
def isCovered (previous : Option FlowCommand) (frame : FlowCommand) : Bool :=
  previous.any fun previous => sameFlowDecision previous frame && isFresh previous frame

def queueFlowCommandInner (fill : Fill) : Except String Unit × GatewayState :=
  match validateFlowCommand frame with
  | .error message => (.error message, state)
  | .ok () =>
    if state.sessionBootId.any (· ≠ frame.bootId) then (.ok (), state)
    else if !state.fitsBundle frame then (.error "stale_flow_command_snapshot", state)
    else if state.isSuperseded frame expectedContextGeneration then (.ok (), state)
    else
      let owned := state.ownedBy frame.bootId
      let previous := owned.flowStates.lookup (keyOf frame)
      if isCovered previous frame then (.ok (), owned)
      else if previous.isNone && flowCommandStateCapacity ≤ owned.flowStates.entries.length then
        (.error "flow_command_backpressure", owned)
      else (.ok (), (owned.storeCommand (keyOf frame) (reissue previous frame)).fillFlowQueue fill)

/-! ### Sending -/

/-- Look for a command with the right revision and boot, at most once around the queue. -/
def takeLoop (revision : ℕ) (bootId : String) (fill : Fill) :
    ℕ → GatewayState → Option FlowCommand × GatewayState
  | 0, state => (none, state)
  | rounds + 1, state =>
    match state.flowQueue with
    | [] => (none, state)
    | key :: rest =>
      let popped := { state with flowQueue := rest, flowQueued := state.flowQueued.erase key }
      match state.flowPending.lookup key with
      | none => takeLoop revision bootId fill rounds popped
      | some frame =>
        let removed := { popped with flowPending := state.flowPending.erase key }
        if frame.configRevision ≠ revision then
          takeLoop revision bootId fill rounds
            { removed with flowPending := removed.flowPending.insert key frame }
        else if frame.bootId ≠ bootId then takeLoop revision bootId fill rounds removed
        else (some frame, removed.fillFlowQueue fill)

def takeFlowCommand (currentRevision : ℕ) (currentBootId : Option String)
    (fill refill : Fill) : Option FlowCommand × GatewayState :=
  match currentBootId with
  | none => (none, state)
  | some bootId =>
    if !state.isActive session
        || flowCommandInFlightCapacity ≤ state.flowInFlight.entries.length then (none, state)
    else
      let filled := state.fillFlowQueue fill
      takeLoop currentRevision bootId refill filled.flowQueue.length filled

def markFlowCommandSent (frame : FlowCommand) (instant : ℤ) : GatewayState :=
  if !state.isActive session then state
  else
    let attempts := (state.flowAttempts.lookup frame.commandId).elim 1 fun n => min (n + 1) 255
    { state with
      flowAttempts := state.flowAttempts.insert frame.commandId attempts
      flowInFlight := state.flowInFlight.insert frame.commandId
        ⟨keyOf frame, frame, instant, attempts⟩ }

/-- The command is still the decision for its flow. -/
def isLatest (key commandId : String) : Bool :=
  (state.flowStates.lookup key).any (·.commandId == commandId)

def requeueUnsentFlowCommand (frame : FlowCommand) (fill : Fill) : GatewayState :=
  if !state.isActive session then state
  else if !state.isLatest (keyOf frame) frame.commandId then state
  else
    fillFlowQueue { state with flowPending := state.flowPending.insert (keyOf frame) frame } fill

/-- A delayed retry that is due. -/
def retryPartial (key : String) : GatewayState :=
  match state.flowPartialRetries.lookup key with
  | none => state
  | some retry =>
    let removed := { state with flowPartialRetries := state.flowPartialRetries.erase key }
    match (state.flowStates.lookup key).filter fun frame =>
        frame.commandId == retry.commandId && now < frame.expiresAtMs with
    | some frame => { removed with flowPending := state.flowPending.insert key frame }
    | none => { removed with flowAttempts := state.flowAttempts.erase retry.commandId }

/-- A command in flight that was not acknowledged in time. -/
def retryInFlight (id : String) : GatewayState :=
  match state.flowInFlight.lookup id with
  | none => state
  | some command =>
    let removed := { state with flowInFlight := state.flowInFlight.erase id }
    if state.isLatest command.key id then
      { removed with flowPending := state.flowPending.insert command.key command.frame }
    else { removed with flowAttempts := state.flowAttempts.erase id }

def dropInFlight (id : String) : GatewayState :=
  { state with
    flowInFlight := state.flowInFlight.erase id
    flowAttempts := state.flowAttempts.erase id }

def isOverdue (instant : ℤ) (command : InFlightFlowCommand) : Bool :=
  flowCommandRetryAfterMs ≤ instant - command.sentAt

def retryFlowCommands (clock : RetryClock) (fill : Fill) : GatewayState :=
  if !state.isActive session then state
  else
    let ready := (select (fun key retry => retry.retryAt ≤ clock.ready key)
      state.flowPartialRetries).map (·.1)
    let resumed := ready.foldl (fun state key => retryPartial state (clock.now key) key) state
    let due := (select (fun id command => isOverdue (clock.due id) command
      && command.attempts < flowCommandMaxAttempts) resumed.flowInFlight).map (·.1)
    let retried := due.foldl retryInFlight resumed
    let exhausted := (select (fun id command => isOverdue (clock.exhausted id) command
      && flowCommandMaxAttempts ≤ command.attempts) retried.flowInFlight).map (·.1)
    (exhausted.foldl dropInFlight retried).fillFlowQueue fill

/-! ### Acknowledgements -/

variable (ack : FlowAck) (sent : InFlightFlowCommand)

/-- The acknowledgement is of the command that was sent. -/
def ackMatches : Bool :=
  sent.key == flowCommandKey ack.bootId ack.policyFlowId
    && sent.frame.controllerEpoch == ack.controllerEpoch
    && sent.frame.configRevision == ack.configRevision

/-- A shape that not all packets of the flow could be given is tried again. -/
def retriesPartial (now : ℤ) : Bool :=
  ack.status == .partially && ack.reasonCode == some "partial_alias_coverage"
    && sent.frame.operation == .upsert && sent.frame.verdict == some .shape
    && sent.attempts < flowCommandMaxAttempts
    && (state.flowPartialRetries.entries.length < flowCommandStateCapacity
      || (state.flowPartialRetries.lookup sent.key).isSome)
    && (state.flowStates.lookup sent.key).any fun current =>
      current.commandId == ack.commandId && now < current.expiresAtMs

/-- A revocation that has had its effect is forgotten. -/
def closesRevocation : Bool :=
  sent.frame.operation == .revoke
    && (ack.status == .applied || ack.status == .partially || ack.status == .expired)
    && state.isLatest sent.key ack.commandId

/-- The delayed retry of a command, in place of an earlier one for the flow. -/
def delayRetry (key commandId : String) (instant : ℤ) : GatewayState :=
  { state with
    flowPartialRetries := state.flowPartialRetries.insert key
      ⟨commandId, instant + flowCommandRetryAfterMs⟩
    flowAttempts := match state.flowPartialRetries.lookup key with
      | some previous =>
        if previous.commandId ≠ commandId then state.flowAttempts.erase previous.commandId
        else state.flowAttempts
      | none => state.flowAttempts }

/-- `wasActive` is what `is_active` answered; it takes the lock on its own. -/
def acknowledgeFlowCommand (wasActive : Bool)
    (instant now : ℤ) (fill : Fill) : Bool × GatewayState :=
  if ack.gatewayId ≠ session.gatewayId || !wasActive then (false, state)
  else
    match (state.flowInFlight.lookup ack.commandId).filter (ackMatches ack) with
    | none => (false, state)
    | some sent =>
      let received := { state with flowInFlight := state.flowInFlight.erase ack.commandId }
      let settled :=
        if state.retriesPartial ack sent now then received.delayRetry sent.key ack.commandId instant
        else { received with flowAttempts := received.flowAttempts.erase ack.commandId }
      let closed :=
        if state.closesRevocation ack sent then
          { settled with flowStates := settled.flowStates.erase sent.key }
        else settled
      (true, closed.fillFlowQueue fill)

end GatewayState

/-! ### Decisions -/

def flowTtlMs : ℕ → Option ℤ
  | 17 => some 30000
  | 6 => some 120000
  | _ => none

/-- The command for a flow. `commandId` is the identifier drawn for it. -/
def flowCommandForContext (zones : Validation.Zones) (bundle : PolicySnapshot)
    (context : FlowEvaluationContext) (blockSupported limitSupported : Bool) (now : ℤ)
    (commandId : String) : Option FlowCommand :=
  if context.expiresAtMs ≤ now then none
  else
    let request := { context.request with atMs := now }
    let decision := flowCommandDecision
      (evaluatePreview zones request bundle.policies blockSupported limitSupported)
    if decision.2.isEmpty || 16 < decision.2.length then none
    else do
      let verdict ← decision.1
      let ttlMs ← flowTtlMs context.protocol
      let expiresAtMs ← flowVerdictExpiry bundle decision.2 now ttlMs
      return {
        wireVersion := policyWireVersion
        gatewayId := request.gatewayId
        bootId := context.bootId
        controllerEpoch := bundle.controllerEpoch
        configRevision := bundle.configRevision
        commandId
        policyFlowId := context.policyFlowId
        operation := .upsert
        verdict := some verdict
        policyIds := decision.2
        expiresAtMs
        issuedAtMs := now }

/-! ### The hub -/

structure PolicyHub where
  controllerEpoch : String
  (nextSessionId nextFlowContextGeneration : ℕ)
  gateways : Rows String GatewayState

def PolicyHub.new (controllerEpoch : String) : PolicyHub := ⟨controllerEpoch, 1, 1, ∅⟩

namespace PolicyHub

variable (hub : PolicyHub)

/-- The state of a gateway; there is a new one for a gateway that is not known yet. -/
def gatewayState (gatewayId : String) : GatewayState :=
  (hub.gateways.lookup gatewayId).getD .new

def setGateway (gatewayId : String) (state : GatewayState) : PolicyHub :=
  { hub with gateways := hub.gateways.insert gatewayId state }

end PolicyHub

/-- What `refresh_gateway` has read before it takes the lock. -/
structure SnapshotRead where
  gatewayId : String
  now : ℤ
  revision : ℕ
  policies : List PolicySnapshotEntry

/-- The calls of the hub, one for every time the lock is taken. -/
inductive HubCall
  | refresh (read : SnapshotRead) (forceNewGeneration : Bool) (commandIds : String → String)
      (fill : Fill)
  | register (gatewayId : String)
  | latch (session : AgentSession) (bootId : String) (now : ℤ) (fill : Fill)
  | refreshActive (session : AgentSession) (now : ℤ)
  | capabilities (session : AgentSession) (revision : ℕ) (capabilities : PolicyCapabilities)
      (now : ℤ)
  | remember (gatewayId bootId policyFlowId : String) (protocol : ℕ)
      (request : PolicyPreviewRequest) (now : ℤ)
  | forget (gatewayId bootId policyFlowId : String)
  | queue (frame : FlowCommand) (expectedContextGeneration : Option ℕ) (fill : Fill)
  | take (session : AgentSession) (revision : ℕ) (bootId : Option String) (fill refill : Fill)
  | sent (session : AgentSession) (frame : FlowCommand) (instant : ℤ)
  | unsent (session : AgentSession) (frame : FlowCommand) (fill : Fill)
  | retry (session : AgentSession) (clock : RetryClock) (fill : Fill)
  | acknowledge (session : AgentSession) (ack : FlowAck) (wasActive : Bool) (instant now : ℤ)
      (fill : Fill)
  | unregister (session : AgentSession)

namespace HubCall

/-- The gateway that a call is about. -/
def gatewayId : HubCall → String
  | .refresh read .. => read.gatewayId
  | .register gatewayId | .remember gatewayId .. | .forget gatewayId .. => gatewayId
  | .queue frame .. => frame.gatewayId
  | .latch session .. | .refreshActive session .. | .capabilities session .. | .take session ..
  | .sent session .. | .unsent session .. | .retry session .. | .acknowledge session ..
  | .unregister session => session.gatewayId

end HubCall

open GatewayState

variable (toolkit : Toolkit) (hub : PolicyHub)

/-- What a call does to the state of its gateway. A session or a context whose counter is exhausted
does not get there. -/
def PolicyHub.callState (call : HubCall) : GatewayState :=
  let state := hub.gatewayState call.gatewayId
  match call with
  | .refresh read force commandIds fill =>
    (state.refreshGateway toolkit read.gatewayId hub.controllerEpoch read.now read.revision
      read.policies force commandIds fill).2
  | .register _ => if hub.nextSessionId = u64Max then state else state.register hub.nextSessionId
  | .latch session bootId now fill => (state.latchAgentBoot session bootId now fill).2
  | .refreshActive session now => (state.refreshActiveFlowCommands session now).2
  | .capabilities session revision capabilities now =>
    (state.recordFlowCapabilities session revision capabilities now).2
  | .remember _ bootId policyFlowId protocol request now =>
    if hub.nextFlowContextGeneration = u64Max then state
    else (state.rememberFlowContext hub.nextFlowContextGeneration bootId policyFlowId protocol
      request now).2
  | .forget _ bootId policyFlowId => state.forgetFlowContext bootId policyFlowId
  | .queue frame generation fill => (state.queueFlowCommandInner frame generation fill).2
  | .take session revision bootId fill refill =>
    (state.takeFlowCommand session revision bootId fill refill).2
  | .sent session frame instant => state.markFlowCommandSent session frame instant
  | .unsent session frame fill => state.requeueUnsentFlowCommand session frame fill
  | .retry session clock fill => state.retryFlowCommands session clock fill
  | .acknowledge session ack wasActive instant now fill =>
    (state.acknowledgeFlowCommand session ack wasActive instant now fill).2
  | .unregister session => state.unregister session

/-- A session id is drawn by every registration, the last one included. -/
def PolicyHub.step (call : HubCall) : PolicyHub :=
  let stepped := hub.setGateway call.gatewayId (hub.callState toolkit call)
  match call with
  | .register _ => { stepped with nextSessionId := (hub.nextSessionId + 1) % 2 ^ 64 }
  | .remember .. =>
    { stepped with nextFlowContextGeneration := min (hub.nextFlowContextGeneration + 1) u64Max }
  | _ => stepped

def PolicyHub.run (calls : List HubCall) : PolicyHub :=
  calls.foldl (PolicyHub.step toolkit) hub

/-! ### What a call leaves alone -/

/-- The parts of the state that flow commands have nothing to do with. -/
structure Frame where
  generation : ℕ
  bundle : Option PolicySnapshot
  session : Option ℕ
deriving DecidableEq

def GatewayState.frame (state : GatewayState) : Frame :=
  ⟨state.generation, state.bundle, state.session⟩

namespace GatewayState

variable (state : GatewayState)

variable {fill : Fill}

@[simp] theorem frame_fillFlowQueue : (state.fillFlowQueue fill).frame = state.frame :=
  rfl

theorem frame_takeLoop (rev : ℕ) (bootId : String) (fill : Fill) :
    ∀ (rounds : ℕ) (state : GatewayState),
      (takeLoop rev bootId fill rounds state).2.frame = state.frame
  | 0, _ => rfl
  | rounds + 1, state => by
    unfold takeLoop
    split
    · rfl
    · split
      · exact frame_takeLoop rev bootId fill rounds _
      · split
        · exact frame_takeLoop rev bootId fill rounds _
        · split
          · exact frame_takeLoop rev bootId fill rounds _
          · rfl

theorem frame_retryPartial (now : ℤ) (key : String) :
    (state.retryPartial now key).frame = state.frame := by
  unfold retryPartial
  split
  · rfl
  · split <;> rfl

theorem frame_retryInFlight (id : String) : (state.retryInFlight id).frame = state.frame := by
  unfold retryInFlight
  split
  · rfl
  · split <;> rfl

variable (session : AgentSession)

theorem frame_retryFlowCommands (clock : RetryClock) :
    (state.retryFlowCommands session clock fill).frame = state.frame := by
  unfold retryFlowCommands
  split
  · rfl
  · rw [frame_fillFlowQueue, foldl_fixed (f := dropInFlight) (g := frame) (fun _ _ => rfl),
      foldl_fixed frame_retryInFlight,
      foldl_fixed fun state key => frame_retryPartial state (clock.now key) key]

theorem refreshGateway_cases (toolkit : Toolkit) (gw epoch : String) (now : ℤ)
    (rev : ℕ) (ps : List PolicySnapshotEntry) (force : Bool) (ids : String → String) (fill : Fill) :
    (state.refreshGateway toolkit gw epoch now rev ps force ids
        fill).2 = state ∨
      (∀ bundle ∈ state.bundle, bundle.configRevision ≤ rev) ∧
      ∃ frame, compileSnapshot toolkit.chrono toolkit.codec gw epoch (state.generation + 1)
          now rev ps = .ok frame ∧
        (state.refreshGateway toolkit gw epoch now rev ps force ids
          fill).2 =
            { (if state.bundle.any (·.configRevision ≠ frame.configRevision) then
                { state.revokeActiveFlowStates ids frame.controllerEpoch frame.configRevision
                    now fill with flowCapabilities := none }
              else state) with generation := state.generation + 1, bundle := some frame } := by
  unfold refreshGateway
  split
  · exact .inl rfl
  · rename_i hn
    split
    · exact .inl rfl
    · split
      · exact .inl rfl
      · rename_i frame hf
        refine .inr ⟨fun bundle hbun => ?_, frame, hf, rfl⟩
        rw [Option.mem_def.1 hbun] at hn
        grind

theorem frame_ownedBy (bootId : String) : (state.ownedBy bootId).frame = state.frame := by
  unfold ownedBy
  split_ifs <;> rfl

theorem queueFlowCommandInner_cases (frame : FlowCommand) (gen : Option ℕ) (fill : Fill) :
    (state.queueFlowCommandInner frame gen fill).2 = state ∨
      (state.queueFlowCommandInner frame gen fill).2 = state.ownedBy frame.bootId ∨
      validateFlowCommand frame = .ok () ∧ state.sessionBootId.any (· ≠ frame.bootId) = false ∧
        state.fitsBundle frame = true ∧ state.isSuperseded frame gen = false ∧
        isCovered ((state.ownedBy frame.bootId).flowStates.lookup (keyOf frame)) frame = false ∧
        (state.queueFlowCommandInner frame gen fill).2 =
          ((state.ownedBy frame.bootId).storeCommand (keyOf frame) (reissue
            ((state.ownedBy frame.bootId).flowStates.lookup (keyOf frame)) frame)).fillFlowQueue
              fill := by
  unfold queueFlowCommandInner
  split
  · exact .inl rfl
  · by_cases hbt : state.sessionBootId.any (· ≠ frame.bootId) = true
    · rw [if_pos hbt]
      exact .inl rfl
    by_cases hfits : (!state.fitsBundle frame) = true
    · grind
    by_cases hsuperseded : state.isSuperseded frame gen = true
    · grind
    by_cases hcov :
        isCovered ((state.ownedBy frame.bootId).flowStates.lookup (keyOf frame)) frame = true
    · grind
    grind

end GatewayState

/-- Only refreshing changes what is published, and only registering and unregistering the session. -/
theorem PolicyHub.frame_callState (hub : PolicyHub) {call : HubCall}
    (href : ∀ read force ids fill, call ≠ .refresh read force ids fill)
    (hreg : ∀ gw, call ≠ .register gw) (hunreg : ∀ session, call ≠ .unregister session) :
    (hub.callState toolkit call).frame = (hub.gatewayState call.gatewayId).frame := by
  unfold PolicyHub.callState
  cases call with
  | refresh read force ids fill => exact absurd rfl (href read force ids fill)
  | register gw => exact absurd rfl (hreg gw)
  | unregister session => exact absurd rfl (hunreg session)
  | latch =>
    dsimp only [GatewayState.latchAgentBoot]
    split_ifs <;> rfl
  | refreshActive =>
    dsimp only [GatewayState.refreshActiveFlowCommands]
    split <;> rfl
  | capabilities =>
    dsimp only [GatewayState.recordFlowCapabilities]
    split
    · rfl
    · split <;> rfl
  | remember =>
    dsimp only [GatewayState.rememberFlowContext]
    split_ifs
    · rfl
    · rfl
    all_goals exact frame_ownedBy ..
  | forget => rfl
  | queue frame gen fill =>
    dsimp only
    rcases GatewayState.queueFlowCommandInner_cases _ frame gen fill with
      heq | heq | ⟨-, -, -, -, -, heq⟩ <;> rw [heq]
    · exact frame_ownedBy ..
    · exact frame_ownedBy ..
  | take =>
    dsimp only [GatewayState.takeFlowCommand]
    split
    · rfl
    · split
      · rfl
      · exact frame_takeLoop ..
  | sent =>
    dsimp only [GatewayState.markFlowCommandSent]
    split <;> rfl
  | unsent =>
    dsimp only [GatewayState.requeueUnsentFlowCommand]
    split
    · rfl
    · split <;> rfl
  | retry => exact frame_retryFlowCommands ..
  | acknowledge =>
    dsimp only [GatewayState.acknowledgeFlowCommand]
    split
    · rfl
    · split
      · rfl
      · split_ifs <;> rfl

theorem PolicyHub.gatewayState_step (call : HubCall) (gatewayId : String) :
    (hub.step toolkit call).gatewayState gatewayId =
      if gatewayId = call.gatewayId then hub.callState toolkit call
      else hub.gatewayState gatewayId := by
  have hgws : (hub.step toolkit call).gateways =
      hub.gateways.insert call.gatewayId (hub.callState toolkit call) := by
    cases call <;> rfl
  rw [gatewayState, hgws, lookup_insert_ite]
  split_ifs
  · rfl
  · rfl

/-- What every call keeps for its gateway holds for all gateways after a run. -/
theorem PolicyHub.run_keeps {P : GatewayState → Prop} (calls : List HubCall)
    (hstart : ∀ g, P (hub.gatewayState g))
    (hcall : ∀ (hub : PolicyHub) call, P (hub.gatewayState call.gatewayId) →
      P (hub.callState toolkit call)) : ∀ g, P ((hub.run toolkit calls).gatewayState g) := by
  refine List.foldlRecOn (motive := fun hub : PolicyHub => ∀ g, P (hub.gatewayState g)) calls _ hstart
    fun hub hhub call _ g => ?_
  rw [gatewayState_step]
  split_ifs
  · exact hcall hub call (hhub _)
  · exact hhub g

end Netqmon.Collector.Policy.Hub
