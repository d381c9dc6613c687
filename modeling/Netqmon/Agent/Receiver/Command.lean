import Netqmon.Agent.FlowAlias
import Netqmon.Agent.FlowVerdict.Operations
import Netqmon.Agent.SavedState

/-! # Applying a flow command

The collector decides about a flow and sends a flow command; the agent resolves the flow's aliases,
checks the command, writes or clears verdicts and acknowledges. `applyFlowCommand` is that
function, cut at its natural joints: `resolveAliases` brings the alias cache up to date,
`refusal` is the chain of checks, and one definition for each decision does the writing.

`CommandContext` holds what the function reads and does not change: its configuration, clocks, the
saved state, the kernel's connection and socket tables, and the map faults that occur during the
command. The priority runtime is present only as the questions the function asks it. -/

namespace Netqmon.Agent.Receiver.Command

open Agent.Flow FlowAlias SavedState FlowVerdict.Model
open FlowVerdict.Operations Lib.FaultMap Lib.CappedList
open Lib.RustStr Protocol.Policy

/-! ### Context -/

structure PriorityRuntime where
  clientDeliveryIfindex : String → Option UInt32
  flowRevisionMatches : String → ℕ → Bool
  applicationPolicyReferencesValid : String → ℕ → List String → String → FlowVerdict → ℤ → ℤ → Bool
  endpointBlockExpiry : List String → String → ℤ → ℤ → Option ℤ
  applicationClassid : List String → String → Bool → UInt32 → Option ℕ
  controlsFlowHook : UInt8 → UInt32 → Bool
  hasEnabledApplicationFlowPolicy : Bool

structure CommandContext where
  (gatewayId bootId : String)
  (nowMs reportedAtMs : ℤ)
  /-- The monotonic clock when the command arrives, when the writer runs, when a shape deadline is
  computed and when the shape's coverage is judged. -/
  (receivedNs writerNs shapeNs coverageNs : ℕ)
  (emergencyDisabled endpointCacheEnabled flowCommandsEnabled flowBpfReady : Bool)
  saved : Option PolicyState
  priorityRuntime : Option PriorityRuntime
  /-- What reading the kernel's connection table again yields. -/
  refreshedConntrack : ConntrackContext
  sockets : ProxySocketContext
  isLocal : IpAddr → Bool
  ifNametoindex : String → Option UInt32
  hashOrder : PolicyFlowAliasCache.HashOrder
  verdictFaults : List (Fault FlowKey)
  endpointFaults : List (Fault EndpointKey)

/-- The state that flow commands share with the observer of packets. -/
structure FlowState where
  cache : PolicyFlowAliasCache
  conntrack : ConntrackContext
  writer : FlowVerdictWriter

/-! ### Aliases -/

/-- What is known about the command's flow once its aliases are resolved. -/
structure ResolvedFlow where
  (aliases observedAliases endpointAliases : List FlowKey)
  clientMac : Option String
  (ended isPartial stale proxyExpected proxyUnresolved proxyCapacityExceeded : Bool)

variable (ctx : CommandContext) (s : FlowState)

variable (cmd : FlowCommand)

/-- The connection table the command works with: an upsert reads it again when some alias is
missing. -/
def commandConntrack : ConntrackContext :=
  if cmd.operation = .upsert ∧
      (s.cache.aliases cmd.policyFlowId).any (fun key => (s.conntrack.resolve key).isNone)
  then ctx.refreshedConntrack else s.conntrack

def reconciledCache : PolicyFlowAliasCache :=
  if cmd.operation = .upsert then
    s.cache.reconcileForCommand ctx.hashOrder cmd.policyFlowId
      ((s.cache.clientMac cmd.policyFlowId).bind fun mac =>
        ctx.priorityRuntime.bind fun runtime => runtime.clientDeliveryIfindex mac)
      (commandConntrack ctx s cmd)
  else s.cache

variable (aliases : List FlowKey)

/-- Proxy returns proved by connection tracking, or else by the sockets of local proxies. -/
def proxyResolution (conntrack : ConntrackContext) : ProxyReturnResolution :=
  let tracked := proxyReturnAliases aliases conntrack ctx.isLocal
  if tracked.expected || !tracked.aliases.isEmpty then tracked
  else
    let socket := proxySocketReturnAliases aliases ctx.sockets ctx.isLocal
    if socket.expected then socket else tracked

/-- Insert proxy returns; the flag says whether one was refused. -/
def insertProxyReturns (id : String) (aliases : List FlowKey) (cache : PolicyFlowAliasCache) :
    Bool × PolicyFlowAliasCache :=
  aliases.foldl (fun acc key =>
    let inserted := acc.2.insertProxyReturn id key
    (acc.1 || !inserted.1.isOk, inserted.2)) (false, cache)

def resolveAliases : ResolvedFlow × FlowState :=
  let id := cmd.policyFlowId
  let conntrack := commandConntrack ctx s cmd
  let cache := reconciledCache ctx s cmd
  let proxy := proxyResolution ctx (cache.aliases id) conntrack
  let inserted := insertProxyReturns id proxy.aliases cache
  let cache := inserted.2
  ({ aliases := cache.aliases id
     observedAliases := cache.observedAliases id
     endpointAliases := cache.endpointBlockAliases id
     clientMac := cache.clientMac id
     ended := cache.isEnded id
     isPartial := cache.isPartial id
     stale := cache.commandIsStale id cmd.issuedAtMs
     proxyExpected := proxy.expected
     proxyUnresolved := proxy.expected && (proxy.aliases.isEmpty || proxy.unresolved)
     proxyCapacityExceeded := inserted.1 },
    { s with cache := cache, conntrack := conntrack })

/-! ### Checks -/

variable (snapshot : PolicySnapshot)

def snapshotHasEnabledApplicationVerdicts : Bool :=
  snapshot.policies.any fun policy => policy.spec.enabled && policy.spec.selectsApplications

/-- The interval of the policy's schedule that contains `time`. -/
def activeInterval (policyId : String) (time : ℤ) : Option PolicyScheduleInterval :=
  (snapshot.scheduleIntervals.find? (·.policyId == policyId)).bind fun entry =>
    entry.intervals.find? fun interval => interval.startMs ≤ time && time < interval.endMs

/-- The policy's action is the one the verdict stands for. -/
def verdictMatchesAction (verdict : Option FlowVerdict) (spec : PolicySpecV1) : Bool :=
  match verdict with
  | some .block => spec.action.kind == .block
  | some .allow => spec.action.kind == .allow
  | some .shape => spec.action.kind == .limit && !spec.selectors.clients.isEmpty
  | none => false

def flowCommandPolicyReferencesValid (state : Option PolicyState) (policyIds : List String)
    (verdict : Option FlowVerdict) (issuedAtMs expiresAtMs : ℤ) : Bool :=
  match state with
  | none => false
  | some state =>
    if policyIds.isEmpty || expiresAtMs ≤ issuedAtMs || state.snapshot.validUntilMs < expiresAtMs
    then false
    else policyIds.all fun policyId =>
      match state.snapshot.policies.find? (·.id == policyId) with
      | none => false
      | some policy =>
        (policy.spec.schedule.isNone ||
            (activeInterval state.snapshot policyId issuedAtMs).any (expiresAtMs ≤ ·.endMs))
          && policy.spec.enabled && policy.spec.selectsApplications
          && verdictMatchesAction verdict policy.spec

variable (cmd : FlowCommand)

def revisionMatches : Bool :=
  match ctx.priorityRuntime with
  | some runtime => runtime.flowRevisionMatches cmd.controllerEpoch cmd.configRevision
  | none => ctx.saved.any fun state =>
    state.controllerEpoch == cmd.controllerEpoch && state.configRevision == cmd.configRevision

def policyReferencesValid (clientMac : Option String) : Bool :=
  match ctx.priorityRuntime with
  | some runtime =>
    match cmd.verdict, clientMac with
    | some verdict, some mac =>
      runtime.applicationPolicyReferencesValid cmd.controllerEpoch cmd.configRevision cmd.policyIds
        mac verdict cmd.issuedAtMs cmd.expiresAtMs
    | _, _ => false
  | none =>
    flowCommandPolicyReferencesValid ctx.saved cmd.policyIds cmd.verdict cmd.issuedAtMs
      cmd.expiresAtMs

/-- The snapshot in force holds no application verdicts. -/
def noAppVerdicts : Bool :=
  !(match ctx.priorityRuntime with
    | some runtime => runtime.hasEnabledApplicationFlowPolicy
    | none => ctx.saved.any fun state => snapshotHasEnabledApplicationVerdicts state.snapshot)

abbrev CommandStatus := FlowAckStatus × Option String

def i64Max : ℤ := 2 ^ 63 - 1
def i64Min : ℤ := -2 ^ 63

def saturatingSub (a b : ℤ) : ℤ := max i64Min (min i64Max (a - b))

/-- The lifetime or the protocols of the command's aliases are out of range. -/
def invalidTtl (protocol : UInt8) (aliases : List FlowKey) : Bool :=
  let ttl := saturatingSub cmd.expiresAtMs cmd.issuedAtMs
  (protocol == 17 && decide (30000 < ttl)) || (protocol == 6 && decide (120000 < ttl))
    || !(protocol == 6 || protocol == 17) || aliases.any (·.protocol != protocol)

/-- The status of a command that is decided without touching the verdict map. -/
def refusal (flow : ResolvedFlow) : Option CommandStatus :=
  let upsert := cmd.operation == .upsert
  if cmd.gatewayId ≠ ctx.gatewayId ∨ cmd.bootId ≠ ctx.bootId then
    some (.failed, some "flow_identity_unresolved")
  else if cmd.expiresAtMs ≤ ctx.nowMs then some (.expired, some "expired")
  else if ctx.emergencyDisabled then some (.unsupported, some "emergency_disabled")
  else if !revisionMatches ctx cmd then some (.unsupported, some "revision_mismatch")
  else if upsert && !ctx.flowCommandsEnabled then
    some (.unsupported, some "application_policy_disabled")
  else if upsert && !ctx.flowBpfReady then
    some (.unsupported, some "application_enforcement_unavailable")
  else if upsert && flow.ended then some (.unsupported, some "flow_identity_unresolved")
  else
    match flow.aliases with
    | [] =>
      if cmd.operation = .revoke ∧ noAppVerdicts ctx then some (.applied, none)
      else some (.unsupported, some "flow_identity_unresolved")
    | first :: _ =>
      if flow.stale then some (.expired, some "stale_flow_command")
      else if invalidTtl cmd first.protocol flow.aliases then some (.failed, some "invalid_flow_ttl")
      else if upsert && !policyReferencesValid ctx cmd flow.clientMac then
        some (.failed, some "invalid_policy_reference")
      else none

/-! ### Deadlines -/

/-- The monotonic deadline `remaining` milliseconds after `base`. -/
def deadlineAfter (base remaining : ℕ) : ℕ :=
  min (base + min (remaining * 1000000) u64Max) u64Max

def commandDeadline (base : ℕ) : ℕ :=
  deadlineAfter base (max 0 (saturatingSub cmd.expiresAtMs ctx.nowMs)).toNat

def endpointCacheTtlMs : ℤ := 5 * 60 * 1000

def selectsClient (spec : PolicySpecV1) (clientMac : String) : Bool :=
  spec.selectors.clients.any (eqIgnoreAsciiCase · clientMac)

/-- The latest moment up to which the snapshot authorizes an endpoint block. -/
def endpointExpiresAtMs (policyIds : List String) (clientMac : String)
    (issuedAtMs nowMs : ℤ) : Option ℤ := do
  if policyIds.isEmpty || issuedAtMs < 0 || nowMs < 0 then none
  let ttl := min (saturatingSub issuedAtMs (-endpointCacheTtlMs)) snapshot.validUntilMs
  let own ← policyIds.foldlM (fun expiry id => do
    let policy ← snapshot.policies.find? (·.id == id)
    if !policy.spec.enabled || policy.spec.action.kind != .block
        || !policy.spec.selectsApplications || !selectsClient policy.spec clientMac then none
    if policy.spec.schedule.isSome then
      return min expiry (← activeInterval snapshot id nowMs).endMs
    return expiry) ttl
  -- another matching rule can change the decision at its next schedule transition
  let others := snapshot.policies.filter fun policy =>
    policy.spec.enabled && policy.spec.schedule.isSome && policy.spec.selectsApplications
      && selectsClient policy.spec clientMac
  let expiry ← others.foldlM (fun expiry policy => do
    let entry ← snapshot.scheduleIntervals.find? (·.policyId == policy.id)
    let boundaries := entry.intervals.flatMap fun interval => [interval.startMs, interval.endMs]
    return (boundaries.filter (nowMs < ·)).foldl min expiry) own
  if nowMs < expiry then some expiry else none

def endpointExpiry (clientMac : String) : Option ℤ :=
  if ctx.endpointCacheEnabled then
    match ctx.priorityRuntime with
    | some runtime => runtime.endpointBlockExpiry cmd.policyIds clientMac cmd.issuedAtMs ctx.nowMs
    | none => ctx.saved.bind fun state =>
      endpointExpiresAtMs state.snapshot cmd.policyIds clientMac cmd.issuedAtMs ctx.nowMs
  else none

/-! ### Block, allow and revoke -/

def maxBlockAliases : ℕ := 8

variable (key : FlowKey)

def otherHook : FlowKey := { key with hook := if key.hook = 1 then 2 else 1 }

/-- The keys under which packets of an alias may pass at the other hook or in reverse. -/
def aliasVariants : List FlowKey :=
  [{ key.reverse with hook := 1 }, { key.reverse with hook := 2 }, otherHook key]

/-- The keys a block covers: first the aliases, then their variants, eight in all. -/
def blockReverseAliases : List FlowKey :=
  pushAll maxBlockAliases (pushAll maxBlockAliases [] (aliases.take maxBlockAliases))
    ((aliases.take maxBlockAliases).flatMap aliasVariants)

def partialCoverage : CommandStatus := (.partially, some "partial_alias_coverage")

variable (flow : ResolvedFlow)

def blockAckStatus : CommandStatus :=
  if flow.proxyCapacityExceeded then (.partially, some "proxy_alias_capacity_exceeded")
  else if flow.proxyUnresolved then (.partially, some "proxy_return_path_unresolved")
  else if flow.isPartial then partialCoverage
  else (.applied, none)

def mapWriteFailed : CommandStatus := (.failed, some "bpf_map_write_failed")

def blockError (error : String) : CommandStatus :=
  if "block_owner_capacity_exceeded:".toList.isPrefixOf error.toList then
    (.failed, some "block_owner_capacity_exceeded")
  else mapWriteFailed

def FlowState.recordCommand (cmd : FlowCommand) : FlowState :=
  { s with cache := s.cache.recordCommand cmd.policyFlowId cmd.issuedAtMs }

variable (policyIdentityHash : String → BitVec 128)

/-- Create the endpoint blocks of a block command, if the snapshot authorizes them. -/
def rememberEndpoints (ctx : CommandContext)
    (cmd : FlowCommand) (flow : ResolvedFlow) (policyId clientMac : String)
    (w : FlowVerdictWriter) : Except String ℕ × FlowVerdictWriter :=
  match endpointExpiry ctx cmd clientMac with
  | none => (.ok 0, w)
  | some expiry =>
    rememberEndpointBlocks policyIdentityHash w flow.endpointAliases cmd.policyFlowId policyId
      clientMac cmd.configRevision
      (deadlineAfter ctx.receivedNs (saturatingSub expiry ctx.nowMs % 2 ^ 64).toNat)

def applyBlock (ctx : CommandContext) (s : FlowState)
    (cmd : FlowCommand) (flow : ResolvedFlow) : CommandStatus × FlowState :=
  match cmd.policyIds, flow.clientMac with
  | policyId :: _, some clientMac =>
    match installBlock policyIdentityHash s.writer (blockReverseAliases flow.aliases)
        flow.observedAliases cmd.policyFlowId policyId clientMac cmd.configRevision
        (commandDeadline ctx cmd ctx.receivedNs) ctx.writerNs with
    | (.error error, w) => (blockError error, { s with writer := w })
    | (.ok _, w) =>
      match rememberEndpoints policyIdentityHash ctx cmd flow policyId clientMac w with
      | (.error error, w') => (blockError error, { s with writer := w' })
      | (.ok _, w') => (blockAckStatus flow, FlowState.recordCommand { s with writer := w' } cmd)
  | _, _ => ((.failed, some "flow_identity_unresolved"), s)

def forgetEndpoints (w : FlowVerdictWriter) : Except String Unit × FlowVerdictWriter :=
  match flow.clientMac with
  | none => (.ok (), w)
  | some clientMac => forgetEndpointBlocks w flow.endpointAliases clientMac

/-- Clear the flow's verdicts. An allow also forgets its endpoint blocks, a revoke does not. -/
def applyClear (cmd : FlowCommand) (flow : ResolvedFlow)
    (forget : Bool) : CommandStatus × FlowState :=
  match clearAliases s.writer (blockReverseAliases flow.aliases) (some cmd.policyFlowId)
      ctx.writerNs with
  | (.error _, w) => (mapWriteFailed, { s with writer := w })
  | (.ok _, w) =>
    match (if forget then forgetEndpoints flow w else (.ok (), w)) with
    | (.error _, w') => (mapWriteFailed, { s with writer := w' })
    | (.ok _, w') => ((.applied, none), FlowState.recordCommand { s with writer := w' } cmd)

/-! ### Shape -/

inductive ShapeTagGap
  | directionUnknown
  | classUnresolved
deriving DecidableEq

/-- The tag of one alias; `none` for an alias that is deliberately left untagged. -/
def priorityShapeTag (hook : UInt8) (direction : Option AliasDirection)
    (classid : Bool → Option ℕ) : Option (Except ShapeTagGap ℕ) :=
  match direction with
  | none => some (.error .directionUnknown)
  | some direction =>
    let upload := if direction = .upload ∧ hook = 1 then some true
      else if direction = .download ∧ hook = 2 then some false else none
    upload.map fun upload =>
      match classid upload with
      | some classid => .ok classid
      | none => .error .classUnresolved

/-- The position of an alias in the order of installation. -/
def tagSortKey : ℕ :=
  let shift := fun (acc digit width : ℕ) => acc * 2 ^ width + digit
  let acc := shift (shift key.hook.toNat key.ifindex.toNat 32) key.ipVersion.toNat 8
  let acc := shift (shift acc key.protocol.toNat 8) key.sourceAddress.toNat 128
  let acc := shift acc key.destinationAddress.toNat 128
  shift (shift acc key.sourcePort.toNat 16) key.destinationPort.toNat 16

structure ShapeTags where
  tags : List (FlowKey × ℕ)
  unresolved : List ShapeTagGap

def selectPriorityShapeTags (direction : FlowKey → Option AliasDirection)
    (classid : FlowKey → Bool → Option ℕ) : ShapeTags :=
  let selected := aliases.filterMap fun key =>
    (priorityShapeTag key.hook (direction key) (classid key)).map fun tag => (key, tag)
  { tags := (selected.filterMap fun t => t.2.toOption.map fun tag => (t.1, tag)).insertionSort
      fun a b => tagSortKey a.1 ≤ tagSortKey b.1
    unresolved := selected.filterMap fun t =>
      match t.2 with
      | .ok _ => none
      | .error gap => some gap }

def shapedAlias : Option AliasDirection → Option ShapeDirection
  | some .upload => some .upload
  | some .download => some .download
  | _ => none

/-- The class that shapes an alias of the client for the first of the policies that has one. -/
def applicationClass (shaping : ShapingState) (key : FlowKey) (clientMac : String)
    (policyIds : List String) (direction : Option ShapeDirection) : Option ApplicationClass :=
  let controls := fun interface : ManagedInterface =>
    if key.hook = 1 then
      shaping.uploadInterface.any (·.ifindex == interface.ifindex) && direction == some .upload
    else interface.ifindex == key.ifindex
  policyIds.findSome? fun policyId =>
    (shaping.interfaces.filter controls).findSome? fun interface =>
      interface.applicationClasses.find? fun c =>
        c.policyId == policyId && eqIgnoreAsciiCase c.mac clientMac
          && c.ifindex == interface.ifindex
          && (!interface.sharedEgress || direction == some c.direction)

def applicationShapeTags (shaping : ShapingState) (aliases : List FlowKey) (clientMac : String)
    (policyIds : List String) (direction : FlowKey → Option ShapeDirection)
    (sharedWanIngress : List UInt32) : Option (List (FlowKey × ℕ)) :=
  let controlled := aliases.filter fun key =>
    key.hook == 2 || (key.hook == 1 && sharedWanIngress.contains key.ifindex)
  let tags := controlled.filterMap fun key =>
    (applicationClass shaping key clientMac policyIds (direction key)).map fun c => (key, c.tag)
  if tags.isEmpty then none else some tags

/-- The interfaces on which uploads enter that leave through another interface than the shaped
one. -/
def sharedWanIngressIfindices (state : PolicyState) : List UInt32 :=
  match state.shapingState.bind (·.uploadInterface) with
  | none => []
  | some upload =>
    let uploads := state.shapingMarks.filter (·.direction == .upload)
    if uploads.any (·.interfaceOut != upload.name) then
      uploads.filterMap fun rule => ctx.ifNametoindex rule.interfaceIn
    else []

/-- The tags of a shape command, and whether a direction or a class was missing. -/
structure ShapeSelection where
  tags : List (FlowKey × ℕ)
  (unresolvedDirection unresolvedClass : Bool)

variable (cache : PolicyFlowAliasCache)

def shapeSelection (cmd : FlowCommand) (flow : ResolvedFlow) : ShapeSelection :=
  let direction := cache.shapeDirection cmd.policyFlowId
  match ctx.priorityRuntime with
  | some runtime =>
    match flow.clientMac with
    | none => ⟨[], false, false⟩
    | some mac =>
      let selection := selectPriorityShapeTags flow.aliases direction fun key upload =>
        runtime.applicationClassid cmd.policyIds mac upload key.ifindex
      ⟨selection.tags, selection.unresolved.contains .directionUnknown,
        selection.unresolved.contains .classUnresolved⟩
  | none =>
    let tags := do
      let state ← ctx.saved
      applicationShapeTags (← state.shapingState) flow.aliases (← flow.clientMac) cmd.policyIds
        (fun key => shapedAlias (direction key)) (sharedWanIngressIfindices ctx state)
    ⟨tags.getD [], false, false⟩

/-- With the legacy queues on a shared uplink, an upload class without a tagged ingress alias, or a
redirect to a local proxy, leaves traffic unshaped. -/
def legacyClassGap (flow : ResolvedFlow) (tags : List (FlowKey × ℕ)) : Bool :=
  ctx.priorityRuntime.isNone && ctx.saved.any fun state =>
    !(sharedWanIngressIfindices ctx state).isEmpty &&
      (flow.proxyExpected ||
        ((state.shapingState.bind (·.uploadInterface)).any (fun upload =>
            upload.applicationClasses.any fun c =>
              flow.clientMac.any (eqIgnoreAsciiCase c.mac ·) && cmd.policyIds.contains c.policyId)
          && !tags.any (·.1.hook == 1)))

def hexChar (digit : ℕ) : Char :=
  if digit < 10 then Char.ofNat ('0'.toNat + digit) else Char.ofNat ('a'.toNat + (digit - 10))

/-- The flow id whose hash is `hash`, in lower case. -/
def flowIdOfHash (hash : BitVec 128) : String :=
  String.ofList ((List.range 32).map fun i => hexChar (hash.toNat / 16 ^ (31 - i) % 16))

def shapeOwnerFromValue (value : VerdictValue) (generation now : ℕ) : Option (String × ℕ) :=
  if value.verdict ≠ .shape ∨ value.expiresMonotonicNs ≤ now ∨ value.generation ≠ generation
      ∨ !validShapeTag key.hook value.policyTag then none
  else some (flowIdOfHash value.identity.flowHash, value.policyTag)

def activeShapeOwner (w : FlowVerdictWriter) (key : FlowKey) (generation now : ℕ) :
    Option (String × ℕ) × FlowVerdictWriter :=
  if !w.available then (none, w)
  else
    match w.verdictMap.lookup key with
    | (.ok (some value), map) =>
      (shapeOwnerFromValue key value generation now, { w with verdictMap := map })
    | (_, map) => (none, { w with verdictMap := map })

/-- Every pending alias is shaped, by the flow of the other direction. -/
def peersCover (ctx : CommandContext) (cache : PolicyFlowAliasCache) (cmd : FlowCommand)
    (clientMac : String) : List FlowKey → FlowVerdictWriter → Bool × FlowVerdictWriter
  | [], w => (true, w)
  | key :: rest, w =>
    match activeShapeOwner w key cmd.configRevision ctx.coverageNs with
    | (some (peer, tag), w') =>
      if cache.peerShapeCovers cmd.policyFlowId peer key tag clientMac cmd.controllerEpoch
          cmd.configRevision cmd.policyIds ctx.coverageNs
      then peersCover ctx cache cmd clientMac rest w' else (false, w')
    | (none, w') => (false, w')

/-- Whether some alias of the flow still counts as unverified once the shape is installed. -/
def tupleUnverified (cmd : FlowCommand) (flow : ResolvedFlow) : Bool × FlowVerdictWriter :=
  if !s.cache.hasUnverifiedAliases cmd.policyFlowId then (false, s.writer)
  else
    match ctx.priorityRuntime, flow.clientMac, s.cache.unresolvedAliases cmd.policyFlowId with
    | some _, some mac, some pending =>
      let covered := peersCover ctx s.cache cmd mac pending s.writer
      (pending.isEmpty || !covered.1, covered.2)
    | _, _, _ => (true, s.writer)

/-- The cache once a shape is installed. -/
def rememberShaped (cmd : FlowCommand) (tags : List (FlowKey × ℕ)) : FlowState :=
  let s := s.recordCommand cmd
  match ctx.priorityRuntime with
  | none => s
  | some _ =>
    { s with
      cache := s.cache.rememberShape cmd.policyFlowId cmd.controllerEpoch cmd.configRevision
        cmd.policyIds tags (commandDeadline ctx cmd ctx.shapeNs) }

def controlledHook : Bool :=
  match ctx.priorityRuntime with
  | some runtime => aliases.any fun key => runtime.controlsFlowHook key.hook key.ifindex
  | none => aliases.any fun key => key.ifindex != 0 && key.hook == 2

/-- Why no alias of the flow could be tagged. -/
def shapeTagRejection (cmd : FlowCommand)
    (flow : ResolvedFlow) (unresolvedDirection : Bool) : String :=
  let directionKnown := flow.aliases.any fun key =>
    (shapedAlias (cache.shapeDirection cmd.policyFlowId key)).isSome
  if !controlledHook ctx flow.aliases then "traffic_not_on_controlled_hook"
  else if flow.clientMac.isNone then "flow_identity_or_alias_mismatch"
  else if unresolvedDirection then "alias_direction_unknown"
  else if cache.hasUnverifiedAliases cmd.policyFlowId then "alias_tuple_unverified"
  else if !directionKnown then "flow_identity_or_alias_mismatch"
  else "application_class_unresolved"

def applyShape (cmd : FlowCommand) (flow : ResolvedFlow) : CommandStatus × FlowState :=
  let selection := shapeSelection ctx s.cache cmd flow
  if selection.tags.isEmpty then
    ((.unsupported,
      some (shapeTagRejection ctx s.cache cmd flow selection.unresolvedDirection)), s)
  else
    match installShape s.writer selection.tags cmd.policyFlowId cmd.configRevision
        (commandDeadline ctx cmd ctx.shapeNs) with
    | (.error _, w) => (mapWriteFailed, { s with writer := w })
    | (.ok _, w) =>
      let s' := rememberShaped ctx { s with writer := w } cmd selection.tags
      let unverified := tupleUnverified ctx s' cmd flow
      let incomplete := selection.unresolvedDirection || selection.unresolvedClass
        || legacyClassGap ctx cmd flow selection.tags || unverified.1 || flow.isPartial
      (if incomplete then partialCoverage else (.applied, none),
        { s' with writer := unverified.2 })

/-! ### The command -/

def applyDecision (ctx : CommandContext) (s : FlowState)
    (cmd : FlowCommand) (flow : ResolvedFlow) : CommandStatus × FlowState :=
  match cmd.operation, cmd.verdict with
  | .upsert, some .block => applyBlock policyIdentityHash ctx s cmd flow
  | .upsert, some .allow => applyClear ctx s cmd flow true
  | .upsert, some .shape => applyShape ctx s cmd flow
  | .revoke, none => applyClear ctx s cmd flow false
  | _, _ => ((.failed, some "invalid_flow_operation"), s)

def commandOutcome (ctx : CommandContext)
    (s : FlowState) (cmd : FlowCommand) (flow : ResolvedFlow) : CommandStatus × FlowState :=
  match refusal ctx cmd flow with
  | some status => (status, s)
  | none => applyDecision policyIdentityHash ctx s cmd flow

/-- A flow whose alias list is incomplete is never acknowledged as fully applied. -/
def finalStatus (status : CommandStatus) : CommandStatus :=
  if flow.isPartial && status.1 == .applied then partialCoverage else status

def FlowState.withFaults (ctx : CommandContext) : FlowState :=
  { s with writer := FlowVerdictWriter.setFaults s.writer ctx.verdictFaults ctx.endpointFaults [] }

def applyFlowCommand (ctx : CommandContext)
    (s : FlowState) (cmd : FlowCommand) : FlowAck × FlowState :=
  let resolved := resolveAliases ctx (s.withFaults ctx) cmd
  let outcome := commandOutcome policyIdentityHash ctx resolved.2 cmd resolved.1
  let status := finalStatus resolved.1 outcome.1
  ({ wireVersion := policyWireVersion
     gatewayId := ctx.gatewayId
     bootId := ctx.bootId
     controllerEpoch := cmd.controllerEpoch
     commandId := cmd.commandId
     policyFlowId := cmd.policyFlowId
     configRevision := cmd.configRevision
     status := status.1
     reasonCode := status.2
     aliasCount := resolved.1.aliases.length
     reportedAtMs := ctx.reportedAtMs }, outcome.2)

end Netqmon.Agent.Receiver.Command
