import Netqmon.Agent.Executor.Plan
import Netqmon.Lib.EarlyReturn

/-! # Processing a snapshot

`processSnapshotWith` validates a snapshot, compares it with the saved state, builds the plan and
carries it out: nftables rules, traffic classes, then the state file. Whatever happens, it returns
an acknowledgement. `Host` is everything it works on: the files, nftables and the queueing
disciplines, each operation of which may fail. The function is cut into its stages; a stage either
goes on or leaves with the acknowledgement of a failure. -/

namespace Netqmon.Agent.Executor.Process

open Agent.Flow SavedState Executor.Topology ShapingPlan
open Plan Lib.Checks Lib.EarlyReturn
open Lib.RustStr Protocol.Policy Protocol.Validate

/-! ### Surroundings -/

structure NftPlan where
  blockedV4 : List IpAddr
  blockedV6 : List IpAddr
  markRules : List MarkRule
deriving DecidableEq

structure Host (W : Type) where
  /-- The emergency disable marker is present. -/
  disabled : W → Bool
  load : W → Except String (Option PolicyState)
  persist : PolicyState → W → Except String Unit × W
  clearOwned : W → Except String Unit × W
  isInstalled : W → Except String Bool × W
  replace : PolicyTopology → NftPlan → W → Except String Unit × W
  inspectMarkConflicts : PolicyTopology → Option ShapingState → W → Except String Unit × W
  prepareShaping : ShapingState → Option ShapingState → W → Except String ShapingState × W
  writeShapingJournal : Option ShapingState → Option ShapingState → W → Except String Unit × W
  applyShaping : ShapingState → Option ShapingState → W → Except String Unit × W
  rollbackShaping : Option ShapingState → Option ShapingState → W → Except String Unit × W
  clearShapingJournal : W → Except String Unit × W
  recoverShapingJournal : Option ShapingState → W → Except String Bool × W

/-- Every operation of the host works, and only `save` changes the world. -/
def Host.working {W : Type} (disabled : W → Bool) (load : W → Except String (Option PolicyState))
    (save : PolicyState → W → W) (installed : Bool) : Host W where
  disabled
  load
  persist state w := (.ok (), save state w)
  clearOwned w := (.ok (), w)
  isInstalled w := (.ok installed, w)
  replace _ _ w := (.ok (), w)
  inspectMarkConflicts _ _ w := (.ok (), w)
  prepareShaping desired _ w := (.ok desired, w)
  writeShapingJournal _ _ w := (.ok (), w)
  applyShaping _ _ w := (.ok (), w)
  rollbackShaping _ _ w := (.ok (), w)
  clearShapingJournal w := (.ok (), w)
  recoverShapingJournal _ w := (.ok false, w)

/-- What the executor knows besides the snapshot and the topology. -/
structure Context where
  codec : Codec
  digest16 : String → ℕ
  topologyFingerprint : PolicyTopology → String
  (gatewayId bootId : String)
  /-- The clock when the plan is built and when the acknowledgement is. -/
  (now reportedNow : Option ℤ)

/-! ### Acknowledgements -/

variable {W : Type} (host : Host W) (ctx : Context) (snapshot : PolicySnapshot)
  (topology : PolicyTopology)

variable (capabilities : PolicyCapabilities)

def policyAck (status : PolicyAckStatus) (results : List PolicyResult) : PolicyAck :=
  { wireVersion := policyWireVersion
    gatewayId := snapshot.gatewayId
    bootId := ctx.bootId
    controllerEpoch := snapshot.controllerEpoch
    configRevision := snapshot.configRevision
    bundleGeneration := snapshot.bundleGeneration
    checksum := snapshot.checksum
    status
    capabilities
    results
    reportedAtMs := max (ctx.reportedNow.getD 0) 0 }

def snapshotResults (status : PolicyResultStatus) (code message : String) : List PolicyResult :=
  snapshot.policies.map fun policy => result policy.id status (some code) (some message)

def failureAck (code message : String) : PolicyAck :=
  policyAck ctx snapshot capabilities .failed (snapshotResults snapshot .failed code message)

/-- The code in front of the first colon of an error text. -/
def errorCode (fallback error : String) : String :=
  match splitOnce ": " error with
  | none => fallback
  | some (code, _) => code

def limitsUnsupported : PolicyCapabilities :=
  { capabilities with clientLimit := .unsupported, applicationLimit := .unsupported }

def unsupportedTopologyResults : List PolicyResult :=
  snapshot.policies.map fun policy =>
    if !policy.spec.enabled then result policy.id .disabled none none
    else if isSupportedClientPolicy policy
        || (isApplicationPolicy policy && isLimit policy && !policy.spec.selectors.clients.isEmpty
          && topology.capabilities.applicationLimit != .unsupported) then
      if isLimit policy then
        result policy.id .unsupported (some "unsupported_topology")
          (some (topology.clientLimitReason.getD "aggregate shaping topology is not verified"))
      else
        result policy.id .unsupported (some (topology.reasonCode.getD "unsupported_topology"))
          (some (topology.reason.getD "client enforcement topology is not verified"))
    else unsupportedResult topology policy

/-! ### Rolling back -/

def hasEnabledClientPolicy (saved : PolicySnapshot) : Bool :=
  saved.policies.any fun policy =>
    isSupportedClientPolicy policy || (policy.spec.enabled && isApplicationPolicy policy)

def isV4 : IpAddr → Bool
  | .v4 _ => true
  | .v6 _ => false

variable (previousShape : Option ShapingState)

def rollbackShape (currentShape : Option ShapingState) (w : W) : List String × W :=
  match host.recoverShapingJournal previousShape w with
  | (.ok true, w') => ([], w')
  | (.ok false, w') =>
    match host.rollbackShaping previousShape currentShape w' with
    | (.ok _, w'') => ([], w'')
    | (.error error, w'') => (["qdisc rollback failed: " ++ error], w'')
  | (.error error, w') => (["qdisc recovery failed: " ++ error], w')

variable (previous : Option PolicyState)

def rollbackNft (w : W) : List String × W :=
  let restored :=
    match previous with
    | none => host.clearOwned w
    | some previous =>
      let plan : NftPlan :=
        { blockedV4 := previous.blockedClientsV4.filter isV4
          blockedV6 := previous.blockedClientsV6.filter (!isV4 ·)
          markRules := previous.shapingMarks }
      if !plan.blockedV4.isEmpty || !plan.blockedV6.isEmpty || !plan.markRules.isEmpty
          || hasEnabledClientPolicy previous.snapshot then
        host.replace topology plan w
      else host.clearOwned w
  match restored with
  | (.ok _, w') => ([], w')
  | (.error error, w') => (["nft rollback failed: " ++ error], w')

def rollbackRuntime (currentShape : Option ShapingState)
    (withShape : Bool) (w : W) : Except String Unit × W :=
  let shape :=
    if withShape then rollbackShape host (previous.bind (·.shapingState)) currentShape w
    else ([], w)
  let nft := rollbackNft host topology previous shape.2
  let errors := shape.1 ++ nft.1
  (if errors.isEmpty then .ok () else .error ("; ".intercalate errors), nft.2)

def rollbackMessage (error : String) : Except String Unit → String
  | .ok _ => error
  | .error rollback => error ++ "; rollback failed: " ++ rollback

/-- Roll back after a late failure; the journal goes once the rollback succeeded. -/
def undo (currentShape : ShapingState) (withShape journal : Bool)
    (code error : String) : Prog W PolicyAck Unit := do
  let rollback ← Prog.call (rollbackRuntime host topology previous (some currentShape) withShape)
  if rollback.isOk && journal then
    let _ ← Prog.call host.clearShapingJournal
  Prog.early (failureAck ctx snapshot topology.capabilities code (rollbackMessage error rollback))

/-! ### Stages -/

/-- The checks before the saved state is read. -/
def screen (disabled : Bool) : Except PolicyAck Unit := do
  ensure (snapshot.gatewayId == ctx.gatewayId && (validateSnapshot ctx.codec snapshot).isOk)
    (failureAck ctx snapshot topology.capabilities "invalid_snapshot"
      "snapshot validation failed or the gateway binding does not match")
  ensure (!disabled)
    (failureAck ctx snapshot topology.capabilities "emergency_disabled"
      "local emergency disable marker is present")
  ensure (!snapshot.policies.any fun policy => policy.spec.enabled && isClientTotalSpec policy.spec)
    (failureAck ctx snapshot topology.capabilities "priority_backend_required"
      ("client totals require the verified priority backend; "
        ++ "the previous policy remains active"))

/-- The checks against the last snapshot that was applied. -/
def checkOrder (previous : PolicyState) : Except PolicyAck Unit := do
  let sameEpoch := snapshot.controllerEpoch == previous.controllerEpoch
  ensure (previous.configRevision ≤ snapshot.configRevision)
    (failureAck ctx snapshot topology.capabilities "revision_rollback_detected"
      "snapshot revision is lower than the last successfully persisted revision")
  ensure (!(sameEpoch && (snapshot.configRevision < previous.configRevision
      || (snapshot.configRevision == previous.configRevision
        && snapshot.bundleGeneration < previous.bundleGeneration))))
    (failureAck ctx snapshot topology.capabilities "stale_snapshot"
      "snapshot revision or generation is older than the last applied snapshot")
  ensure (!(sameEpoch && snapshot.configRevision == previous.configRevision
      && snapshot.bundleGeneration == previous.bundleGeneration
      && snapshot.checksum != previous.checksum))
    (failureAck ctx snapshot topology.capabilities "snapshot_identity_conflict"
      "the same epoch, revision, and generation carried a different checksum")

def checkTopology : Except PolicyAck Unit :=
  ensure (topology.supported || !snapshot.policies.any isSupportedClientPolicy)
    (policyAck ctx snapshot topology.capabilities .unsupported
      (unsupportedTopologyResults snapshot topology))

/-- Read the saved state, settle an interrupted change of the classes and compare. -/
def loadPrevious : Prog W PolicyAck (Option PolicyState) := do
  let loaded ← Prog.read host.load
  let old ← Prog.ofExcept (loaded.mapError
    (failureAck ctx snapshot topology.capabilities "local_state_invalid"))
  let recovered ← Prog.call (host.recoverShapingJournal (old.bind (·.shapingState)))
  let _ ← Prog.ofExcept (recovered.mapError
    (failureAck ctx snapshot topology.capabilities "manual_cleanup_required"))
  match old with
  | none => pure ()
  | some previous => Prog.ofExcept (checkOrder ctx snapshot topology previous)
  pure old

variable (plan : BuiltPlan)

def hasShapingRates : Bool :=
  !plan.clientRates.isEmpty || !plan.applicationRates.isEmpty

/-- The plan with its shaping state and packet marks. -/
def compilePlan (plan : BuiltPlan) : Except String BuiltPlan := do
  let compiled ← compileShapingPlan ctx.digest16 ctx.gatewayId topology previousShape
    plan.clientRates plan.applicationRates plan.clientAddresses
  match compiled with
  | none => .ok plan
  | some (state, marks) => .ok { plan with shapingState := some state, markRules := marks }

def limitFailure (fallback error : String) : PolicyAck :=
  failureAck ctx snapshot (limitsUnsupported topology.capabilities) (errorCode fallback error)
    (error ++ "; the previous policy snapshot remains active")

def preflight (plan : BuiltPlan) : Prog W PolicyAck BuiltPlan :=
  if hasShapingRates plan then do
    let inspected ← Prog.call (host.inspectMarkConflicts topology previousShape)
    Prog.ofExcept ((do
      inspected
      compilePlan ctx topology previousShape plan).mapError
        (limitFailure ctx snapshot topology "unsupported_mark_conflict"))
  else pure plan

/-- The classes to install, those to save, and whether the kernel state was prepared for them. -/
structure PreparedShape where
  desired : ShapingState
  saved : Option ShapingState
  prepared : Bool

/-- Without rates to enforce, a failure leaves the previous classes in place. Such a plan has no
classes of its own, so there are previous ones, and the failure is final. -/
def prepareShape (plan : BuiltPlan) : Prog W PolicyAck PreparedShape :=
  let desired := plan.shapingState.getD .empty
  if plan.shapingState.isSome || previousShape.isSome then do
    let prepared ← Prog.call (host.prepareShaping desired previousShape)
    match prepared with
    | .ok prepared => pure ⟨prepared, if prepared.isEmpty then none else some prepared, true⟩
    | .error error =>
      if hasShapingRates plan then
        Prog.early (limitFailure ctx snapshot topology "unsupported_existing_qdisc" error)
      else
        Prog.early (failureAck ctx snapshot topology.capabilities
          (errorCode "manual_cleanup_required" error) error)
  else pure ⟨desired, plan.shapingState, false⟩

def nftPlan : NftPlan :=
  ⟨plan.blockedV4.keys, plan.blockedV6.keys, plan.markRules⟩

def sameConfiguration (saved : Option ShapingState) (previous : PolicyState) : Bool :=
  previous.checksum == snapshot.checksum
    && previous.topologyFingerprint == ctx.topologyFingerprint topology
    && previous.blockedClientsV4 == (nftPlan plan).blockedV4
    && previous.blockedClientsV6 == (nftPlan plan).blockedV6
    && previous.shapingMarks == (nftPlan plan).markRules && previous.shapingState == saved

variable (old : Option PolicyState)

/-- Announce a change of the classes; the flag says whether a journal was written. -/
def writeJournal (shape : PreparedShape) : Prog W PolicyAck Bool := do
  let previousShape := old.bind (·.shapingState)
  if shape.prepared && previousShape != shape.saved then
    let written ← Prog.call (host.writeShapingJournal previousShape shape.saved)
    Prog.ofExcept (written.mapError
      (failureAck ctx snapshot topology.capabilities "state_prepare_failed"))
    pure true
  else pure false

def dropJournal (journal : Bool) : Prog W PolicyAck Unit := do
  if journal then
    let _ ← Prog.call host.clearShapingJournal

/-- Whether the rules of this configuration are in place already. -/
def nftInPlace (plan : BuiltPlan) (saved : Option ShapingState) :
    Prog W PolicyAck (Except String Bool) :=
  if old.any (sameConfiguration ctx snapshot topology plan saved) then Prog.call host.isInstalled
  else pure (.ok false)

def installNft (plan : BuiltPlan) (saved : Option ShapingState)
    (journal : Bool) : Prog W PolicyAck Unit := do
  let failure := failureAck ctx snapshot topology.capabilities
  if !plan.hasSupportedPolicy then
    match ← Prog.call host.clearOwned with
    | .ok _ => pure ()
    | .error error =>
      dropJournal host journal
      Prog.early (failure "nft_apply_failed" error)
  else
    match ← nftInPlace host ctx snapshot topology old plan saved with
    | .ok true => pure ()
    | .ok false =>
      match ← Prog.call (host.replace topology (nftPlan plan)) with
      | .ok _ => pure ()
      | .error error =>
        let rollback ← Prog.call (rollbackRuntime host topology old none false)
        dropJournal host journal
        Prog.early (failure "nft_apply_failed" (rollbackMessage error rollback))
    | .error error =>
      dropJournal host journal
      Prog.early (failure "nft_inspection_failed" error)

def installShape (shape : PreparedShape) (journal : Bool) : Prog W PolicyAck Unit := do
  let previousShape := old.bind (·.shapingState)
  if shape.prepared && previousShape != shape.saved then
    match ← Prog.call (host.applyShaping shape.desired previousShape) with
    | .ok _ => pure ()
    | .error error =>
      undo host ctx snapshot topology old shape.desired true journal "tc_apply_failed" error

/-- The state to save. Its snapshot has been validated before. -/
def fromSnapshot (saved : Option ShapingState) : PolicyState :=
  { gatewayId := snapshot.gatewayId
    controllerEpoch := snapshot.controllerEpoch
    configRevision := snapshot.configRevision
    bundleGeneration := snapshot.bundleGeneration
    checksum := snapshot.checksum
    topologyFingerprint := ctx.topologyFingerprint topology
    snapshot
    blockedClientsV4 := plan.blockedV4.keys
    blockedClientsV6 := plan.blockedV6.keys
    shapingState := saved
    shapingMarks := plan.markRules }

def saveState (plan : BuiltPlan) (shape : PreparedShape)
    (journal : Bool) : Prog W PolicyAck Unit := do
  let changed := shape.prepared && old.bind (·.shapingState) != shape.saved
  let undo := undo host ctx snapshot topology old shape.desired changed journal
  match validateSnapshot ctx.codec snapshot with
  | .error error => undo "state_prepare_failed" error
  | .ok _ =>
    let state := fromSnapshot ctx snapshot topology plan shape.saved
    if old != some state then
      match ← Prog.call (host.persist state) with
      | .ok _ => pure ()
      | .error error => undo "state_persist_failed" error

/-- The plan of a snapshot at the present time. -/
def snapshotPlan : BuiltPlan :=
  buildPlan snapshot.policies snapshot.scheduleIntervals snapshot.validUntilMs ctx.now topology

def processSnapshotWith : Prog W PolicyAck PolicyAck := do
  let disabled ← Prog.read host.disabled
  Prog.ofExcept (screen ctx snapshot topology disabled)
  let old ← loadPrevious host ctx snapshot topology
  Prog.ofExcept (checkTopology ctx snapshot topology)
  let previousShape := old.bind (·.shapingState)
  let plan ← preflight host ctx snapshot topology previousShape
    (snapshotPlan ctx snapshot topology)
  let shape ← prepareShape host ctx snapshot topology previousShape plan
  let journal ← writeJournal host ctx snapshot topology old shape
  installNft host ctx snapshot topology old plan shape.saved journal
  installShape host ctx snapshot topology old shape journal
  saveState host ctx snapshot topology old plan shape journal
  dropJournal host journal
  pure (policyAck ctx snapshot topology.capabilities plan.ackStatus plan.results)

end Netqmon.Agent.Executor.Process
