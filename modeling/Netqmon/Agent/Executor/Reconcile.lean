import Netqmon.Agent.Executor.Process

/-! # Saved snapshots

`reconcileSaved` is what the agent does on every tick: it processes the saved snapshot again unless
the saved state is still what its plan asks for. `restoreLocal` processes it when the agent starts.
The clock and the topology are read anew for every plan, so each comes as a parameter of its own. -/

namespace Netqmon.Agent.Executor.Reconcile

open SavedState Executor.Topology Plan Process Protocol.Policy

variable {W : Type} (host : Host W) (ctx : Context) (topology : PolicyTopology)

variable (saved : PolicyState)

/-- The plan of a saved snapshot, with classes that follow the saved ones. -/
def savedPlan : Except String BuiltPlan :=
  let plan := snapshotPlan ctx saved.snapshot topology
  if hasShapingRates plan then compilePlan ctx topology saved.shapingState plan else .ok plan

def isUpToDate (plan : BuiltPlan) : Bool :=
  saved.topologyFingerprint == ctx.topologyFingerprint topology
    && saved.blockedClientsV4 == (nftPlan plan).blockedV4
    && saved.blockedClientsV6 == (nftPlan plan).blockedV6
    && saved.shapingMarks == plan.markRules && saved.shapingState == plan.shapingState

/-- The acknowledgement of a saved state that needs no work. -/
def currentAck : Option PolicyAck :=
  if topology.supported || !saved.snapshot.policies.any isSupportedClientPolicy then
    match savedPlan ctx topology saved with
    | .error _ => none
    | .ok plan =>
      if isUpToDate ctx topology saved plan then
        some (policyAck ctx saved.snapshot topology.capabilities plan.ackStatus plan.results)
      else none
  else none

/-- One tick. The first clock and topology are those of the comparison. -/
def reconcileSaved (inspected : Context × PolicyTopology) (w : W) : Option PolicyAck × W :=
  match host.load w with
  | .ok (some saved) =>
    if host.disabled w then (none, w)
    else
      match currentAck inspected.1 inspected.2 saved with
      | some ack => (some ack, w)
      | none =>
        let processed := (processSnapshotWith host ctx saved.snapshot topology).result w
        (some processed.1, processed.2)
  | _ => (none, w)

def isAccepted (status : PolicyAckStatus) : Bool := status == .applied || status == .partially

def restoreLocal (w : W) : Option (String × PolicySnapshot) × W :=
  if host.disabled w then (none, w)
  else
    match host.load w with
    | .ok (some saved) =>
      let processed := (processSnapshotWith host ctx saved.snapshot topology).result w
      (if isAccepted processed.1.status then some (saved.gatewayId, saved.snapshot) else none,
        processed.2)
    | _ => (none, w)

end Netqmon.Agent.Executor.Reconcile
