import Netqmon.Agent.Executor.ShapingPlan
import Netqmon.Protocol.Validate

/-! # Building a plan

`buildPlan` decides for every policy of a snapshot what becomes of it on the present topology: the
addresses to block, the rates to enforce and the result to report. Policies that take effect now
(`classify` makes them candidates) are worked through in the order of their priority. The source
remembers resolved clients while it works; since `resolve` has no effects, the model asks again. -/

namespace Netqmon.Agent.Executor.Plan

open Agent.Flow SavedState Executor.Topology Shaper
open Lib.Ordered Lib.RustStr Protocol.Policy Protocol.Validate

/-! ### Kinds of policies -/

variable (policy : PolicySnapshotEntry)

def isLimit : Bool := policy.spec.action.kind == .limit

def isClientPolicyShape : Bool :=
  !policy.spec.selectors.clients.isEmpty && policy.spec.selectors.applications.isEmpty
    && policy.spec.selectors.categories.isEmpty && policy.spec.network.scope == "internet"
    && policy.spec.network.direction == "both"

def isSupportedClientPolicy : Bool :=
  policy.spec.enabled && isClientPolicyShape policy

def isApplicationPolicy : Bool := policy.spec.selectsApplications

def unsupportedReason (topology : PolicyTopology) : String × String :=
  if isApplicationPolicy policy && policy.spec.selectors.clients.isEmpty then
    ("application_client_selector_required",
      "application block, allow, and limit policies require at least one client selector")
  else if isApplicationPolicy policy && isLimit policy then
    ("unsupported_application_shaping",
      "aggregate application shaping requires verified child classes and egress marks")
  else if isApplicationPolicy policy && topology.capabilities.applicationBlock == .unsupported then
    (topology.reasonCode.getD "unsupported_bpf_verifier",
      topology.reason.getD
        "exact application flow verdicts require a verified BPF writer and TC hooks")
  else if isLimit policy then
    (topology.clientLimitReasonCode.getD "unsupported_kernel_feature",
      topology.clientLimitReason.getD
        "client aggregate shaping is unavailable on this topology")
  else
    ("unsupported_policy_shape",
      "policy does not match the supported client Internet block/allow/limit shape")

/-! ### Results -/

/-- Control characters become spaces; the text ends before it exceeds 512 bytes. -/
def sanitizeChars : ℕ → List Char → List Char
  | _, [] => []
  | length, c :: rest =>
    let c := if isControl c then ' ' else c
    if 512 < length + c.utf8Size then [] else c :: sanitizeChars (length + c.utf8Size) rest

def sanitizeResultMessage (message : String) : String :=
  trim (String.ofList (sanitizeChars 0 message.toList))

def result (policyId : String) (status : PolicyResultStatus) (reasonCode message : Option String) :
    PolicyResult :=
  { policyId
    status
    reasonCode := reasonCode.filter (validText 128)
    message := message.map sanitizeResultMessage
    details := none }

def isEffective (result : PolicyResult) : Bool :=
  result.status == .applied || result.status == .degraded

/-! ### Classification -/

section

variable (topology : PolicyTopology) (intervals : List PolicyScheduleIntervals) (validUntilMs : ℤ)
  (now : Option ℤ)

variable (policy : PolicySnapshotEntry)

def unsupportedResult : PolicyResult :=
  let reason := unsupportedReason policy topology
  result policy.id .unsupported (some reason.1) (some reason.2)

def classifyApplication : PolicyResult × Bool :=
  if isApplicationPolicy policy && isLimit policy && !policy.spec.selectors.clients.isEmpty
      && policy.spec.network.scope == "internet" && policy.spec.network.direction == "both"
      && topology.capabilities.applicationLimit != .unsupported then
    (result policy.id .applied none none, true)
  else if isApplicationPolicy policy && !isLimit policy
      && topology.capabilities.applicationBlock != .unsupported then
    (result policy.id .applied none none, false)
  else (unsupportedResult topology policy, false)

/-- The first result of a policy, and whether it is a candidate for enforcement. -/
def classify : PolicyResult × Bool :=
  if !policy.spec.enabled then (result policy.id .disabled none none, false)
  else if !isClientPolicyShape policy then classifyApplication topology policy
  else if isLimit policy && topology.capabilities.clientLimit == .unsupported then
    (unsupportedResult topology policy, false)
  else if policy.spec.schedule.isSome && intervals.all (·.policyId != policy.id) then
    (result policy.id .failed (some "schedule_window_missing")
      (some "scheduled policy has no compiled UTC intervals"), false)
  else
    match evaluate policy intervals now validUntilMs with
    | .expired =>
      (result policy.id .failed (some "schedule_expired")
        (some "the Collector schedule window has expired"), false)
    | .clockInvalid =>
      (result policy.id .failed (some "clock_invalid")
        (some "system time is not a plausible Unix epoch"), false)
    | .inactive => (result policy.id .applied none none, false)
    | .active => (result policy.id .applied none none, true)

def candidateRank : ℕ ×ₗ String :=
  toLex (policy.spec.priority, policy.id)

variable (policies : List PolicySnapshotEntry)

/-- The candidates in the order in which they are worked through. -/
def candidates : List PolicySnapshotEntry :=
  (policies.filter fun policy => (classify topology intervals validUntilMs now policy).2).insertionSort
    fun a b => candidateRank a ≤ candidateRank b

def initialResults : OrderedMap String PolicyResult :=
  policies.foldl (fun results policy =>
    results.insert policy.id (classify topology intervals validUntilMs now policy).1) .empty

end

/-! ### The candidates' clients -/

structure PlanState where
  results : OrderedMap String PolicyResult
  blockedV4 : OrderedSet IpAddr
  blockedV6 : OrderedSet IpAddr
  clientRates : ClientRateMap
  applicationRates : ApplicationRateMap
  clientAddresses : List (String × IpAddr)
  policyClients : OrderedMap String (OrderedSet String)
  decidedClientRules : OrderedSet String

variable (topology : PolicyTopology)

/-- An address of a blocked client goes to the set of its family. -/
def blockAddress (state : PlanState) (address : IpAddr) : PlanState :=
  if !isUnicastGlobal address then state
  else
    match address with
    | .v4 _ => { state with blockedV4 := state.blockedV4.add address }
    | .v6 _ =>
      if topology.ipv6Coverage then { state with blockedV6 := state.blockedV6.add address }
      else state

variable (mac : String)

def addClientRate (rates : ClientRateMap) : ClientRateMap :=
  if isLimit policy && !isApplicationPolicy policy then
    rates.upsert mac fun current =>
      (current.getD .default).addLimit policy.spec.action.uploadBps policy.spec.action.downloadBps
  else rates

def addApplicationRate (rates : ApplicationRateMap) : ApplicationRateMap :=
  if isLimit policy && isApplicationPolicy policy then
    rates.upsert (toLex (policy.id, mac)) fun current =>
      (current.getD .default).addLimit policy.spec.action.uploadBps policy.spec.action.downloadBps
  else rates

/-- The first block or allow policy that names a client decides about it. -/
def applyClient (policy : PolicySnapshotEntry) (mac : String)
    (addresses : List IpAddr) (state : PlanState) : PlanState :=
  let undecided := !state.decidedClientRules.contains mac
  let state :=
    { state with
      decidedClientRules :=
        if isLimit policy then state.decidedClientRules else state.decidedClientRules.add mac
      policyClients := state.policyClients.upsert policy.id fun clients =>
        (clients.getD .empty).add mac
      clientAddresses := state.clientAddresses ++ addresses.map (mac, ·)
      clientRates := addClientRate policy mac state.clientRates
      applicationRates := addApplicationRate policy mac state.applicationRates }
  if policy.spec.action.kind = .block ∧ undecided then
    addresses.foldl (blockAddress topology) state
  else state

def identityMessage (error : IdentityError) (mac : String) : String :=
  match error with
  | .unresolved => "no current LAN neighbor address was found for " ++ mac
  | .conflict => "current LAN neighbor data maps an address to multiple MACs for " ++ mac

/-- The result of a policy after one of its clients was not found. -/
def identityFailure (error : IdentityError) (current : PolicyResult) : PolicyResult :=
  { current with
    status := if isLimit policy then .degraded else .failed
    reasonCode := some (if isLimit policy then "identity_partial" else error.reasonCode)
    message := some (identityMessage error mac) }

def identityPartial (current : PolicyResult) : PolicyResult :=
  { current with
    status := .degraded
    reasonCode := some "identity_partial"
    message := some ("some selected clients have no unambiguous current LAN identity; "
      ++ "known clients remain shaped") }

variable (identities : ClientAddresses)

/-- Work through one client of a candidate; the flags say whether any of its clients was found and
whether any was not. -/
def planClient (policy : PolicySnapshotEntry) (acc : PlanState × Bool × Bool) (mac : String) :
    PlanState × Bool × Bool :=
  let normalized := toAsciiLowercase mac
  match identities.resolve normalized with
  | .ok addresses => (applyClient topology policy normalized addresses acc.1, true, acc.2.2)
  | .error error =>
    ({ acc.1 with
        results := acc.1.results.upsert policy.id fun current =>
          identityFailure policy normalized error
            (current.getD (result policy.id .failed none none)) },
      acc.2.1, true)

def planPolicy (state : PlanState) (policy : PolicySnapshotEntry) : PlanState :=
  let planned := policy.spec.selectors.clients.foldl (planClient topology identities policy)
    (state, false, false)
  if isLimit policy && planned.2.2 && planned.2.1 then
    { planned.1 with results := planned.1.results.adjust policy.id identityPartial }
  else planned.1

/-! ### Reporting -/

def degradeLimit (entry : PolicyResult) : PolicyResult :=
  if entry.status = .applied ∧ topology.capabilities.clientLimit = .degraded then
    { entry with
      status := .degraded
      reasonCode := topology.clientLimitReasonCode.or (some "ipv6_unavailable")
      message := topology.clientLimitReason.or
        (some "rate limiting has partial address-family coverage") }
  else entry

def degradesBlock (policy : PolicySnapshotEntry) : Bool :=
  !isLimit policy &&
    ((isSupportedClientPolicy policy && topology.capabilities.clientBlock == .degraded)
      || (isApplicationPolicy policy && topology.capabilities.applicationBlock == .degraded))

def degradeBlock (entry : PolicyResult) : PolicyResult :=
  if entry.status = .applied then
    { entry with
      status := .degraded
      reasonCode := topology.reasonCode
      message := topology.reason }
  else entry

/-- Take the result of each policy out of the map, in the order of the policies. -/
def takeResults : List PolicySnapshotEntry → OrderedMap String PolicyResult → List PolicyResult
  | [], _ => []
  | policy :: rest, results =>
    match results.lookup policy.id with
    | none => takeResults rest results
    | some entry => entry :: takeResults rest (results.erase policy.id)

/-- Change the first result with the given id. -/
def updateResult (id : String) (f : PolicyResult → PolicyResult) :
    List PolicyResult → List PolicyResult
  | [] => []
  | entry :: rest =>
    if entry.policyId == id then f entry :: rest else entry :: updateResult id f rest

def clientRateOf (clientRates : ClientRateMap)
    (applicationRates : ApplicationRateMap) (policy : PolicySnapshotEntry) (mac : String) :
    Option PolicyClientRate :=
  if isApplicationPolicy policy then do
    let rates ← applicationRates.lookup (toLex (policy.id, mac))
    let parent := clientRates.lookup mac
    return {
      mac
      effectiveUploadBps := rates.uploadBps.map fun rate =>
        min rate ((parent.bind (·.uploadBps)).getD (topology.wanCapacityBps.getD rate))
      effectiveDownloadBps := rates.downloadBps.map fun rate =>
        min rate ((parent.bind (·.downloadBps)).getD (topology.lanCapacityBps.getD rate)) }
  else do
    let rates ← clientRates.lookup mac
    return ⟨mac, rates.uploadBps, rates.downloadBps⟩

def controlledInterfaces (clients : List PolicyClientRate) : OrderedSet String :=
  let upload := if clients.any (·.effectiveUploadBps.isSome) then topology.shapingWan else none
  let download :=
    if clients.any (·.effectiveDownloadBps.isSome) then topology.lanInterfaces.head? else none
  OrderedMap.ofList ((upload.toList ++ download.toList).map (·, ()))

def limitDetails (state : PlanState) (policy : PolicySnapshotEntry) : PolicyResultDetails :=
  let selected := ((state.policyClients.lookup policy.id).getD .empty).keys
  let clients := selected.filterMap
    (clientRateOf topology state.clientRates state.applicationRates policy)
  { clients
    controlledInterfaces := (controlledInterfaces topology clients).keys
    qdisc := if selected.isEmpty then none else some "HTB + fq_codel"
    markConflictCode := none }

def ackStatus (anyBlocked : Bool) (results : List PolicyResult) : PolicyAckStatus :=
  let anyApplied := anyBlocked || results.any isEffective
  let anyFailed := results.any (·.status == .failed)
  if results.any (·.status == .unsupported) then
    if anyApplied || anyFailed then .partially else .unsupported
  else if anyFailed then if anyApplied then .partially else .failed
  else if results.any (·.status == .degraded) then .partially
  else .applied

structure BuiltPlan where
  blockedV4 : OrderedSet IpAddr
  blockedV6 : OrderedSet IpAddr
  results : List PolicyResult
  ackStatus : PolicyAckStatus
  hasSupportedPolicy : Bool
  clientRates : ClientRateMap
  applicationRates : ApplicationRateMap
  clientAddresses : List (String × IpAddr)
  markRules : List MarkRule
  shapingState : Option ShapingState

def addressPairRank (e : String × IpAddr) : String ×ₗ IpAddr := toLex e

/-- Set the details of every limit policy, after the effects of degraded capabilities. -/
def reportResults (policies : List PolicySnapshotEntry) (state : PlanState) : List PolicyResult :=
  let results := (policies.filter isLimit).foldl (fun results policy =>
    results.adjust policy.id (degradeLimit topology)) state.results
  let taken := takeResults policies results
  let degraded := (policies.filter (degradesBlock topology)).foldl (fun results policy =>
    updateResult policy.id (degradeBlock topology) results) taken
  (policies.filter isLimit).foldl (fun results policy =>
    updateResult policy.id (fun entry =>
      { entry with details := some (limitDetails topology state policy) }) results) degraded

variable (policies : List PolicySnapshotEntry) (intervals : List PolicyScheduleIntervals)

def planState (validUntilMs : ℤ) (now : Option ℤ) (topology : PolicyTopology) : PlanState :=
  (candidates topology intervals validUntilMs now policies).foldl
    (planPolicy topology (ClientAddresses.fromNeighbors topology.neighborBindings))
    { results := initialResults topology intervals validUntilMs now policies
      blockedV4 := .empty
      blockedV6 := .empty
      clientRates := .empty
      applicationRates := .empty
      clientAddresses := []
      policyClients := .empty
      decidedClientRules := .empty }

def buildPlan (validUntilMs : ℤ) (now : Option ℤ) (topology : PolicyTopology) : BuiltPlan :=
  let state := planState policies intervals validUntilMs now topology
  let results := reportResults topology policies state
  { blockedV4 := state.blockedV4
    blockedV6 := state.blockedV6
    results
    ackStatus := ackStatus (!state.blockedV4.isEmpty || !state.blockedV6.isEmpty) results
    hasSupportedPolicy := results.any isEffective
    clientRates := state.clientRates
    applicationRates := state.applicationRates
    clientAddresses := (state.clientAddresses.insertionSort
      fun a b => addressPairRank a ≤ addressPairRank b).destutter (· ≠ ·)
    markRules := []
    shapingState := none }

end Netqmon.Agent.Executor.Plan
