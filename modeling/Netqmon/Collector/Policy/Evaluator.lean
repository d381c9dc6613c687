import Netqmon.Collector.Policy.Validation

/-! # Evaluation of application policies

`evaluatePreview` says which policies apply to a flow, and `flowCommandDecision` what is done with it.
`flowVerdictExpiry` bounds how long that holds by the schedules of the policies. -/

namespace Netqmon.Collector.Policy.Evaluator

open Lib.CivilTime Lib.RustStr Protocol.Policy Validation

structure PolicyPreviewRequest where
  (gatewayId clientMac applicationId categoryId : String)
  /-- Missing if it is not a finite number. -/
  applicationConfidence : Option ℚ
  scope : String
  atMs : ℤ
deriving DecidableEq

structure PolicyPreviewMatch where
  (policyId name : String)
  action : PolicyActionKind
  priority : ℕ
  selected : Bool
deriving DecidableEq

inductive LimitStatus
  | supported
  | unsupported
deriving DecidableEq

structure PolicyPreviewLimit where
  (policyId name : String)
  (downloadBps uploadBps : Option ℕ)
  status : LimitStatus
  reasonCode : Option String
deriving DecidableEq

inductive BlockVerdict
  | none
  | unsupported
  | block
  | allow
deriving DecidableEq

structure PolicyPreviewResult where
  matchedPolicies : List PolicyPreviewMatch
  selectedBlockVerdict : BlockVerdict
  activeLimits : List PolicyPreviewLimit
  explanation : String
  unsupportedReasons : List String
deriving DecidableEq

/-! ### Matching -/

def parseMinute (value : String) : Option ℕ := do
  let (hours, minutes) ← splitOnce ":" value
  let hours ← parseUnsigned (2 ^ 32) hours
  if 2 ^ 32 ≤ hours * 60 then none
  else
    let minutes ← parseUnsigned (2 ^ 32) minutes
    return (hours * 60 + minutes) % 2 ^ 32

/-- The window is open at a minute of a day of the week. -/
def windowOpen (window : PolicyScheduleWindow) (day minute : ℕ) : Bool :=
  (window.days.any fun other => other.mondayIndex = day)
    && (parseMinute window.start).any (· ≤ minute) && (parseMinute window.stop).any (minute < ·)

variable (zones : Zones)

def scheduleActive (policy : PolicySnapshotEntry) (atMs : ℤ) : Bool :=
  match policy.spec.schedule with
  | none => true
  | some schedule =>
    hasDate atMs && (zones schedule.timezone).any fun zone =>
      schedule.windows.any fun window =>
        windowOpen window (weekday (zone.localDate atMs)) (zone.localMinute atMs)

/-- The application condition of a policy: with both kinds of selectors one of them is enough. -/
def appCondition (selectors : PolicySelectors) (request : PolicyPreviewRequest) : Bool :=
  let applicationMatches := selectors.applications.isEmpty
    || selectors.applications.contains request.applicationId
  let categoryMatches := selectors.categories.isEmpty
    || selectors.categories.contains request.categoryId
  if selectors.applications.isEmpty then categoryMatches
  else if selectors.categories.isEmpty then applicationMatches
  else applicationMatches || categoryMatches

variable (policy : PolicySnapshotEntry)

def selectorsMatch (clientMac : String) (request : PolicyPreviewRequest) : Bool :=
  let selectors := policy.spec.selectors
  let clientMatches := selectors.clients.isEmpty
    || selectors.clients.any fun client => eqIgnoreAsciiCase client clientMac
  clientMatches && appCondition selectors request
    && request.applicationConfidence.any fun confidence =>
      decide (selectors.minApplicationConfidence ≤ confidence)

def specificity : ℕ :=
  (if policy.spec.selectors.clients.isEmpty then 0 else 1)
    + (if policy.spec.selectors.applications.isEmpty then 0 else 2)
    + (if policy.spec.selectors.categories.isEmpty then 0 else 1)

/-- Lower priorities come first, then the more specific policies. -/
def comparePolicies (left right : PolicySnapshotEntry) : Ordering :=
  ((compare left.spec.priority right.spec.priority).then
    (compare (specificity right) (specificity left))).then (compare left.id right.id)

variable (request : PolicyPreviewRequest)

/-- A policy that applies to a flow. -/
def applies (policy : PolicySnapshotEntry) : Bool :=
  policy.spec.gatewayId == request.gatewayId && policy.spec.enabled
    && policy.spec.network.scope == "internet" && policy.spec.network.direction == "both"
    && policy.spec.selectsApplications && scheduleActive zones policy request.atMs
    && selectorsMatch policy (toAsciiUppercase request.clientMac) request

/-- What is wrong with a request, in which case no policy applies. -/
def requestReasons : List String :=
  (if request.scope ≠ "internet" then ["unsupported_scope"] else [])
  ++ if request.applicationId = "unknown" then ["application_id_unknown_fail_open"]
    else if request.applicationConfidence.any fun confidence => 0 ≤ confidence && confidence ≤ 1 then
      []
    else ["invalid_application_confidence"]

variable (policies : List PolicySnapshotEntry)

def matching : List PolicySnapshotEntry :=
  if (requestReasons request).isEmpty then
    (policies.filter (applies zones request)).insertionSort fun left right =>
      comparePolicies left right ≠ .gt
  else []

theorem mem_matching {zones : Zones} {request : PolicyPreviewRequest}
    {policies : List PolicySnapshotEntry} {policy : PolicySnapshotEntry}
    (h : policy ∈ matching zones request policies) :
    policy ∈ policies.filter (applies zones request) := by
  unfold matching at h
  split_ifs at h
  · exact (List.perm_insertionSort _ _).mem_iff.1 h
  · cases h

/-! ### Verdicts and limits -/

def givesVerdict : Bool :=
  policy.spec.action.kind == .block || policy.spec.action.kind == .allow

/-- The verdict of a policy, and why it has none. -/
def verdictOf (applicationBlockSupported : Bool) (policy : PolicySnapshotEntry) :
    BlockVerdict × List String :=
  if policy.spec.selectors.clients.isEmpty then
    (.unsupported, ["application_client_selector_required"])
  else if !applicationBlockSupported then (.unsupported, ["unsupported_application_block"])
  else
    match policy.spec.action.kind with
    | .block => (.block, [])
    | .allow => (.allow, [])
    | .limit => (.unsupported, ["unsupported_application_block"])

variable (applicationLimitSupported : Bool)

def limitReason (policy : PolicySnapshotEntry) : Option String :=
  if policy.spec.selectors.clients.isEmpty then some "application_client_selector_required"
  else if !applicationLimitSupported then some "unsupported_application_shaping"
  else none

def limitOf (policy : PolicySnapshotEntry) : PolicyPreviewLimit :=
  let reasonCode := limitReason applicationLimitSupported policy
  { policyId := policy.id
    name := policy.spec.name
    downloadBps := policy.spec.action.downloadBps
    uploadBps := policy.spec.action.uploadBps
    status := if reasonCode.isNone then .supported else .unsupported
    reasonCode }

def explain (verdict : BlockVerdict) : String :=
  if request.scope ≠ "internet" then "Application policies only apply to internet flows."
  else if request.applicationId = "unknown" then
    "The application is unknown, so application policies fail open."
  else if policies.isEmpty then
    "No enabled application policy matches this client, application, confidence, and time window."
  else
    match verdict with
    | .unsupported =>
      "A policy matches, but this gateway has no verified application-flow enforcement capability."
    | .block => "The selected application policy blocks this identified flow after classification."
    | .allow => "The selected application allow rule clears an application-layer block; " ++
        "client blocks and limits still apply."
    | .none => "An application policy matches; its action does not select a block or allow verdict."

def evaluatePreview
    (applicationBlockSupported applicationLimitSupported : Bool) : PolicyPreviewResult :=
  let candidates := matching zones request policies
  let winning := candidates.find? givesVerdict
  let verdict := winning.elim (BlockVerdict.none, []) (verdictOf applicationBlockSupported)
  let limits := candidates.filter (·.spec.action.kind == .limit)
  { matchedPolicies := candidates.map fun policy =>
      { policyId := policy.id
        name := policy.spec.name
        action := policy.spec.action.kind
        priority := policy.spec.priority
        selected := winning.any (·.id == policy.id) }
    selectedBlockVerdict := verdict.1
    activeLimits := limits.map (limitOf applicationLimitSupported)
    explanation := explain request candidates verdict.1
    unsupportedReasons := (sorted (requestReasons request ++ verdict.2
      ++ limits.filterMap (limitReason applicationLimitSupported))).dedup }

/-! ### Commands -/

/-- A block stands alone; limits go before an allow. -/
def flowCommandDecision (evaluation : PolicyPreviewResult) : Option FlowVerdict × List String :=
  let selected := ((evaluation.matchedPolicies.find? (·.selected)).map (·.policyId)).toList
  let limits := (evaluation.activeLimits.filter (·.status == .supported)).map (·.policyId)
  match evaluation.selectedBlockVerdict with
  | .block => (some .block, selected)
  | .allow => if limits.isEmpty then (some .allow, selected) else (some .shape, limits)
  | .none | .unsupported => if limits.isEmpty then (none, []) else (some .shape, limits)

variable (snapshot : PolicySnapshot)

/-- The end of the schedule interval of a policy that is open. -/
def activeEnd (nowMs : ℤ) (policyId : String) : Option ℤ := do
  let intervals ← snapshot.scheduleIntervals.find? (·.policyId == policyId)
  let interval ← intervals.intervals.find? fun interval =>
    interval.startMs ≤ nowMs && nowMs < interval.endMs
  return interval.endMs

/-- The bound of one policy on the expiry. -/
def boundExpiry (nowMs : ℤ) (expiry : ℤ) (policyId : String) : Option ℤ := do
  let policy ← snapshot.policies.find? (·.id == policyId)
  if !policy.spec.enabled then none
  else if policy.spec.schedule.isSome then (activeEnd snapshot nowMs policyId).map (min expiry)
  else some expiry

def saturatingAdd (a b : ℤ) : ℤ := max (-2 ^ 63) (min (a + b) (2 ^ 63 - 1))

def flowVerdictExpiry (policyIds : List String) (nowMs ttlMs : ℤ) : Option ℤ :=
  if policyIds.isEmpty || nowMs < 0 || snapshot.validUntilMs ≤ nowMs || ttlMs ≤ 0 then none
  else do
    let expiry ← policyIds.foldlM (boundExpiry snapshot nowMs)
      (min (saturatingAdd nowMs ttlMs) snapshot.validUntilMs)
    if nowMs < expiry then some expiry else none

end Netqmon.Collector.Policy.Evaluator
