import Mathlib
import Netqmon.Lib.CivilTime
import Netqmon.Protocol.Validate

/-! # Validation of policies

Before the collector stores a policy it brings it into a normal form and collects everything that is
wrong with it (`normalizeAndValidate`). Lengths are counted in characters here. The handlers call it
twice, the second time with the names that occur in the collector's data (`validateSpec`). -/

namespace Netqmon.Collector.Policy.Validation

open Lib.CivilTime Lib.RustStr Protocol.Policy
open Protocol.Validate (minConfidence)

/-- The zones of the time zone database. -/
abbrev Zones := String → Option TimeZone

structure ValidationIssue where
  (path code message : String)
deriving DecidableEq

/-- The names that the collector knows. -/
structure KnownSelectors where
  gatewayExists : Bool
  (clients applications categories : List String)

def issueIf (wrong : Bool) (path code message : String) : List ValidationIssue :=
  if wrong then [⟨path, code, message⟩] else []

/-- The path of an element of a list. -/
def element (path : String) (index : ℕ) : String := path ++ "[" ++ toString index ++ "]"

/-! ### Identity -/

variable (known : Option KnownSelectors)

def validateIdentity (spec : PolicySpecV1) : PolicySpecV1 × List ValidationIssue :=
  let gatewayId := trim spec.gatewayId
  let name := trim spec.name
  let description := trim spec.description
  ({ spec with gatewayId := gatewayId, name := name, description := description },
    issueIf (spec.schemaVersion ≠ 1) "schema_version" "invalid_spec" "schema_version must be 1"
    ++ issueIf (gatewayId.toList.isEmpty || 128 < gatewayId.toList.length) "gateway_id"
      "invalid_spec" "gateway_id must contain 1–128 characters"
    ++ issueIf (known.any fun selectors => !selectors.gatewayExists) "gateway_id" "not_found"
      "gateway is not registered with this Collector"
    ++ issueIf (name.toList.length < 1 || 100 < name.toList.length) "name" "invalid_spec"
      "name must contain 1–100 Unicode characters after trimming"
    ++ issueIf (500 < description.toList.length) "description" "invalid_spec"
      "description must not exceed 500 Unicode characters"
    ++ issueIf (1000 < spec.priority) "priority" "invalid_spec"
      "priority must be between 0 and 1000")

/-! ### Selectors -/

variable (value : String)

/-- Six pairs of hexadecimal digits, in capitals. -/
def normalizeMac : Option String :=
  let parts := (trim value).toList.splitOn ':'
  if parts.length ≠ 6 || parts.any fun part => part.length ≠ 2 || !part.all isAsciiHexdigit then
    none
  else some (toAsciiUppercase (String.ofList ([':'].intercalate parts)))

/-- The clients in normal form, each once, and what is wrong with the others. -/
def canonicalClients : ℕ → List String → List String → List String × List ValidationIssue
  | _, canonical, [] => (canonical, [])
  | index, canonical, client :: clients =>
    match normalizeMac client with
    | some mac =>
      canonicalClients (index + 1) (if mac ∈ canonical then canonical else canonical ++ [mac])
        clients
    | none =>
      let rest := canonicalClients (index + 1) canonical clients
      (rest.1, ⟨element "selectors.clients" index, "unsupported_selector",
        "client selector must be a six-octet colon-separated MAC address"⟩ :: rest.2)

def sorted (values : List String) : List String := values.insertionSort (· ≤ ·)

def validateClients (gatewayId : String) (clients : List String) :
    List String × List ValidationIssue :=
  let canonical := canonicalClients 0 [] clients
  let values := sorted canonical.1
  (values,
    canonical.2
    ++ issueIf (32 < values.length) "selectors.clients" "invalid_spec"
      "at most 32 clients are allowed"
    ++ known.toList.flatMap fun selectors =>
      (values.filter fun client => !selectors.clients.contains client).map fun client =>
        ⟨"selectors.clients", "unsupported_selector",
          "client " ++ client ++ " is not registered on gateway " ++ gatewayId⟩)

/-- An identifier that is not usable, counted in characters. -/
def isBadId : Bool :=
  value.toList.isEmpty || 128 < value.toList.length || hasControl value

def checkIds (path : String) (known : Option (List String)) :
    ℕ → List String → List String → List ValidationIssue
  | _, _, [] => []
  | index, seen, value :: values =>
    (if isBadId value then
        [⟨element path index, "unsupported_selector",
          "selector ID must be non-empty and at most 128 characters"⟩]
      else
        issueIf (value ∈ seen) (element path index) "invalid_spec"
          "duplicate selector IDs are not allowed")
    ++ issueIf (known.any fun names => !names.contains value) (element path index)
      "unsupported_selector"
      ("selector ID " ++ value ++ " is not available in existing metadata")
    ++ checkIds path known (index + 1) (if isBadId value then seen else value :: seen) values

def validateIds (max : ℕ) (path : String) (known : Option (List String)) (values : List String) :
    List String × List ValidationIssue :=
  let trimmed := values.map trim
  (sorted trimmed,
    issueIf (max < values.length) path "invalid_spec"
      ("at most " ++ toString max ++ " selectors are allowed")
    ++ checkIds path known 0 [] trimmed)

def validateSelectors (spec : PolicySpecV1) : PolicySpecV1 × List ValidationIssue :=
  let clients := validateClients known spec.gatewayId spec.selectors.clients
  let applications := validateIds 32 "selectors.applications" (known.map (·.applications))
    spec.selectors.applications
  let categories := validateIds 16 "selectors.categories" (known.map (·.categories))
    spec.selectors.categories
  let confidence := spec.selectors.minApplicationConfidence
  ({ spec with selectors := ⟨clients.1, applications.1, categories.1, confidence⟩ },
    clients.2 ++ applications.2 ++ categories.2
    ++ issueIf (!(decide (minConfidence ≤ confidence) && decide (confidence ≤ 1)))
      "selectors.min_application_confidence" "invalid_spec"
      "min_application_confidence must be a finite number from 0.80 through 1.00"
    ++ issueIf (clients.1.isEmpty && applications.1.isEmpty && categories.1.isEmpty) "selectors"
      "invalid_spec" "at least one client, application, or category selector is required")

/-! ### Network and action -/

variable (spec : PolicySpecV1)

def validateNetwork : List ValidationIssue :=
  issueIf (spec.network.scope ≠ "internet" && !isClientTotalSpec spec) "network.scope"
    "unsupported_scope"
    "use internet scope, or agent scope for client-only aggregate limits in both directions"
  ++ issueIf (spec.network.direction ≠ "both") "network.direction" "unsupported_selector"
    "V1 supports only both directions"

def validateRate (value : Option ℕ) (path : String) : List ValidationIssue :=
  issueIf (value.any fun rate => !(64000 ≤ rate && rate ≤ 1000000000)) path "invalid_spec"
    "rate must be null or an integer from 64000 through 1000000000 bps"

def validateAction : List ValidationIssue :=
  let applicationPolicy := spec.selectsApplications
  issueIf (applicationPolicy && spec.selectors.clients.isEmpty) "selectors.clients"
    "unsupported_selector"
    "application block, allow, and limit policies require at least one client selector"
  ++ match spec.action.kind with
    | .limit =>
      issueIf (spec.selectors.clients.isEmpty && !applicationPolicy) "selectors.clients"
        "unsupported_selector" "client limits require at least one client selector"
      ++ validateRate spec.action.downloadBps "action.download_bps"
      ++ validateRate spec.action.uploadBps "action.upload_bps"
      ++ issueIf (spec.action.downloadBps.isNone && spec.action.uploadBps.isNone) "action"
        "invalid_spec" "limit requires at least one download or upload rate"
    | .block | .allow =>
      issueIf (spec.action.downloadBps.isSome || spec.action.uploadBps.isSome) "action"
        "invalid_spec" "block and allow actions cannot include rate limits"

/-! ### Schedule -/

/-- A digit of a time. -/
def digit (c : Char) : ℕ := c.toNat - '0'.toNat

/-- The minute of the day of a time in the form `HH:mm`. -/
def parseTime : Option ℕ :=
  match value.toList with
  | [h, h', ':', m, m'] =>
    if [h, h', m, m'].all isAsciiDigit then
      let hour := digit h * 10 + digit h'
      let minute := digit m * 10 + digit m'
      if hour < 24 && minute < 60 then some (hour * 60 + minute) else none
    else none
  | _ => none

/-- An issue for every day that occurred before. -/
def duplicateDays (path : String) : List PolicyWeekday → List PolicyWeekday → List ValidationIssue
  | _, [] => []
  | seen, day :: days =>
    issueIf (day ∈ seen) path "invalid_spec" "duplicate weekdays are not allowed"
      ++ duplicateDays path (day :: seen) days

def validateWindow (window : PolicyScheduleWindow) (index : ℕ) :
    PolicyScheduleWindow × List ValidationIssue :=
  let path := element "schedule.windows" index
  ({ window with days := window.days.insertionSort (·.mondayIndex ≤ ·.mondayIndex) },
    issueIf (window.days.isEmpty || 7 < window.days.length) (path ++ ".days") "invalid_spec"
      "each window must include one or more days"
    ++ duplicateDays (path ++ ".days") [] window.days
    ++ match parseTime window.start, parseTime window.stop with
      | some start, some stop =>
        issueIf (stop ≤ start) path "invalid_spec"
          "start must be before end; split cross-midnight windows into two windows"
      | _, _ => [⟨path, "invalid_spec", "times must use 24-hour HH:mm format"⟩])

def compareWindows (left right : PolicyScheduleWindow) : Ordering :=
  ((compare (left.days.map (·.mondayIndex)) (right.days.map (·.mondayIndex))).then
    (compare left.start right.start)).then (compare left.stop right.stop)

variable (zones : Zones)

variable (schedule : PolicySchedule)

def validateSchedule : PolicySchedule × List ValidationIssue :=
  let checked := schedule.windows.zipIdx.map fun window => validateWindow window.1 window.2
  ({ schedule with
      windows := (checked.map (·.1)).insertionSort fun left right =>
        compareWindows left right ≠ .gt },
    issueIf (zones schedule.timezone).isNone "schedule.timezone" "invalid_spec"
      "timezone must be a valid IANA timezone"
    ++ issueIf (schedule.windows.isEmpty || 32 < schedule.windows.length) "schedule.windows"
      "invalid_spec" "schedule must contain 1–32 windows"
    ++ checked.flatMap (·.2))

/-! ### The whole policy -/

def normalizeAndValidate (known : Option KnownSelectors) (spec : PolicySpecV1) :
    PolicySpecV1 × List ValidationIssue :=
  let identity := validateIdentity known spec
  let selectors := validateSelectors known identity.1
  let schedule := selectors.1.schedule.map (validateSchedule zones)
  ({ selectors.1 with schedule := schedule.map (·.1) },
    identity.2 ++ selectors.2 ++ validateNetwork selectors.1 ++ validateAction selectors.1
      ++ schedule.toList.flatMap (·.2))

/-- What the handlers do with a policy. The catalogue is not asked about names that are too long for
it; `catalog` is its answer. -/
def validateSpec (catalog : PolicySpecV1 → KnownSelectors) (spec : PolicySpecV1) :
    PolicySpecV1 × List ValidationIssue :=
  let structural := normalizeAndValidate zones none spec
  let selectors := structural.1.selectors
  if 32 < selectors.clients.length || 32 < selectors.applications.length
      || 16 < selectors.categories.length || selectors.clients.any (32 < byteLen ·)
      || selectors.applications.any (128 < byteLen ·)
      || selectors.categories.any (128 < byteLen ·) || structural.1.gatewayId.toList.isEmpty then
    structural
  else normalizeAndValidate zones (some (catalog structural.1)) structural.1

/-! ### Limits that overlap -/

def limitsApplications : Bool :=
  spec.action.kind == .limit && spec.selectsApplications

/-- Some element of the first list is in the second. -/
def meets (left right : List String) : Bool := left.any fun value => right.contains value

/-- Two limits may apply to one flow. Whether an application belongs to a category is not known
here. -/
def applicationLimitsOverlap (left right : PolicySpecV1) : Bool :=
  if left.gatewayId ≠ right.gatewayId || !limitsApplications left || !limitsApplications right then
    false
  else if !meets left.selectors.clients right.selectors.clients then false
  else
    meets left.selectors.applications right.selectors.applications
      || meets left.selectors.categories right.selectors.categories
      || (!left.selectors.applications.isEmpty && !right.selectors.categories.isEmpty
        || !left.selectors.categories.isEmpty && !right.selectors.applications.isEmpty)

/-! ### The cost of a schedule -/

/-- The windows that apply on a day of the week. -/
def windowsOn (index : ℕ) : List PolicyScheduleWindow :=
  schedule.windows.filter fun window => window.days.any fun day => day.mondayIndex = index

/-- Windows in the thirty days from today on. -/
def scheduleProjectionCost (nowMs : ℤ) (spec : PolicySpecV1) : ℕ :=
  match spec.schedule with
  | none => 0
  | some schedule =>
    match zones schedule.timezone with
    | none => 2 ^ 64 - 1
    | some zone =>
      sumDays (fun index => (windowsOn schedule index).length) (zone.localDate nowMs) 30

/-- For sample runs: the epoch of a process. -/
def sampleEpoch : String := "6f9619ff-8b86-4011-b42d-00cf4fc964ff"

end Netqmon.Collector.Policy.Validation
