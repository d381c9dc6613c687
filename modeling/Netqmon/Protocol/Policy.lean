import Mathlib

/-! # Policy wire frames

The frames the collector and the agent exchange on the policy connection. Times are milliseconds,
rates bits per second. -/

namespace Netqmon.Protocol.Policy

def policyWireVersion : ℕ := 1
def policyMaxFrameBytes : ℕ := 1024 * 1024
def policyMaxSnapshotBytes : ℕ := 768 * 1024
def maxSafeJsonInteger : ℕ := 9007199254740991
def policyClientTotalScope : String := "agent"

/-! ### Policies -/

structure PolicySelectors where
  (clients applications categories : List String)
  /-- A finite double, as JSON numbers are. -/
  minApplicationConfidence : ℚ
deriving DecidableEq

structure PolicyNetworkSelector where
  (scope direction : String)
deriving DecidableEq

inductive PolicyActionKind
  | block
  | allow
  | limit
deriving DecidableEq

structure PolicyAction where
  kind : PolicyActionKind
  (downloadBps uploadBps : Option ℕ)
deriving DecidableEq

inductive PolicyWeekday
  | mon
  | tue
  | wed
  | thu
  | fri
  | sat
  | sun
deriving DecidableEq

def PolicyWeekday.mondayIndex : PolicyWeekday → ℕ
  | .mon => 0
  | .tue => 1
  | .wed => 2
  | .thu => 3
  | .fri => 4
  | .sat => 5
  | .sun => 6

structure PolicyScheduleWindow where
  days : List PolicyWeekday
  (start stop : String)
deriving DecidableEq

structure PolicySchedule where
  timezone : String
  windows : List PolicyScheduleWindow
deriving DecidableEq

structure PolicySpecV1 where
  schemaVersion : ℕ
  (gatewayId name description : String)
  enabled : Bool
  priority : ℕ
  selectors : PolicySelectors
  network : PolicyNetworkSelector
  action : PolicyAction
  schedule : Option PolicySchedule
deriving DecidableEq

/-- A block of every client, of which the sample policies are variants. -/
def plainSpec : PolicySpecV1 :=
  ⟨1, "gw-test", "", "", true, 500, ⟨[], [], [], 85 / 100⟩, ⟨"internet", "both"⟩, ⟨.block, none, none⟩,
    none⟩

/-- A limit of whole clients on the agent's client-facing path. -/
def isClientTotalSpec (spec : PolicySpecV1) : Bool :=
  spec.network.scope == policyClientTotalScope && spec.network.direction == "both"
    && spec.action.kind == .limit && !spec.selectors.clients.isEmpty
    && spec.selectors.applications.isEmpty && spec.selectors.categories.isEmpty

/-- The policy selects by application or category. -/
def PolicySpecV1.selectsApplications (spec : PolicySpecV1) : Bool :=
  !spec.selectors.applications.isEmpty || !spec.selectors.categories.isEmpty

structure PolicySnapshotEntry where
  id : String
  spec : PolicySpecV1
deriving DecidableEq

structure PolicyScheduleInterval where
  (startMs endMs : ℤ)
deriving DecidableEq

structure PolicyScheduleIntervals where
  policyId : String
  intervals : List PolicyScheduleInterval
deriving DecidableEq

structure PolicySnapshot where
  wireVersion : ℕ
  (gatewayId controllerEpoch : String)
  (configRevision bundleGeneration : ℕ)
  (generatedAtMs validUntilMs : ℤ)
  checksum : String
  policies : List PolicySnapshotEntry
  scheduleIntervals : List PolicyScheduleIntervals
deriving DecidableEq

/-- A snapshot without policies, of which the sample snapshots are variants. -/
def plainSnapshot : PolicySnapshot :=
  ⟨1, "gw-test", "00000000-0000-4000-8000-000000000001", 12, 40, 1791600000000, 1794192000000, "", [],
    []⟩

/-! ### Acknowledgements -/

inductive PolicyAckStatus
  | applied
  | partially
  | failed
  | unsupported
deriving DecidableEq

inductive PolicyResultStatus
  | applied
  | degraded
  | unsupported
  | failed
  | disabled
deriving DecidableEq

inductive PolicyCapability
  | supported
  | unsupported
  | degraded
deriving DecidableEq

structure PolicyCapabilities where
  (clientBlock clientLimit applicationBlock applicationLimit : PolicyCapability)
  clientTotalLimit : Option PolicyCapability
deriving DecidableEq

def PolicyCapabilities.allUnsupported : PolicyCapabilities :=
  ⟨.unsupported, .unsupported, .unsupported, .unsupported, none⟩

structure PolicyClientRate where
  mac : String
  (effectiveUploadBps effectiveDownloadBps : Option ℕ)
deriving DecidableEq

structure PolicyResultDetails where
  clients : List PolicyClientRate
  controlledInterfaces : List String
  (qdisc markConflictCode : Option String)
deriving DecidableEq

structure PolicyResult where
  policyId : String
  status : PolicyResultStatus
  (reasonCode message : Option String)
  details : Option PolicyResultDetails
deriving DecidableEq

structure PolicyDirectionMetrics where
  interface : String
  (bytes packets drops overlimits : Option ℕ)
deriving DecidableEq

structure PolicyClientMetrics where
  (policyId mac : String)
  (upload download : Option PolicyDirectionMetrics)
deriving DecidableEq

structure PolicyAck where
  wireVersion : ℕ
  (gatewayId bootId controllerEpoch : String)
  (configRevision bundleGeneration : ℕ)
  checksum : String
  status : PolicyAckStatus
  capabilities : PolicyCapabilities
  results : List PolicyResult
  reportedAtMs : ℤ
deriving DecidableEq

/-! ### Flow commands -/

inductive FlowCommandOperation
  | upsert
  | revoke
deriving DecidableEq

inductive FlowVerdict
  | block
  | allow
  | shape
deriving DecidableEq

inductive FlowAckStatus
  | applied
  | partially
  | unsupported
  | failed
  | expired
deriving DecidableEq

structure FlowCommand where
  wireVersion : ℕ
  (gatewayId bootId controllerEpoch : String)
  configRevision : ℕ
  (commandId policyFlowId : String)
  operation : FlowCommandOperation
  verdict : Option FlowVerdict
  policyIds : List String
  (expiresAtMs issuedAtMs : ℤ)
deriving DecidableEq

structure FlowAck where
  wireVersion : ℕ
  (gatewayId bootId controllerEpoch commandId policyFlowId : String)
  configRevision : ℕ
  status : FlowAckStatus
  reasonCode : Option String
  aliasCount : ℕ
  reportedAtMs : ℤ
deriving DecidableEq

end Netqmon.Protocol.Policy
