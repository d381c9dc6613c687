import Netqmon.Lib.JsonSize
import Netqmon.Protocol.Validate

/-! # The size of policies and snapshots

Policies are stored and snapshots are sent as JSON. The text of a double is left to the JSON library;
`floatLen` is its length. -/

namespace Netqmon.Protocol.Json

open Lib.JsonSize Policy Validate

def actionKindLen : PolicyActionKind → ℕ
  | .block => stringLen "block"
  | .allow => stringLen "allow"
  | .limit => stringLen "limit"

/-- Weekdays are written as three letters. -/
def weekdayLen (_ : PolicyWeekday) : ℕ := stringLen "mon"

def windowLen (window : PolicyScheduleWindow) : ℕ :=
  objectLen [("days", arrayLen weekdayLen window.days), ("start", stringLen window.start),
    ("end", stringLen window.stop)]

def scheduleLen (schedule : PolicySchedule) : ℕ :=
  objectLen [("timezone", stringLen schedule.timezone),
    ("windows", arrayLen windowLen schedule.windows)]

variable (floatLen : ℚ → ℕ)

def selectorsLen (selectors : PolicySelectors) : ℕ :=
  objectLen [("clients", arrayLen stringLen selectors.clients),
    ("applications", arrayLen stringLen selectors.applications),
    ("categories", arrayLen stringLen selectors.categories),
    ("min_application_confidence", floatLen selectors.minApplicationConfidence)]

def specLen (spec : PolicySpecV1) : ℕ :=
  objectLen [("schema_version", natLen spec.schemaVersion),
    ("gateway_id", stringLen spec.gatewayId),
    ("name", stringLen spec.name),
    ("description", stringLen spec.description),
    ("enabled", boolLen spec.enabled),
    ("priority", natLen spec.priority),
    ("selectors", selectorsLen floatLen spec.selectors),
    ("network", objectLen [("scope", stringLen spec.network.scope),
      ("direction", stringLen spec.network.direction)]),
    ("action", objectLen [("type", actionKindLen spec.action.kind),
      ("download_bps", optionLen natLen spec.action.downloadBps),
      ("upload_bps", optionLen natLen spec.action.uploadBps)]),
    ("schedule", optionLen scheduleLen spec.schedule)]

def entryLen (entry : PolicySnapshotEntry) : ℕ :=
  objectLen [("id", stringLen entry.id), ("spec", specLen floatLen entry.spec)]

def intervalLen (interval : PolicyScheduleInterval) : ℕ :=
  objectLen [("start_ms", intLen interval.startMs), ("end_ms", intLen interval.endMs)]

def intervalsLen (entry : PolicyScheduleIntervals) : ℕ :=
  objectLen [("policy_id", stringLen entry.policyId),
    ("intervals", arrayLen intervalLen entry.intervals)]

def snapshotLen (s : PolicySnapshot) : ℕ :=
  objectLen [("type", stringLen "policy_snapshot"),
    ("wire_version", natLen s.wireVersion),
    ("gateway_id", stringLen s.gatewayId),
    ("controller_epoch", stringLen s.controllerEpoch),
    ("config_revision", natLen s.configRevision),
    ("bundle_generation", natLen s.bundleGeneration),
    ("generated_at_ms", intLen s.generatedAtMs),
    ("valid_until_ms", intLen s.validUntilMs),
    ("checksum", stringLen s.checksum),
    ("policies", arrayLen (entryLen floatLen) s.policies),
    ("schedule_intervals", arrayLen intervalsLen s.scheduleIntervals)]

/-- The codec of the JSON library, with some hash. -/
def jsonCodec (checksumFor : SnapshotChecksumPayload → String) : Codec :=
  ⟨checksumFor, snapshotLen floatLen⟩

end Netqmon.Protocol.Json
