import Mathlib
import Netqmon.Protocol.Validate

/-! # Building snapshots and commands

`snapshot` puts the parts of a snapshot in order, adds the checksum and refuses what the other end would
not accept. `validateFlowCommand` is the flow command branch of `PolicyWireFrame::validate`. -/

namespace Netqmon.Protocol.Snapshot

open Lib.Checks Policy Validate

/-! ### Snapshots -/

/-- `start_ms` and `end_ms` compared as a pair, for sorting. -/
def PolicyScheduleInterval.notAfter (a b : PolicyScheduleInterval) : Prop :=
  a.startMs < b.startMs ∨ a.startMs = b.startMs ∧ a.endMs ≤ b.endMs

instance : DecidableRel PolicyScheduleInterval.notAfter := fun a b =>
  inferInstanceAs (Decidable (a.startMs < b.startMs ∨ a.startMs = b.startMs ∧ a.endMs ≤ b.endMs))

def sortIntervals (intervals : List PolicyScheduleInterval) : List PolicyScheduleInterval :=
  intervals.insertionSort PolicyScheduleInterval.notAfter

variable (codec : Codec)

/-- The frame before it is checked. -/
def arrange (gatewayId controllerEpoch : String)
    (configRevision bundleGeneration : ℕ) (generatedAtMs validUntilMs : ℤ)
    (policies : List PolicySnapshotEntry) (scheduleIntervals : List PolicyScheduleIntervals) :
    PolicySnapshot :=
  let frame : PolicySnapshot :=
    { wireVersion := policyWireVersion
      gatewayId
      controllerEpoch
      configRevision
      bundleGeneration
      generatedAtMs
      validUntilMs
      checksum := ""
      policies := policies.insertionSort (·.id ≤ ·.id)
      scheduleIntervals := (scheduleIntervals.insertionSort (·.policyId ≤ ·.policyId)).map
        fun schedule => { schedule with intervals := sortIntervals schedule.intervals } }
  { frame with checksum := codec.checksumFor (checksumPayload frame) }

/-- The checks of a frame; the size is checked a second time. -/
def checkFrame (frame : PolicySnapshot) : Except String Unit := do
  validateGenerations frame.configRevision frame.bundleGeneration
  validateSnapshot codec frame
  ensure (codec.encodedLen frame ≤ policyMaxSnapshotBytes) "policy snapshot exceeds 768 KiB"

def snapshot (gatewayId controllerEpoch : String)
    (configRevision bundleGeneration : ℕ) (generatedAtMs validUntilMs : ℤ)
    (policies : List PolicySnapshotEntry) (scheduleIntervals : List PolicyScheduleIntervals) :
    Except String PolicySnapshot := do
  let frame := arrange codec gatewayId controllerEpoch configRevision bundleGeneration
    generatedAtMs validUntilMs policies scheduleIntervals
  checkFrame codec frame
  return frame

/-! ### Flow commands -/

def flowCommandMaxLifetimeMs : ℤ := 120000

def validateFlowCommand (command : FlowCommand) : Except String Unit := do
  ensure (command.wireVersion == policyWireVersion) "unsupported policy wire version"
  validateGateway command.gatewayId
  validateNonemptyId command.bootId "boot_id"
  validateEpoch command.controllerEpoch
  ensure (command.configRevision ≤ maxSafeJsonInteger)
    "config_revision is outside the JSON safe integer range"
  validateNonemptyId command.commandId "command_id"
  ensure (validText 64 command.policyFlowId)
    "policy_flow_id must contain 1 through 64 non-control characters"
  ensure (decide (0 ≤ command.issuedAtMs) && decide (command.issuedAtMs < command.expiresAtMs)
      && decide (command.expiresAtMs - command.issuedAtMs ≤ flowCommandMaxLifetimeMs))
    "flow command lifetime must be positive and no longer than 120 seconds"
  match command.operation with
  | .upsert => do
    ensure (command.verdict.isSome && !command.policyIds.isEmpty
        && command.policyIds.length ≤ 16)
      "upsert requires a verdict and 1 through 16 policy ids"
    command.policyIds.forM fun policyId => validateNonemptyId policyId "policy_id"
  | .revoke =>
    ensure (command.verdict.isNone && command.policyIds.isEmpty)
      "revoke must not include a verdict or policy ids"

end Netqmon.Protocol.Snapshot
