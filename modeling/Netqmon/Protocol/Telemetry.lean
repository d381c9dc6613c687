import Mathlib
import Netqmon.Lib.Checks

/-! # Telemetry messages

The messages between agent and collector, and how many bytes protobuf needs for them. Enumerations
are their wire values. Observations whose contents nothing here reads are kept in their encoded
form. -/

namespace Netqmon.Protocol.Telemetry

open Lib.Checks

abbrev Bytes : Type := List UInt8

def protocolVersion : ℕ := 1

/-! ### Messages -/

def directionUpload : ℤ := 1
def directionDownload : ℤ := 2
def lifecycleActive : ℤ := 1
def lifecycleIdle : ℤ := 2
def lifecycleEnded : ℤ := 3

structure FlowDelta where
  (ipVersion protocol : ℕ)
  clientIp : Bytes
  clientPort : ℕ
  remoteIp : Bytes
  remotePort : ℕ
  direction : ℤ
  (uploadBytes downloadBytes packets firstSeenUnixMs lastSeenUnixMs tcpFlags : ℕ)
  lifecycle : ℤ
  clientMac : Bytes
  protocolHint : String
  (scope pathType nat : ℤ)
  (sourceSegment destinationSegment policyFlowId : String)
deriving DecidableEq

structure DeviceObservation where
  (mac ip : Bytes)
  hostname : String
  lastSeenUnixMs : ℕ
  /-- The encoded DHCP metadata. -/
  dhcp : Option Bytes
deriving DecidableEq

structure FaviconProbe where
  targetIp : Bytes
  port : ℕ
deriving DecidableEq

structure ProbeRequest where
  requestId : String
  favicon : Option FaviconProbe
deriving DecidableEq

structure FaviconProbeResult where
  targetIp : Bytes
  port : ℕ
  sha256 : List Bytes
deriving DecidableEq

structure ProbeResult where
  requestId : String
  observedAtUnixMs : ℕ
  favicon : Option FaviconProbeResult
  status : String
deriving DecidableEq

structure TelemetryBatch where
  (gatewayId bootId : String)
  (sequence sentAt : ℕ)
  agentVersion : String
  protocolVersion : ℕ
  flows : List FlowDelta
  /-- Encoded DNS observations. -/
  dnsObservations : List Bytes
  deviceObservations : List DeviceObservation
  /-- The encoded health report. -/
  health : Option Bytes
  /-- Encoded discovery observations. -/
  deviceDiscoveryObservations : List Bytes
  probeResults : List ProbeResult
deriving DecidableEq

/-! ### Encoded sizes -/

def varintLen (value : ℕ) : ℕ := Nat.log2 value / 7 + 1

variable (field : ℕ)

/-- Field numbers above fifteen need two bytes. -/
def tagLen : ℕ := varintLen (8 * field)

/-- Scalar fields with their default value are not encoded. -/
def uintField (field value : ℕ) : ℕ := if value = 0 then 0 else tagLen field + varintLen value

/-- Negative enumeration values take ten bytes. -/
def enumField (value : ℤ) : ℕ :=
  if value < 0 then tagLen field + 10 else uintField field value.toNat

def messageField (field length : ℕ) : ℕ := tagLen field + varintLen length + length

def bytesField (value : Bytes) : ℕ :=
  if value = [] then 0 else messageField field value.length

def stringField (value : String) : ℕ :=
  if value = "" then 0 else messageField field value.utf8ByteSize

def repeatedField {α : Type} (field : ℕ) (encodedLen : α → ℕ) (values : List α) : ℕ :=
  (values.map fun value => messageField field (encodedLen value)).sum

def FlowDelta.encodedLen (flow : FlowDelta) : ℕ :=
  uintField 1 flow.ipVersion + uintField 2 flow.protocol + bytesField 3 flow.clientIp
    + uintField 4 flow.clientPort + bytesField 5 flow.remoteIp + uintField 6 flow.remotePort
    + enumField 7 flow.direction + uintField 8 flow.uploadBytes + uintField 9 flow.downloadBytes
    + uintField 10 flow.packets + uintField 11 flow.firstSeenUnixMs
    + uintField 12 flow.lastSeenUnixMs + uintField 13 flow.tcpFlags + enumField 14 flow.lifecycle
    + bytesField 15 flow.clientMac + stringField 16 flow.protocolHint + enumField 17 flow.scope
    + enumField 18 flow.pathType + enumField 19 flow.nat + stringField 20 flow.sourceSegment
    + stringField 21 flow.destinationSegment + stringField 22 flow.policyFlowId

def DeviceObservation.encodedLen (device : DeviceObservation) : ℕ :=
  bytesField 1 device.mac + bytesField 2 device.ip + stringField 3 device.hostname
    + uintField 4 device.lastSeenUnixMs + repeatedField 5 List.length device.dhcp.toList

def FaviconProbeResult.encodedLen (favicon : FaviconProbeResult) : ℕ :=
  bytesField 1 favicon.targetIp + uintField 2 favicon.port
    + repeatedField 3 List.length favicon.sha256

def ProbeResult.encodedLen (result : ProbeResult) : ℕ :=
  stringField 1 result.requestId + uintField 2 result.observedAtUnixMs
    + repeatedField 3 FaviconProbeResult.encodedLen result.favicon.toList
    + stringField 4 result.status

def TelemetryBatch.encodedLen (batch : TelemetryBatch) : ℕ :=
  stringField 1 batch.gatewayId + stringField 2 batch.bootId + uintField 3 batch.sequence
    + uintField 4 batch.sentAt + stringField 5 batch.agentVersion
    + uintField 6 batch.protocolVersion + repeatedField 7 FlowDelta.encodedLen batch.flows
    + repeatedField 8 List.length batch.dnsObservations
    + repeatedField 9 DeviceObservation.encodedLen batch.deviceObservations
    + repeatedField 10 List.length batch.health.toList
    + repeatedField 11 List.length batch.deviceDiscoveryObservations
    + repeatedField 12 ProbeResult.encodedLen batch.probeResults

theorem varintLen_le {v bits : ℕ} (h : v < 2 ^ (bits + 1)) : varintLen v ≤ bits / 7 + 1 := by
  have hlog : Nat.log2 v ≤ bits := by
    by_cases hz : v = 0
    · rw [hz]
      exact Nat.zero_le _
    · exact Nat.lt_succ_iff.1 ((Nat.log2_lt hz).2 h)
  exact Nat.succ_le_succ (Nat.div_le_div_right hlog)

theorem FlowDelta.encodedLen_clientPort (flow : FlowDelta) (port : ℕ) :
    ({ flow with clientPort := port }).encodedLen =
      ({ flow with clientPort := 0 }).encodedLen + uintField 4 port := by
  have hz : uintField 4 0 = 0 := rfl
  simp only [FlowDelta.encodedLen]
  omega

theorem TelemetryBatch.encodedLen_flows (b : TelemetryBatch) (flows : List FlowDelta) :
    ({ b with flows := flows }).encodedLen =
      ({ b with flows := [] }).encodedLen + repeatedField 7 FlowDelta.encodedLen flows := by
  have hnil : repeatedField 7 FlowDelta.encodedLen [] = 0 := rfl
  simp only [TelemetryBatch.encodedLen]
  omega

/-- Short messages take two bytes more in a list. -/
theorem repeatedField_le {α : Type} {field bound : ℕ} {encodedLen : α → ℕ} {values : List α}
    (hfield : field < 16) (hbd : bound < 128) (h : ∀ v ∈ values, encodedLen v ≤ bound) :
    repeatedField field encodedLen values ≤ values.length * (bound + 2) := by
  have hone : ∀ v ∈ values, messageField field (encodedLen v) ≤ bound + 2 := by
    intro v hv
    have hlen := h v hv
    have htag : tagLen field ≤ 1 := @varintLen_le (8 * field) 6 (by omega)
    have hsize : varintLen (encodedLen v) ≤ 1 := @varintLen_le _ 6 (by omega)
    unfold messageField
    omega
  have hsum := List.sum_le_card_nsmul (values.map fun v => messageField field (encodedLen v))
    (bound + 2) fun size hsize => by grind
  rw [List.length_map] at hsum
  exact hsum

/-! ### Requests -/

def maxDecodedBatchBytes : ℕ := 16 * 1024 * 1024

inductive ContentEncoding
  | identity
  | zstd
deriving DecidableEq

/-- A request body: the batch it encodes and its size. Protobuf and zstd give back what was
encoded. -/
structure EncodedTelemetryBatch where
  batch : TelemetryBatch
  length : ℕ
  encoding : ContentEncoding
deriving DecidableEq

/-- Batches at or above the threshold are compressed; `zstdLen` is the size zstd reaches. -/
def encodeTelemetryBatch (zstdLen : TelemetryBatch → ℕ) (batch : TelemetryBatch)
    (compressionThresholdBytes : ℕ) : EncodedTelemetryBatch :=
  if batch.encodedLen < compressionThresholdBytes then ⟨batch, batch.encodedLen, .identity⟩
  else ⟨batch, zstdLen batch, .zstd⟩

inductive DecodeError
  | tooLarge
deriving DecidableEq

/-- Both encodings are limited by the size of the message, not of the body. -/
def decodeTelemetryBatch (payload : EncodedTelemetryBatch) : Except DecodeError TelemetryBatch :=
  if maxDecodedBatchBytes < payload.batch.encodedLen then .error .tooLarge else .ok payload.batch

/-! ### Metadata -/

inductive BatchMetadataError
  | missingGatewayId
  | missingBootId
  | missingSequence
  | missingSentAt
  | missingAgentVersion
  | unsupportedProtocolVersion (version : ℕ)
deriving DecidableEq

def BatchMetadataError.message : BatchMetadataError → String
  | .missingGatewayId => "gateway_id is required"
  | .missingBootId => "boot_id is required"
  | .missingSequence => "sequence must start at one"
  | .missingSentAt => "sent_at is required"
  | .missingAgentVersion => "agent_version is required"
  | .unsupportedProtocolVersion version => "unsupported protocol_version " ++ toString version

def validateBatchMetadata (batch : TelemetryBatch) : Except BatchMetadataError Unit := do
  ensure (batch.gatewayId ≠ "") .missingGatewayId
  ensure (batch.bootId ≠ "") .missingBootId
  ensure (batch.sequence ≠ 0) .missingSequence
  ensure (batch.sentAt ≠ 0) .missingSentAt
  ensure (batch.agentVersion ≠ "") .missingAgentVersion
  ensure (batch.protocolVersion = protocolVersion)
    (.unsupportedProtocolVersion batch.protocolVersion)

end Netqmon.Protocol.Telemetry
