import Mathlib
import Netqmon.Lib.RustNet
import Netqmon.Protocol.Telemetry

/-! # Sending telemetry

Batches wait in a buffer that is bounded in bytes and drops the oldest ones (`TelemetryBuffer`). The
sender takes one batch at a time, numbers it and sends it again and again until it is accepted
(`Sender`). With the response the collector may ask for probes, whose results go with the next
batch (`execute`). -/

namespace Netqmon.Agent.Transport

open Lib.RustNet Protocol.Telemetry

def compressionThresholdBytes : ℕ := 1024
def maxDiscoveredIcons : ℕ := 4
def u64Max : ℕ := 2 ^ 64 - 1

/-! ### The buffer -/

/-- The counters of the buffer; they are atomic and wrap around. -/
structure TransportStats where
  (queueDepth queueHighWatermark queueBytes queueHighWatermarkBytes droppedBatches droppedFlows : ℕ)
  droppedBytes : ℕ

namespace TransportStats

def updateQueue (depth bytes : ℕ) (stats : TransportStats) : TransportStats :=
  { stats with
    queueDepth := depth
    queueBytes := bytes
    queueHighWatermark := max depth stats.queueHighWatermark
    queueHighWatermarkBytes := max bytes stats.queueHighWatermarkBytes }

def recordDropped (batch : TelemetryBatch) (encodedBytes : ℕ) (stats : TransportStats) :
    TransportStats :=
  { stats with
    droppedBatches := (stats.droppedBatches + 1) % 2 ^ 64
    droppedFlows := (stats.droppedFlows + batch.flows.length) % 2 ^ 64
    droppedBytes := (stats.droppedBytes + encodedBytes) % 2 ^ 64 }

end TransportStats

structure QueuedTelemetry where
  batch : TelemetryBatch
  encodedBytes : ℕ

structure TelemetryBuffer where
  capacityBytes : ℕ
  batches : List QueuedTelemetry
  bytes : ℕ
  closed : Bool
  stats : TransportStats

namespace TelemetryBuffer

def new (capacityBytes : ℕ) : TelemetryBuffer :=
  ⟨capacityBytes, [], 0, false, ⟨0, 0, 0, 0, 0, 0, 0⟩⟩

/-- Drop the oldest batches until `encodedBytes` fit. -/
def evict (capacityBytes encodedBytes : ℕ) :
    List QueuedTelemetry → ℕ → TransportStats → List QueuedTelemetry × ℕ × TransportStats
  | [], bytes, stats => ([], bytes, stats)
  | oldest :: rest, bytes, stats =>
    if capacityBytes < bytes + encodedBytes then
      evict capacityBytes encodedBytes rest (bytes - oldest.encodedBytes)
        (stats.recordDropped oldest.batch oldest.encodedBytes)
    else (oldest :: rest, bytes, stats)

def push (batch : TelemetryBatch) (buffer : TelemetryBuffer) : TelemetryBuffer :=
  let encodedBytes := batch.encodedLen
  if buffer.closed || buffer.capacityBytes < encodedBytes then
    { buffer with stats := buffer.stats.recordDropped batch encodedBytes }
  else
    let room := evict buffer.capacityBytes encodedBytes buffer.batches buffer.bytes buffer.stats
    let batches := room.1 ++ [⟨batch, encodedBytes⟩]
    let bytes := room.2.1 + encodedBytes
    { buffer with
      batches
      bytes
      stats := room.2.2.updateQueue batches.length bytes }

def pop (buffer : TelemetryBuffer) : Option (TelemetryBatch × TelemetryBuffer) :=
  match buffer.batches with
  | [] => none
  | queued :: rest =>
    let bytes := buffer.bytes - queued.encodedBytes
    some (queued.batch, { buffer with
      batches := rest
      bytes
      stats := buffer.stats.updateQueue rest.length bytes })

def close (buffer : TelemetryBuffer) : TelemetryBuffer := { buffer with closed := true }

variable {queued : QueuedTelemetry}

theorem mem_evict {cap encodedBytes : ℕ} :
    ∀ {batches : List QueuedTelemetry} {bytes : ℕ} {stats : TransportStats},
      queued ∈ (evict cap encodedBytes batches bytes stats).1 → queued ∈ batches
  | [], _, _, h => h
  | oldest :: rest, bytes, stats, h => by
    unfold evict at h
    split_ifs at h
    · exact List.mem_cons_of_mem _ (mem_evict h)
    · exact h

variable {batch : TelemetryBatch}

/-- A batch in the buffer was there before, or is the one that was pushed. -/
theorem mem_push {buffer : TelemetryBuffer} (h : queued ∈ (buffer.push batch).batches) :
    queued ∈ buffer.batches ∨ queued.batch = batch := by
  unfold push at h
  dsimp only at h
  split_ifs at h
  · exact .inl h
  · grind [mem_evict]

theorem mem_pop {buffer rest : TelemetryBuffer} (h : buffer.pop = some (batch, rest)) :
    (∃ queued ∈ buffer.batches, queued.batch = batch) ∧
      ∀ queued ∈ rest.batches, queued ∈ buffer.batches := by
  unfold pop at h
  split at h
  · cases h
  · grind

theorem pop_push_new {cap : ℕ} (h : batch.encodedLen ≤ cap) :
    ∃ rest, ((new cap).push batch).pop = some (batch, rest) := by
  have hroom : ¬ ((new cap).closed ||
      decide ((new cap).capacityBytes < batch.encodedLen)) = true := by
    rw [Bool.or_eq_true, decide_eq_true_eq]
    rintro (hcl | hlg)
    · cases hcl
    · exact Nat.not_lt.2 h hlg
  rw [push]
  rw [if_neg hroom]
  exact ⟨_, rfl⟩

end TelemetryBuffer

/-! ### Probes -/

/-- A SHA-256 digest. -/
abbrev Digest : Type := { bytes : Bytes // bytes.length = 32 }

/-- What a probe finds in the monitored network. -/
structure ProbeView where
  sha256 : Bytes → Digest
  observedAtMs : ProbeRequest → ℕ
  clientBuilds : Bool
  /-- The paths of the icons that the start page links on its own host. -/
  iconPaths : FaviconProbe → (https : Bool) → List String
  /-- Bodies of successful answers, not empty and at most two megabytes long. -/
  fetch : FaviconProbe → (https : Bool) → String → Option Bytes

def privateTarget (ip : IpAddr) : Bool := ip.isLocal

/-- Linked icons are tried before the usual place, the last one first. -/
def candidatePaths (links : List String) : List String :=
  links.foldl (fun paths path => if path ∈ paths then paths else path :: paths) ["/favicon.ico"]

def collectDigest (hashes : List Digest) (digest : Digest) : List Digest :=
  if digest ∈ hashes then hashes else hashes ++ [digest]

variable (view : ProbeView)

variable (probe : FaviconProbe)

def iconDigests (https : Bool) : List Digest :=
  (((candidatePaths (view.iconPaths probe https)).take maxDiscoveredIcons).filterMap fun path =>
    (view.fetch probe https path).map view.sha256).foldl collectDigest []

def faviconResult (hashes : List Digest) : FaviconProbeResult :=
  ⟨probe.targetIp, probe.port, hashes.map (·.1)⟩

def executeFavicon : FaviconProbeResult × String :=
  match IpAddr.ofOctets probe.targetIp with
  | none => (faviconResult probe [], "invalid_target")
  | some ip =>
    if 65535 < probe.port || probe.port = 0 || !privateTarget ip then
      (faviconResult probe [], "invalid_target")
    else if !view.clientBuilds then (faviconResult probe [], "client_error")
    else
      let https := decide (probe.port = 443)
      if iconDigests view probe https ≠ [] then
        (faviconResult probe (iconDigests view probe https), "ok")
      else if iconDigests view probe (!https) ≠ [] then
        (faviconResult probe (iconDigests view probe (!https)), "ok")
      else (faviconResult probe [], "not_found")

def execute (request : ProbeRequest) : ProbeResult :=
  match request.favicon with
  | some probe =>
    let executed := executeFavicon view probe
    ⟨request.requestId, view.observedAtMs request, some executed.1, executed.2⟩
  | none => ⟨request.requestId, view.observedAtMs request, none, "unsupported"⟩

theorem length_foldl_collectDigest :
    ∀ (digests hashes : List Digest),
      (digests.foldl collectDigest hashes).length ≤ hashes.length + digests.length
  | [], _ => Nat.le_refl _
  | digest :: digests, hashes => by
    have hone : (collectDigest hashes digest).length ≤ hashes.length + 1 := by
      unfold collectDigest
      split_ifs <;> simp
    have hr := length_foldl_collectDigest digests (collectDigest hashes digest)
    grind

variable {probe : FaviconProbe} {view : ProbeView}

theorem length_iconDigests (https : Bool) :
    (iconDigests view probe https).length ≤ maxDiscoveredIcons := by
  refine Nat.le_trans (length_foldl_collectDigest _ _) ?_
  rw [List.length_nil, Nat.zero_add]
  exact Nat.le_trans (List.length_filterMap_le _ _) (List.length_take_le _ _)

/-- A favicon result has at most four digests, each of full length. -/
def FewDigests (favicon : FaviconProbeResult) : Prop :=
  favicon.sha256.length ≤ maxDiscoveredIcons ∧ ∀ digest ∈ favicon.sha256, digest.length = 32

theorem fewDigests_faviconResult {hashes : List Digest} (h : hashes.length ≤ maxDiscoveredIcons) :
    FewDigests (faviconResult probe hashes) := by
  refine ⟨by rw [faviconResult, List.length_map]; exact h, fun digest hdigest => ?_⟩
  obtain ⟨full, -, rfl⟩ := List.mem_map.1 hdigest
  exact full.2

theorem fewDigests_executeFavicon : FewDigests (executeFavicon view probe).1 := by
  have hn : FewDigests (faviconResult probe []) :=
    fewDigests_faviconResult (Nat.zero_le _)
  have hs : ∀ https, FewDigests (faviconResult probe (iconDigests view probe https)) :=
    fun https => fewDigests_faviconResult (length_iconDigests https)
  unfold executeFavicon
  split
  · exact hn
  · grind

/-! ### The sender -/

structure Sender where
  sequence : ℕ
  probeResults : List ProbeResult
  inFlight : Option TelemetryBatch

namespace Sender

def new : Sender := ⟨0, [], none⟩

/-- Number the next batch and hand it the probe results. -/
def take (bootId : String) (batch : TelemetryBatch) (sender : Sender) : Sender :=
  let sequence := min (sender.sequence + 1) u64Max
  { sequence
    probeResults := []
    inFlight := some { batch with
      bootId
      sequence
      probeResults := batch.probeResults ++ sender.probeResults } }

/-- The body of a request with the batch. -/
def request (zstdLen : TelemetryBatch → ℕ) (gatewayId : String) (batch : TelemetryBatch) :
    EncodedTelemetryBatch :=
  encodeTelemetryBatch zstdLen { batch with gatewayId := gatewayId } compressionThresholdBytes

/-- The batch was accepted; the probes are made before the next batch is taken. -/
def accepted (view : ProbeView) (requests : List ProbeRequest) (sender : Sender) : Sender :=
  { sender with
    probeResults := sender.probeResults ++ requests.map (execute view)
    inFlight := none }

end Sender

end Netqmon.Agent.Transport
