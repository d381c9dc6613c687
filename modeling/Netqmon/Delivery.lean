import Netqmon.Agent.Telemetry
import Netqmon.Agent.Transport
import Netqmon.Collector.Ingest

/-! # Delivery of telemetry

The agent's main loop, its buffer, its sender and the collector's handler as one system. The main
loop and the sender are threads of their own, so their events interleave freely. The sender holds on
to a batch until the collector accepts it; the agent has valid credentials, and the collector's
storage and classifier work.

* `wellFormed_run`: what the agent guarantees of every batch in flight.
* `attempt_moves_on_iff`: a batch in flight is accepted exactly if it `Fits`.
* `flood_never_moves_on`: a poll of many flows gives a batch that does not, and the sender stays
  with it for good. -/

namespace Netqmon.Delivery

open Agent.Flow Agent.Polling Agent.Telemetry Agent.Transport Collector.Ingest Lib.Checks
open Protocol.Telemetry hiding FlowDelta

/-! ### The system -/

structure Deployment where
  (gatewayId bootId : String)
  (capacityBytes tcpIdleTimeout udpIdleTimeout : ℕ)
  /-- The size to which zstd compresses a batch. -/
  zstdLen : TelemetryBatch → ℕ
  gatewayId_ne : gatewayId ≠ ""
  bootId_ne : bootId ≠ ""

structure System where
  agent : LoopState
  buffer : TelemetryBuffer
  sender : Sender
  collector : CollectorInner

variable (d : Deployment)

def System.new : System :=
  ⟨.new d.tcpIdleTimeout d.udpIdleTimeout, .new d.capacityBytes, .new, ⟨.new, []⟩⟩

inductive Event
  | poll (entries : List (FlowKey × FlowCounters)) (now : ℕ) (policyIds : PolicyIds)
      (view : PollView) (bootEpochMs : ℕ)
  | observeDns (observation : Bytes)
  | discover (observations : List Bytes)
  /-- The next batch is due. -/
  | submit (sentAt : ℕ) (devices : List DeviceObservation) (health : Bytes)
  /-- The sender has no batch and looks for the next one. -/
  | take
  /-- The sender posts its batch; the response may get lost. -/
  | attempt (ingest : IngestView) (probes : ProbeView) (lost : Bool)

def takeNext (s : System) : System :=
  match s.sender.inFlight, s.buffer.pop with
  | none, some (batch, buffer) =>
    { s with buffer := buffer, sender := s.sender.take d.bootId batch }
  | _, _ => s

def sendBatch (ingest : IngestView) (probes : ProbeView) (lost : Bool) (s : System) : System :=
  match s.sender.inFlight with
  | none => s
  | some batch =>
    let request := Sender.request d.zstdLen d.gatewayId batch
    let answer := telemetry d.gatewayId ingest request s.collector
    match answer.2 with
    | .error _ => { s with collector := answer.1 }
    | .ok requests =>
      { s with
        collector := answer.1
        sender := if lost then s.sender else s.sender.accepted probes requests }

def step (s : System) : Event → System
  | .poll entries now policyIds view bootEpochMs =>
    { s with agent := s.agent.poll entries now policyIds view bootEpochMs }
  | .observeDns observation => { s with agent := s.agent.observeDns observation }
  | .discover observations => { s with agent := s.agent.discover observations }
  | .submit sentAt devices health =>
    { s with
      agent := s.agent.drained
      buffer := s.buffer.push (s.agent.assemble sentAt devices health) }
  | .take => takeNext d s
  | .attempt ingest probes lost => sendBatch d ingest probes lost s

def run (events : List Event) : System := events.foldl (step d) (System.new d)

/-! ### What the agent guarantees -/

/-- A batch as the main loop builds it. -/
structure Assembled (batch : TelemetryBatch) : Prop where
  version : batch.agentVersion = agentVersion
  protocol : batch.protocolVersion = protocolVersion
  discovery : batch.deviceDiscoveryObservations.length ≤ maxPendingDiscovery
  noResults : batch.probeResults = []

/-- The results of the probes of one response. -/
structure Probed (results : List ProbeResult) : Prop where
  few : results.length ≤ maxProbeRequests
  digests : ∀ result ∈ results, ∀ favicon, result.favicon = some favicon → FewDigests favicon

/-- A batch that the sender has numbered. -/
structure Numbered (d : Deployment) (batch : TelemetryBatch) : Prop where
  version : batch.agentVersion = agentVersion
  protocol : batch.protocolVersion = protocolVersion
  boot : batch.bootId = d.bootId
  sequence : batch.sequence ≠ 0
  discovery : batch.deviceDiscoveryObservations.length ≤ maxPendingDiscovery
  results : Probed batch.probeResults

structure WellFormed (d : Deployment) (s : System) : Prop where
  discovery : s.agent.discoveryObservations.length ≤ maxPendingDiscovery
  queued : ∀ queued ∈ s.buffer.batches, Assembled queued.batch
  results : Probed s.sender.probeResults
  /-- Probe results wait only while no batch is in flight. -/
  handedOver : ∀ batch, s.sender.inFlight = some batch → s.sender.probeResults = []
  inFlight : ∀ batch, s.sender.inFlight = some batch → Numbered d batch
  noRequests : s.collector.pendingProbeRequests = []

theorem Probed.nil : Probed [] := ⟨Nat.zero_le _, fun _ h => absurd h List.not_mem_nil⟩

theorem Probed.valid {results : List ProbeResult} (h : Probed results) :
    validProbeResults results = true := by
  have hfew : results.length ≤ maxProbeResultsPerBatch :=
    h.few.trans (by decide)
  have hfavicon : ∀ favicon, FewDigests favicon → validFavicon favicon = true := by
    rintro favicon ⟨hlen, hdigests⟩
    have hhashes : favicon.sha256.length ≤ maxHashesPerFaviconResult := hlen.trans (by decide)
    simpa [validFavicon, hhashes] using hdigests
  simp only [validProbeResults, hfew, decide_true, Bool.true_and, List.all_eq_true]
  intro res hres
  cases hf : res.favicon with
  | none => rfl
  | some favicon => exact hfavicon favicon (h.digests res hres favicon hf)

theorem wellFormed_new : WellFormed d (System.new d) where
  discovery := Nat.zero_le _
  queued _ h := absurd h List.not_mem_nil
  results := .nil
  handedOver _ _ := rfl
  inFlight _ h := by cases h
  noRequests := rfl

section Steps

variable {d : Deployment} {s : System} (h : WellFormed d s)
include h

theorem WellFormed.submit (sentAt : ℕ) (devices : List DeviceObservation) (health : Bytes) :
    WellFormed d (step d s (.submit sentAt devices health)) := by
  refine { h with discovery := Nat.zero_le _, queued := fun queued hqueued => ?_ }
  rcases TelemetryBuffer.mem_push hqueued with hold | hnew
  · exact h.queued queued hold
  · rw [hnew]
    exact ⟨rfl, rfl, h.discovery, rfl⟩

theorem WellFormed.takeNext : WellFormed d (takeNext d s) := by
  unfold Delivery.takeNext
  split
  · rename_i batch buffer hid hpop
    obtain ⟨⟨queued, hqueued, rfl⟩, hr⟩ := TelemetryBuffer.mem_pop hpop
    have hasm := h.queued queued hqueued
    have hseq : min (s.sender.sequence + 1) Agent.Transport.u64Max ≠ 0 := by
      unfold Agent.Transport.u64Max
      omega
    refine ⟨h.discovery, fun other ho => h.queued other (hr other ho), .nil,
      fun _ _ => rfl, fun numbered hnum => ?_, h.noRequests⟩
    cases hnum
    refine ⟨hasm.version, hasm.protocol, rfl, hseq, hasm.discovery, ?_⟩
    rw [hasm.noResults]
    exact h.results
  · exact h

theorem WellFormed.sendBatch (ingest : IngestView) (probes : ProbeView) (lost : Bool) :
    WellFormed d (sendBatch d ingest probes lost s) := by
  unfold Delivery.sendBatch
  split
  · exact h
  · rename_i batch hb
    obtain ⟨hp, hfew⟩ := @telemetry_requests d.gatewayId
      (Sender.request d.zstdLen d.gatewayId batch) ingest s.collector h.noRequests
    dsimp only
    split
    · exact { h with noRequests := hp }
    · rename_i requests hrequests
      cases lost with
      | true => exact { h with noRequests := hp }
      | false =>
        refine ⟨h.discovery, h.queued, ?_, fun _ hn => (by cases hn),
          fun _ hn => (by cases hn), hp⟩
        show Probed (s.sender.probeResults ++ requests.map (execute probes))
        rw [h.handedOver batch hb, List.nil_append]
        refine ⟨by rw [List.length_map]; exact hfew requests hrequests, fun res hres favicon h => ?_⟩
        obtain ⟨req, -, rfl⟩ := List.mem_map.1 hres
        unfold execute at h
        split at h
        · cases h
          exact fewDigests_executeFavicon
        · cases h

theorem WellFormed.step (event : Event) : WellFormed d (Delivery.step d s event) := by
  cases event with
  | poll entries now policyIds view bootEpochMs => exact { h with }
  | observeDns observation => exact { h with }
  | discover observations =>
    refine { h with discovery := ?_ }
    have hbd := h.discovery
    show (s.agent.discover observations).discoveryObservations.length ≤ _
    rw [LoopState.discover, List.length_append, List.length_take]
    omega
  | submit sentAt devices health => exact h.submit sentAt devices health
  | take => exact h.takeNext
  | attempt ingest probes lost => exact h.sendBatch ingest probes lost

end Steps

/-- **The agent's guarantees** hold in every state of every run. -/
theorem wellFormed_run (es : List Event) : WellFormed d (run d es) :=
  List.foldlRecOn es (step d) (wellFormed_new d) fun _ h event _ => h.step event

/-! ### When a batch is accepted -/

/-- The limits of the collector that the agent does not know of: the clock is set, the flows are not
too many, and the batch and the request body are not too large. -/
structure Fits (d : Deployment) (batch : TelemetryBatch) : Prop where
  clock : batch.sentAt ≠ 0
  flows : batch.flows.length ≤ maxFlowsPerBatch
  decoded : { batch with gatewayId := d.gatewayId }.encodedLen ≤ maxDecodedBatchBytes
  body : (Sender.request d.zstdLen d.gatewayId batch).length ≤ maxBodyBytes

variable (zstdLen : TelemetryBatch → ℕ)

theorem request_batch (gatewayId : String) (batch : TelemetryBatch) :
    (Sender.request zstdLen gatewayId batch).batch = { batch with gatewayId := gatewayId } := by
  unfold Sender.request encodeTelemetryBatch
  split_ifs <;> rfl

variable {batch : TelemetryBatch} {d : Deployment}

theorem checkTelemetry_iff_fits (h : Numbered d batch) :
    checkTelemetry d.gatewayId (Sender.request d.zstdLen d.gatewayId batch) = .ok () ↔
      Fits d batch := by
  rw [checkTelemetry_ok, request_batch]
  simp only [checkBatch, validateBatchMetadata, seq_eq_ok, mapError_eq_ok, ensure_eq_ok,
    decide_eq_true_eq]
  constructor
  · rintro ⟨hbody, hdecoded, ⟨-, -, -, hck, -, -⟩, -, hfls, -, -⟩
    exact ⟨hck, hfls, hdecoded, hbody⟩
  · intro hfits
    have hver : batch.agentVersion ≠ "" := by
      rw [h.version]
      decide
    have hbt : batch.bootId ≠ "" := by
      rw [h.boot]
      exact d.bootId_ne
    exact ⟨hfits.body, hfits.decoded,
      ⟨d.gatewayId_ne, hbt, h.sequence, hfits.clock, hver, h.protocol⟩, trivial, hfits.flows,
      h.discovery, h.results.valid⟩

variable {s : System}

theorem sendBatch_inFlight (hb : s.sender.inFlight = some batch) (ingest : IngestView)
    (probes : ProbeView) :
    (sendBatch d ingest probes false s).sender.inFlight = none ↔
      checkTelemetry d.gatewayId (Sender.request d.zstdLen d.gatewayId batch) = .ok () := by
  rw [← @telemetry_ok_iff d.gatewayId _ ingest s.collector]
  unfold sendBatch
  split
  · grind
  · grind [Sender.accepted]

/-- **Progress of the sender.** In every run, the batch in flight is accepted exactly if it keeps
the collector's limits; everything else that the handler checks is always in order. -/
theorem attempt_moves_on_iff (d : Deployment) (events : List Event) (batch : TelemetryBatch)
    (hbatch : (run d events).sender.inFlight = some batch) (ingest : IngestView)
    (probes : ProbeView) :
    (step d (run d events) (.attempt ingest probes false)).sender.inFlight = none ↔
      Fits d batch := by
  rw [step, sendBatch_inFlight hbatch]
  exact checkTelemetry_iff_fits ((wellFormed_run d events).inFlight batch hbatch)

/-- **A refused batch stays in flight**, whatever happens. -/
theorem inFlight_of_not_fits (h : WellFormed d s) (hb : s.sender.inFlight = some batch)
    (hfits : ¬ Fits d batch) (event : Event) : (step d s event).sender.inFlight = some batch := by
  cases event with
  | poll entries now policyIds view bootEpochMs => exact hb
  | observeDns observation => exact hb
  | discover observations => exact hb
  | submit sentAt devices health => exact hb
  | take =>
    rw [step, takeNext, hb]
    exact hb
  | attempt ingest probes lost =>
    have href := mt (checkTelemetry_iff_fits (h.inFlight batch hb)).1 hfits
    rw [← @telemetry_ok_iff d.gatewayId _ ingest s.collector] at href
    grind [step, sendBatch]

/-! ### A poll of many flows -/

/-- An agent with the default buffer and timeouts. -/
def home : Deployment where
  gatewayId := "gateway-1"
  bootId := "boot-1"
  capacityBytes := 8 * 1024 * 1024
  tcpIdleTimeout := 120000000000
  udpIdleTimeout := 60000000000
  zstdLen
  gatewayId_ne := by decide
  bootId_ne := by decide

/-- Connections of one client to one server, each from a port of its own. -/
def connection (i : ℕ) : FlowKey × FlowCounters :=
  (⟨4, 6, 0, 1, 2, 0xC0A8010A#32 ++ (0 : BitVec 96), 0x5DB8D822#32 ++ (0 : BitVec 96),
      UInt16.ofNat (20000 + i), 443⟩,
    ⟨1, 60, 5000000000, 5000000000, 2⟩)

def forwardedUpload (key : FlowKey) : NormalizedFlow where
  clientAddr := .v4 (key.sourceAddress.extractLsb' 96 32)
  clientPort := key.sourcePort
  remoteAddr := .v4 (key.destinationAddress.extractLsb' 96 32)
  remotePort := key.destinationPort
  sourceSegment := none
  destinationSegment := none
  direction := .upload
  scope := .client
  pathType := .forwarded
  sourceNat := true
  destinationNat := false

def forwardedView : PollView where
  normalize _ key := some (forwardedUpload key)
  controllerEndpoints := []
  deviceMac _ := none
  tracksId _ := false
  observedAtMs _ := 1700000005000

/-- The first poll finds `count` connections; a batch is sent right after it. -/
def firstBatch (count : ℕ) : List Event :=
  [.poll ((List.range count).map connection) 5000000000 none forwardedView 1700000000000,
    .submit 1700000005000 [] [], .take]

def connectionRecord (i : ℕ) : Protocol.Telemetry.FlowDelta :=
  flowDelta (freshDelta none (connection i)) (forwardedUpload (connection i).1) none 1700000000000

variable {count : ℕ}

theorem nodup_connections (h : count ≤ 40000) :
    (((List.range count).map connection).map Prod.fst).Nodup := by
  rw [List.map_map]
  refine List.Nodup.map_on (fun i hi j hj hij => ?_) List.nodup_range
  have hpo : UInt16.ofNat (20000 + i) = UInt16.ofNat (20000 + j) :=
    congrArg FlowKey.sourcePort hij
  have hmod := congrArg UInt16.toNat hpo
  rw [UInt16.toNat_ofNat', UInt16.toNat_ofNat'] at hmod
  rw [List.mem_range] at hi hj
  omega

theorem deltaRecord_forwarded (bootEpochMs : ℕ) (delta : Agent.Polling.FlowDelta × ℕ) :
    deltaRecord forwardedView bootEpochMs delta =
      some (flowDelta { delta.1 with policyFlowId := none } (forwardedUpload delta.1.key) none
        bootEpochMs) := rfl

theorem pollRecords_connections :
    pollRecords forwardedView 1700000000000
        ⟨((List.range count).map connection).map (freshDelta none),
          ((List.range count).map connection).map (freshEvent none)⟩ =
      (List.range count).map connectionRecord := by
  have hevs : ∀ calls, (((List.range count).map connection).map (freshEvent none)).zipIdx.filterMap
      (lifecycleRecord forwardedView calls) = [] := by
    intro calls
    refine List.filterMap_eq_nil_iff.2 fun event hev => ?_
    obtain ⟨e, -, he⟩ := List.mem_map.1 (List.fst_mem_of_mem_zipIdx hev)
    rw [lifecycleRecord, ← he]
    rfl
  have hdeltas : ∀ deltas : List Agent.Polling.FlowDelta,
      deltas.zipIdx.filterMap (deltaRecord forwardedView 1700000000000) = deltas.map fun delta =>
        flowDelta { delta with policyFlowId := none } (forwardedUpload delta.key) none
          1700000000000 := by
    intro deltas
    rw [funext (deltaRecord_forwarded 1700000000000), List.filterMap_eq_map']
    nth_rewrite 2 [← List.zipIdx_map_fst 0 deltas]
    rw [List.map_map]
    rfl
  rw [pollRecords, hevs, hdeltas, List.append_nil, List.map_map, List.map_map]
  rfl

theorem encodedLen_connectionRecord (i : ℕ) : (connectionRecord i).encodedLen ≤ 100 := by
  have hba : ({ connectionRecord 0 with clientPort := 0 }).encodedLen ≤ 96 := by decide +kernel
  have hport : uintField 4 (UInt16.ofNat (20000 + i)).toNat ≤ 4 := by
    have hlen := @varintLen_le _ 15 (UInt16.ofNat (20000 + i)).toNat_lt
    have htag : tagLen 4 = 1 := by decide +kernel
    unfold uintField
    split_ifs <;> omega
  have hsp := FlowDelta.encodedLen_clientPort (connectionRecord 0)
    (UInt16.ofNat (20000 + i)).toNat
  have hrec : connectionRecord i =
      { connectionRecord 0 with clientPort := (UInt16.ofNat (20000 + i)).toNat } := rfl
  grind

theorem poll_connections {count : ℕ} (htcp : 0 < d.tcpIdleTimeout) (hudp : 0 < d.udpIdleTimeout)
    (hct : count ≤ 40000) :
    ((LoopState.new d.tcpIdleTimeout d.udpIdleTimeout).poll ((List.range count).map connection)
        5000000000 none forwardedView 1700000000000).pendingFlows =
      (List.range count).map connectionRecord := by
  have hup := @update_fresh none 5000000000 ⟨∅, d.tcpIdleTimeout, d.udpIdleTimeout⟩
    ((List.range count).map connection) rfl htcp hudp (nodup_connections hct) (by
      intro e he
      obtain ⟨i, -, rfl⟩ := List.mem_map.1 he
      exact Nat.one_ne_zero)
  rw [LoopState.poll, LoopState.new]
  rw [hup, pollRecords_connections]
  rfl

/-- The batch that the agent builds from the first poll. -/
def connectionBatch (count : ℕ) : TelemetryBatch :=
  { LoopState.assemble 1700000005000 [] [] (LoopState.new 1 1) with
    flows := (List.range count).map connectionRecord }

theorem encodedLen_connectionBatch (hct : count ≤ 40000) :
    (connectionBatch count).encodedLen ≤ 8 * 1024 * 1024 := by
  have hba : ({ connectionBatch 0 with flows := [] }).encodedLen ≤ 1000 := by decide +kernel
  have hfls : repeatedField 7 FlowDelta.encodedLen ((List.range count).map connectionRecord) ≤
      count * 102 := by
    have hlen := @repeatedField_le _ 7 100 FlowDelta.encodedLen
      ((List.range count).map connectionRecord) (by decide) (by decide) (by
        intro record hrec
        obtain ⟨i, -, rfl⟩ := List.mem_map.1 hrec
        exact encodedLen_connectionRecord i)
    rwa [List.length_map, List.length_range] at hlen
  have hsp := TelemetryBatch.encodedLen_flows (connectionBatch 0)
    ((List.range count).map connectionRecord)
  have hb : connectionBatch count =
      { connectionBatch 0 with flows := (List.range count).map connectionRecord } := rfl
  rw [hb, hsp]
  exact (Nat.add_le_add hba hfls).trans (by omega)

theorem sender_takeNext {rest : TelemetryBuffer} (hid : s.sender.inFlight = none)
    (hpop : s.buffer.pop = some (batch, rest)) :
    (takeNext d s).sender = s.sender.take d.bootId batch := by
  rw [takeNext, hid, hpop]

theorem inFlight_firstBatch (hct : count ≤ 40000) :
    (run (home zstdLen) (firstBatch count)).sender.inFlight =
      some { connectionBatch count with bootId := "boot-1", sequence := 1 } := by
  have htcp : 0 < (home zstdLen).tcpIdleTimeout := by
    show (0 : ℕ) < 120000000000
    decide
  have hudp : 0 < (home zstdLen).udpIdleTimeout := by
    show (0 : ℕ) < 60000000000
    decide
  have hpoll := @poll_connections (home zstdLen) count htcp hudp hct
  have hassemble : LoopState.assemble 1700000005000 [] []
      ((LoopState.new (home zstdLen).tcpIdleTimeout (home zstdLen).udpIdleTimeout).poll
        ((List.range count).map connection) 5000000000 none forwardedView 1700000000000) =
      connectionBatch count := by
    rw [LoopState.assemble, hpoll]
    rfl
  obtain ⟨rest, hpop⟩ := TelemetryBuffer.pop_push_new (encodedLen_connectionBatch hct)
  rw [← hassemble] at hpop
  have hsender : (run (home zstdLen) (firstBatch count)).sender = Sender.new.take "boot-1" _ :=
    sender_takeNext rfl hpop
  rw [hsender, hassemble]
  rfl

/-- A collector that knows nothing of the flows, and a network without web servers. -/
def newIngest : IngestView := ⟨false, [], fun _ => none, 1700000006000⟩

def silentNetwork : ProbeView where
  sha256 _ := ⟨List.replicate 32 0, rfl⟩
  observedAtMs _ := 1700000006000
  clientBuilds := true
  iconPaths _ _ := []
  fetch _ _ _ := none

/-- The batch of a poll with one connection fits and is accepted. -/
theorem one_connection_moves_on :
    Fits (home TelemetryBatch.encodedLen)
        { connectionBatch 1 with bootId := "boot-1", sequence := 1 } ∧
      (step (home TelemetryBatch.encodedLen)
        (run (home TelemetryBatch.encodedLen) (firstBatch 1))
        (.attempt newIngest silentNetwork false)).sender.inFlight = none := by
  have hfits : Fits (home TelemetryBatch.encodedLen)
      { connectionBatch 1 with bootId := "boot-1", sequence := 1 } :=
    ⟨by decide, by decide, by decide +kernel, by decide +kernel⟩
  exact ⟨hfits, (attempt_moves_on_iff _ (firstBatch 1) _
    (inFlight_firstBatch TelemetryBatch.encodedLen (show 1 ≤ 40000 by omega)) newIngest
    silentNetwork).2 hfits⟩

theorem not_fits_of_many (h : maxFlowsPerBatch < count) :
    ¬ Fits d { connectionBatch count with bootId := "boot-1", sequence := 1 } := by
  intro hfits
  have hfls : ((List.range count).map connectionRecord).length ≤ maxFlowsPerBatch := hfits.flows
  rw [List.length_map, List.length_range] at hfls
  exact absurd h (not_lt.2 hfls)

/-- More flows than a batch may have, and still far less than the flow map can hold. -/
def manyFlows : ℕ := maxFlowsPerBatch + 1

/-- **The sender stays with the first batch** of a poll that found more than ten thousand flows: no
later event ever moves it on. -/
theorem flood_never_moves_on :
    ¬ ∃ (zstdLen : TelemetryBatch → ℕ) (events : List Event),
      (run (home zstdLen) (firstBatch manyFlows ++ events)).sender.inFlight ≠
        some { connectionBatch manyFlows with bootId := "boot-1", sequence := 1 } := by
  rintro ⟨zstdLen, events, hmoved⟩
  apply hmoved
  have hmany : maxFlowsPerBatch < manyFlows := Nat.lt_succ_self _
  have hcount : manyFlows ≤ 40000 := by
    unfold manyFlows maxFlowsPerBatch
    omega
  rw [run, List.foldl_append]
  refine (List.foldlRecOn (motive := fun s => WellFormed (home zstdLen) s ∧ s.sender.inFlight = some _)
    events _ ⟨wellFormed_run _ _, inFlight_firstBatch zstdLen hcount⟩ fun s h event _ => ?_).2
  exact ⟨h.1.step event, inFlight_of_not_fits h.1 h.2 (not_fits_of_many hmany) event⟩

end Netqmon.Delivery
