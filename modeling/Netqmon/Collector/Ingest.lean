import Netqmon.Lib.Keyed
import Netqmon.Lib.RustNet
import Netqmon.Protocol.Telemetry

/-! # The collector's telemetry handler

A request is checked before its batch is taken in (`checkTelemetry`). For flows of unknown
applications the collector asks the agent to probe their endpoints (`schedule`); the requests wait
in the collector's state until the response to an accepted batch takes them
(`takeProbeRequests`). -/

namespace Netqmon.Collector.Ingest

open Lib.Checks Lib.Keyed Lib.RustNet Protocol.Telemetry

def maxBodyBytes : ℕ := 2 * 1024 * 1024
def maxFlowsPerBatch : ℕ := 10000
def maxDiscoveryObservationsPerBatch : ℕ := 10000
def maxProbeResultsPerBatch : ℕ := 64
def maxHashesPerFaviconResult : ℕ := 8
def maxProbeRequests : ℕ := 8
def u64Max : ℕ := 2 ^ 64 - 1

/-! ### Checks -/

/-- Status code and text of a refusal. -/
structure Refusal where
  status : ℕ
  message : String
deriving DecidableEq

def validFavicon (favicon : FaviconProbeResult) : Bool :=
  favicon.sha256.length ≤ maxHashesPerFaviconResult
    && favicon.sha256.all fun digest => digest.length = 32

def validProbeResults (results : List ProbeResult) : Bool :=
  results.length ≤ maxProbeResultsPerBatch && results.all fun result =>
    result.favicon.all validFavicon

/-- The checks of the handler on a decoded batch. -/
def checkBatch (identity : String) (batch : TelemetryBatch) : Except Refusal Unit := do
  (validateBatchMetadata batch).mapError fun error => ⟨422, error.message⟩
  ensure (batch.gatewayId = identity) ⟨403, "gateway_id does not match agent token"⟩
  ensure (batch.flows.length ≤ maxFlowsPerBatch) ⟨413, "too many flows in telemetry batch"⟩
  ensure (batch.deviceDiscoveryObservations.length ≤ maxDiscoveryObservationsPerBatch)
    ⟨413, "too many device discovery observations in telemetry batch"⟩
  ensure (validProbeResults batch.probeResults) ⟨413, "invalid probe results"⟩

/-- The checks of a request; a layer in front of the handler limits the body. -/
def checkTelemetry (identity : String) (request : EncodedTelemetryBatch) : Except Refusal Unit := do
  ensure (request.length ≤ maxBodyBytes) ⟨413, "length limit exceeded"⟩
  match decodeTelemetryBatch request with
  | .error .tooLarge => throw ⟨413, "decoded batch is too large"⟩
  | .ok batch => checkBatch identity batch

theorem mapError_eq_ok {ε ε' : Type} {x : Except ε Unit} {f : ε → ε'} {u : Unit} :
    x.mapError f = .ok u ↔ x = .ok () := by
  cases x <;> simp [Except.mapError]

variable {batch : TelemetryBatch} {identity : String} {request : EncodedTelemetryBatch}

theorem checkTelemetry_ok :
    checkTelemetry identity request = .ok () ↔
      request.length ≤ maxBodyBytes ∧ request.batch.encodedLen ≤ maxDecodedBatchBytes ∧
        checkBatch identity request.batch = .ok () := by
  simp only [checkTelemetry, seq_eq_ok, decodeTelemetryBatch]
  split_ifs with hlg
  · simp [not_le.2 hlg]
  · simp [not_lt.1 hlg]

/-! ### Probe requests -/

structure ServiceBindingKey where
  ip : IpAddr
  (protocol port : ℕ)
deriving DecidableEq

structure FaviconEndpointIdentity where
  applicationId : String
  expiresAt : ℕ

structure FaviconEndpointCache where
  identities : Rows ServiceBindingKey FaviconEndpointIdentity
  outstanding : Rows String (ServiceBindingKey × ℕ)
  lastRequested : Rows ServiceBindingKey ℕ
  (nextRequest ttlMs retryMs : ℕ)

def isPrivateEndpoint (ip : IpAddr) : Bool := ip.isLocal

namespace FaviconEndpointCache

def new : FaviconEndpointCache := ⟨∅, ∅, ∅, 0, 24 * 60 * 60 * 1000, 6 * 60 * 60 * 1000⟩

def expire (now : ℕ) (cache : FaviconEndpointCache) : FaviconEndpointCache :=
  let isOver := fun requested => decide (min (requested + cache.retryMs) u64Max ≤ now)
  { cache with
    identities := deleteWhere (fun _ identity => identity.expiresAt ≤ now) cache.identities
    outstanding := deleteWhere (fun _ row => isOver row.2) cache.outstanding
    lastRequested := deleteWhere (fun _ requested => isOver requested) cache.lastRequested }

variable (classify : Bytes → Option String)

/-- The one application that the digests of a result belong to. -/
def matchedApplication (favicon : FaviconProbeResult) : Option String :=
  match (favicon.sha256.filterMap classify).dedup with
  | [applicationId] => some applicationId
  | _ => none

def observeResult (now : ℕ) (cache : FaviconEndpointCache)
    (result : ProbeResult) : FaviconEndpointCache :=
  match cache.outstanding.lookup result.requestId with
  | none => cache
  | some (requestedKey, _) =>
    let cache := { cache with outstanding := cache.outstanding.erase result.requestId }
    match result.favicon, result.favicon.bind fun favicon => IpAddr.ofOctets favicon.targetIp with
    | some favicon, some ip =>
      let key : ServiceBindingKey := ⟨ip, 6, favicon.port⟩
      if 65535 < favicon.port || key ≠ requestedKey || result.status ≠ "ok" then cache
      else
        match matchedApplication classify favicon with
        | none => { cache with identities := cache.identities.erase key }
        | some applicationId =>
          { cache with
            identities := cache.identities.insert key
              ⟨applicationId, min (now + cache.ttlMs) u64Max⟩ }
    | _, _ => cache

def observeResults (now : ℕ) (batch : TelemetryBatch)
    (cache : FaviconEndpointCache) : FaviconEndpointCache :=
  batch.probeResults.foldl (observeResult classify now) (cache.expire now)

/-- An endpoint that is known, or for which a request was made not long ago. -/
def isSettled (now : ℕ) (key : ServiceBindingKey) (cache : FaviconEndpointCache) : Bool :=
  (cache.identities.lookup key).isSome || anyRow (fun _ row => row.1 = key) cache.outstanding
    || (cache.lastRequested.lookup key).any fun last => now < min (last + cache.retryMs) u64Max

/-- A flow with the application it was classified to. -/
def scheduleFlow (sequence now : ℕ) (acc : FaviconEndpointCache × List ProbeRequest)
    (flow : FlowDelta × String) : FaviconEndpointCache × List ProbeRequest :=
  if maxProbeRequests ≤ acc.2.length || flow.1.protocol ≠ 6 || flow.2 ≠ "unknown" then acc
  else
    match (IpAddr.ofOctets flow.1.remoteIp).filter isPrivateEndpoint with
    | none => acc
    | some ip =>
      let key : ServiceBindingKey := ⟨ip, 6, flow.1.remotePort⟩
      if 65535 < flow.1.remotePort || flow.1.remotePort = 0 || acc.1.isSettled now key then acc
      else
        let next := min (acc.1.nextRequest + 1) u64Max
        let requestId := toString sequence ++ "-" ++ toString next
        ({ acc.1 with
            nextRequest := next
            outstanding := acc.1.outstanding.insert requestId (key, now)
            lastRequested := acc.1.lastRequested.insert key now },
          acc.2 ++ [⟨requestId, some ⟨flow.1.remoteIp, flow.1.remotePort⟩⟩])

def schedule (batch : TelemetryBatch) (applications : List String) (now : ℕ)
    (cache : FaviconEndpointCache) : FaviconEndpointCache × List ProbeRequest :=
  (batch.flows.zip applications).foldl (scheduleFlow batch.sequence now) (cache.expire now, [])

theorem length_schedule (applications : List String) (now : ℕ) (cache : FaviconEndpointCache) :
    (cache.schedule batch applications now).2.length ≤ maxProbeRequests := by
  refine List.foldlRecOn _ _ (motive := fun acc : FaviconEndpointCache × List ProbeRequest =>
    acc.2.length ≤ maxProbeRequests) (Nat.zero_le _) fun _ h flow _ => ?_
  unfold scheduleFlow
  split_ifs with hskip
  · exact h
  · split
    · exact h
    · dsimp only
      split_ifs
      · exact h
      · grind

end FaviconEndpointCache

/-! ### The handler -/

/-- The part of the collector's state that decides on probe requests. -/
structure CollectorInner where
  faviconEndpoints : FaviconEndpointCache
  pendingProbeRequests : List ProbeRequest

/-- What storage and classifier, both working, answer for a batch. -/
structure IngestView where
  /-- The batch was persisted before. -/
  duplicate : Bool
  applications : List String
  classify : Bytes → Option String
  unixTimeMs : ℕ

def observedAt (view : IngestView) (batch : TelemetryBatch) : ℕ :=
  if batch.sentAt = 0 then view.unixTimeMs else batch.sentAt

/-- Probe results are read before the batch turns out to be a duplicate. -/
def acceptBatch (view : IngestView) (batch : TelemetryBatch) (inner : CollectorInner) :
    CollectorInner :=
  let now := observedAt view batch
  let cache := inner.faviconEndpoints.observeResults view.classify now batch
  if view.duplicate then { inner with faviconEndpoints := cache }
  else
    let scheduled := cache.schedule batch view.applications now
    ⟨scheduled.1, inner.pendingProbeRequests ++ scheduled.2⟩

def takeProbeRequests (inner : CollectorInner) : CollectorInner × List ProbeRequest :=
  ({ inner with pendingProbeRequests := [] }, inner.pendingProbeRequests)

/-- Only the response to a batch that is new takes the requests that wait. -/
def telemetry (identity : String) (view : IngestView) (request : EncodedTelemetryBatch)
    (inner : CollectorInner) : CollectorInner × Except Refusal (List ProbeRequest) :=
  match checkTelemetry identity request with
  | .error refusal => (inner, .error refusal)
  | .ok () =>
    let accepted := acceptBatch view request.batch inner
    if view.duplicate then (accepted, .ok [])
    else
      let taken := takeProbeRequests accepted
      (taken.1, .ok taken.2)

variable {view : IngestView} {inner : CollectorInner}

/-- A request is answered exactly if it passes the checks. -/
theorem telemetry_ok_iff :
    (∃ requests, (telemetry identity view request inner).2 = .ok requests) ↔
      checkTelemetry identity request = .ok () := by
  unfold telemetry
  split
  · grind
  · rename_i hpassed
    rw [hpassed]
    split_ifs <;> simp

/-- No request waits between two calls of the handler, so a response has at most eight. -/
theorem telemetry_requests (h : inner.pendingProbeRequests = []) :
    (telemetry identity view request inner).1.pendingProbeRequests = [] ∧
      ∀ requests, (telemetry identity view request inner).2 = .ok requests →
        requests.length ≤ maxProbeRequests := by
  unfold telemetry
  split
  · exact ⟨h, fun _ hok => by cases hok⟩
  · by_cases hdup : view.duplicate = true
    · grind [acceptBatch]
    · grind [takeProbeRequests, acceptBatch, FaviconEndpointCache.length_schedule]

end Netqmon.Collector.Ingest
