import Netqmon.Collector.Policy.Evaluator
import Netqmon.Collector.Policy.Service

/-! # Agent sessions in the policy database

Every agent session has an identity: the epoch of the collector process and a number that grows with
every session of the process. The row of a gateway in `policy_deployments` carries the identity of the
session that owns it. A session with a larger number, or of another process, takes the row over
(`markAgentConnected`); all other writes of a session go through only as long as the row is its own. -/

namespace Netqmon.Collector.Policy.Sessions

open Lib.Checks Lib.Keyed Protocol.Policy Evaluator Service
open Validation (sampleEpoch)

/-! ### Statements -/

structure SessionIdentity where
  connectionEpoch : String
  connectionId : ℕ
deriving DecidableEq

inductive SessionWrite
  | applied
  | superseded
deriving DecidableEq

def i64Max : ℕ := 2 ^ 63 - 1

/-- A number as it is stored. -/
def toI64 (value : ℕ) : ℕ := min value i64Max

/-- A number that is stored only if it fits. -/
def sqlCount (value : Option ℕ) : Option ℕ := value.filter (· ≤ i64Max)

/-- The row belongs to the session. -/
def isOwnedBy (session : SessionIdentity) (row : Deployment) : Bool :=
  row.agentConnectionEpoch == some session.connectionEpoch
    && row.agentConnectionId == toI64 session.connectionId

variable (gatewayId : String)

/-- An update of the row of a gateway, if it meets a condition. -/
def updateDeployment (guard : Deployment → Bool)
    (change : Deployment → Deployment) (t : Tables) : SessionWrite × Tables :=
  (if (t.deployments.lookup gatewayId).any guard then .applied else .superseded,
    { t with
      deployments := updateWhere (fun gateway row => gateway == gatewayId && guard row)
        (fun _ row => change row) t.deployments })

/-! ### Writes of a session -/

variable (session : SessionIdentity)

/-- Sessions of a process only take over from earlier ones. -/
def markAgentConnected (t : Tables) : SessionWrite × Tables :=
  updateDeployment gatewayId
    (fun row => row.agentConnectionEpoch != some session.connectionEpoch
      || row.agentConnectionId ≤ toI64 session.connectionId)
    (fun row =>
      { row with
        agentConnected := true
        capabilities :=
          if isOwnedBy session row then row.capabilities
          else row.capabilities.map ({ · with clientTotalLimit := none })
        agentConnectionEpoch := some session.connectionEpoch
        agentConnectionId := toI64 session.connectionId
        deliveredRevision := 0
        deliveredAtMs := none
        status := if row.reportedRevision < row.desiredRevision then .pending else row.status })
    (ensureGateway gatewayId t)

def recordDelivery (revision : ℕ) (deliveredAtMs : ℤ) (t : Tables) : SessionWrite × Tables :=
  updateDeployment gatewayId
    (fun row => isOwnedBy session row && row.deliveredRevision ≤ toI64 revision)
    (fun row =>
      { row with deliveredRevision := toI64 revision, deliveredAtMs := some deliveredAtMs })
    (ensureGateway gatewayId t)

def markAgentDisconnected (t : Tables) : Tables :=
  (updateDeployment gatewayId (isOwnedBy session)
    (fun row =>
      { row with
        agentConnected := false
        status := if row.desiredRevision = 0 then .notDeployed else .offline }) t).2

/-- The error code and message of a health report. -/
def healthError (agentRevision desiredRevision : ℕ) (emergencyDisabled : Bool) :
    Option (String × String) :=
  if desiredRevision < agentRevision then
    some ("revision_rollback_detected", "agent has a persisted policy revision newer than the " ++
      "Collector database; explicitly republish policies")
  else if emergencyDisabled then
    some ("emergency_disabled", "policies are locally disabled by the emergency marker")
  else none

def recordHealth (bootId controllerEpoch : String)
    (agentRevision : ℕ) (capabilities : PolicyCapabilities) (emergencyDisabled : Bool)
    (reportedAtMs : ℤ) (t : Tables) : SessionWrite × Tables :=
  let t := ensureGateway gatewayId t
  let error := healthError agentRevision (readRevision t gatewayId) emergencyDisabled
  updateDeployment gatewayId (isOwnedBy session)
    (fun row =>
      let sameEpoch := row.controllerEpoch == some controllerEpoch
      let sameBoot := sameEpoch && row.agentBootId == some bootId
      { row with
        agentConnected := true
        agentBootId := some bootId
        controllerEpoch := some controllerEpoch
        bundleGeneration := if sameEpoch then row.bundleGeneration else 0
        bundleChecksum := if sameEpoch then row.bundleChecksum else none
        reportedRevision := if sameBoot then row.reportedRevision else 0
        acknowledgedStatus := if sameBoot then row.acknowledgedStatus else none
        agentAppliedRevision := max row.agentAppliedRevision (toI64 agentRevision)
        capabilities :=
          if sameBoot && toI64 agentRevision < row.reportedRevision then row.capabilities
          else some capabilities
        lastHeartbeatAtMs := some reportedAtMs
        lastErrorCode := error.map (·.1)
        lastErrorMessage := error.map (·.2)
        status :=
          if error.isSome then .failed
          else if !sameBoot && 0 < row.desiredRevision then .pending
          else if row.reportedRevision < row.desiredRevision then .pending
          else row.status })
    t

/-- What an agent acknowledges. -/
structure AckReport where
  (bootId controllerEpoch : String)
  (configRevision bundleGeneration : ℕ)
  checksum : String
  status : PolicyAckStatus
  capabilities : PolicyCapabilities
  results : List PolicyResult
  reportedAtMs : ℤ

/-- The acknowledgement is of another session or of an older snapshot. -/
def isOutdated (ack : AckReport) (row : Deployment) : Bool :=
  row.agentConnectionEpoch != some session.connectionEpoch
    || row.agentConnectionId != session.connectionId
    || ack.configRevision < row.agentAppliedRevision
    || (row.controllerEpoch == some ack.controllerEpoch
      && ack.bundleGeneration < row.bundleGeneration)

variable (ack : AckReport)

def ackStatus (desiredRevision : ℕ) : DeploymentStatus :=
  match ack.status with
  | .applied => if ack.configRevision = desiredRevision then .applied else .pending
  | .partially => .partially
  | .failed => .failed
  | .unsupported => .unsupported

/-- The first result that failed for a reason. -/
def ackError : Option PolicyResult :=
  ack.results.find? fun result => result.reasonCode.isSome && result.status == .failed

def applyAck (desiredRevision : ℕ) (row : Deployment) : Deployment :=
  { row with
    agentConnected := true
    agentBootId := some ack.bootId
    controllerEpoch := some ack.controllerEpoch
    bundleGeneration := toI64 ack.bundleGeneration
    bundleChecksum := some ack.checksum
    reportedRevision := toI64 ack.configRevision
    acknowledgedStatus := some ack.status
    agentAppliedRevision :=
      if ack.status = .applied ∨ ack.status = .partially then
        max row.agentAppliedRevision (toI64 ack.configRevision)
      else row.agentAppliedRevision
    appliedRevision :=
      if ack.status = .applied ∧ row.appliedRevision ≤ toI64 ack.configRevision then
        toI64 ack.configRevision
      else row.appliedRevision
    policyResults := ack.results
    capabilities := some ack.capabilities
    lastReportedAtMs := some ack.reportedAtMs
    lastHeartbeatAtMs := some ack.reportedAtMs
    lastErrorCode := (ackError ack).bind (·.reasonCode)
    lastErrorMessage := (ackError ack).bind (·.message)
    status := ackStatus ack desiredRevision }

/-- The policies that are in force according to the results. -/
def inForce (results : List PolicyResult) : List String :=
  (results.filter fun result => result.status == .applied || result.status == .degraded).map
    (·.policyId)

variable (session : SessionIdentity)

def recordAck (ack : AckReport) (t : Tables) : Except PolicyFailure (SessionWrite × Tables) :=
  let t := ensureGateway gatewayId t
  match t.deployments.lookup gatewayId with
  | none => .error (.store "Query returned no rows")
  | some row =>
    if isOutdated session ack row then .ok (.superseded, t)
    else
      match updateDeployment gatewayId (isOwnedBy session)
          (applyAck ack (readRevision t gatewayId)) t with
      | (.superseded, t) => .ok (.superseded, t)
      | (.applied, t) =>
        .ok (.applied,
          if ack.status = .applied ∨ ack.status = .partially then
            { t with
              metrics := deleteWhere (fun key _ => key.gatewayId == gatewayId
                && !(inForce ack.results).contains key.policyId) t.metrics }
          else t)

/-- The database and what the service remembers beside it: when metrics were last pruned. -/
structure PolicyService where
  tables : Tables
  lastMetricsPruneMs : Rows String ℤ

def directionMetrics (metrics : Option PolicyDirectionMetrics) : DirectionMetrics where
  interface := metrics.map (·.interface)
  bytes := metrics.bind (sqlCount ·.bytes)
  packets := metrics.bind (sqlCount ·.packets)
  drops := metrics.bind (sqlCount ·.drops)
  overlimits := metrics.bind (sqlCount ·.overlimits)

/-- A sample replaces an earlier one. -/
def insertMetrics (sampledAtMs : ℤ) (rows : Rows MetricsKey ClientMetrics)
    (metric : PolicyClientMetrics) : Rows MetricsKey ClientMetrics :=
  let sample : ClientMetrics :=
    ⟨directionMetrics metric.upload, directionMetrics metric.download, sampledAtMs⟩
  upsert rows ⟨gatewayId, metric.policyId, metric.mac⟩ sample fun old =>
    if old.sampledAtMs ≤ sampledAtMs then sample else old

/-- The constraints of the metrics table. -/
def checkMetrics (sampledAtMs : ℤ) (metrics : List PolicyClientMetrics) :
    Except PolicyFailure Unit :=
  ensure (metrics.all fun metric => metric.mac.toList.length == 17 && decide (0 ≤ sampledAtMs))
    (.store "CHECK constraint failed")

def metricsTtlMs : ℤ := 24 * 60 * 60 * 1000

/-- Metrics are pruned once a minute, and when old ones come in. -/
def recordMetrics (bootId : String)
    (sampledAtMs : ℤ) (metrics : List PolicyClientMetrics) (nowMs : ℤ) (service : PolicyService) :
    Except PolicyFailure (SessionWrite × PolicyService) :=
  let t := ensureGateway gatewayId service.tables
  match t.deployments.lookup gatewayId with
  | none => .error (.store "Query returned no rows")
  | some row =>
    if !row.agentConnected || row.agentBootId != some bootId
        || row.agentConnectionEpoch != some session.connectionEpoch
        || row.agentConnectionId != session.connectionId
        || decide (saturatingAdd nowMs 30000 < sampledAtMs) then
      .ok (.superseded, { service with tables := t })
    else do
      checkMetrics sampledAtMs metrics
      let stored := metrics.foldl (insertMetrics gatewayId sampledAtMs) t.metrics
      let cutoffMs := saturatingAdd nowMs (-metricsTtlMs)
      let isDue := (service.lastMetricsPruneMs.lookup gatewayId).all fun last =>
        60000 ≤ saturatingAdd nowMs (-last)
      let pruned := deleteWhere (fun key row => key.gatewayId == gatewayId
        && decide (row.sampledAtMs < cutoffMs)) stored
      return (.applied,
        { tables := { t with metrics := if sampledAtMs < cutoffMs ∨ isDue then pruned else stored }
          lastMetricsPruneMs :=
            if ¬ sampledAtMs < cutoffMs ∧ isDue then service.lastMetricsPruneMs.insert gatewayId nowMs
            else service.lastMetricsPruneMs })

/-! ### Runs -/

inductive SessionOp
  | connected
  | delivery (revision : ℕ) (deliveredAtMs : ℤ)
  | health (bootId controllerEpoch : String) (agentRevision : ℕ)
      (capabilities : PolicyCapabilities) (emergencyDisabled : Bool) (reportedAtMs : ℤ)
  | ack (ack : AckReport)
  | metrics (bootId : String) (sampledAtMs : ℤ) (metrics : List PolicyClientMetrics) (nowMs : ℤ)
  | disconnected

structure SessionCall where
  gatewayId : String
  session : SessionIdentity
  op : SessionOp

/-- A call of a session; one that fails is rolled back. -/
def sessionStep (service : PolicyService) (call : SessionCall) : PolicyService :=
  let t := service.tables
  match call.op with
  | .connected => { service with tables := (markAgentConnected call.gatewayId call.session t).2 }
  | .delivery revision deliveredAtMs =>
    { service with
      tables := (recordDelivery call.gatewayId call.session revision deliveredAtMs t).2 }
  | .health bootId controllerEpoch agentRevision capabilities emergencyDisabled reportedAtMs =>
    { service with
      tables := (recordHealth call.gatewayId call.session bootId controllerEpoch agentRevision
        capabilities emergencyDisabled reportedAtMs t).2 }
  | .ack ack =>
    match recordAck call.gatewayId call.session ack t with
    | .error _ => service
    | .ok result => { service with tables := result.2 }
  | .metrics bootId sampledAtMs metrics nowMs =>
    match recordMetrics call.gatewayId call.session bootId sampledAtMs metrics nowMs service with
    | .error _ => service
    | .ok result => result.2
  | .disconnected => { service with tables := markAgentDisconnected call.gatewayId call.session t }

/-- What happens to the database of a collector process. -/
inductive Event
  | session (call : SessionCall)
  | mutation (call : Call)
  | republish (nowMs : ℤ) (gatewayId actorUserId : String)

def step (library : Library) (service : PolicyService) : Event → PolicyService
  | .session call => sessionStep service call
  | .mutation call => { service with tables := Service.step library service.tables call }
  | .republish nowMs gatewayId actorUserId =>
    match Service.republish nowMs gatewayId actorUserId service.tables with
    | .error _ => service
    | .ok result => { service with tables := result.2 }

def run (library : Library) (service : PolicyService) (events : List Event) : PolicyService :=
  events.foldl (step library) service

/-- All sessions are of one collector process. -/
def ofProcess (connectionEpoch : String) : Event → Prop
  | .session call => call.session.connectionEpoch = connectionEpoch
  | _ => True

/-! ### Fences -/

/-- The row of the gateway belongs to a session of the process with this number or a larger one. -/
def Fenced (connectionEpoch : String) (number : ℕ) (t : Tables) : Prop :=
  ∃ row, t.deployments.lookup gatewayId = some row ∧
    row.agentConnectionEpoch = some connectionEpoch ∧ number ≤ row.agentConnectionId

section Fences

variable {gatewayId other connectionEpoch : String} {number : ℕ} {t : Tables}

section

variable (h : Fenced gatewayId connectionEpoch number t)
include h

theorem Fenced.ensureGateway : Fenced gatewayId connectionEpoch number (ensureGateway other t) := by
  obtain ⟨row, hrow, hep, hnum⟩ := h
  refine ⟨row, ?_, hep, hnum⟩
  change (upsert t.deployments other .default id).lookup gatewayId = some row
  rw [lookup_upsert]
  split_ifs with heq
  · rw [← heq, hrow]
    rfl
  · exact hrow

theorem Fenced.update {t' : Tables}
    (p : String → Deployment → Bool) (change : Deployment → Deployment)
    (hdeps : t'.deployments = updateWhere p (fun _ row => change row) t.deployments)
    (hch : ∀ row, p gatewayId row = true → row.agentConnectionEpoch = some connectionEpoch →
      number ≤ row.agentConnectionId → (change row).agentConnectionEpoch = some connectionEpoch ∧
        number ≤ (change row).agentConnectionId) : Fenced gatewayId connectionEpoch number t' := by
  obtain ⟨row, hrow, hep, hnum⟩ := h
  unfold Fenced
  rw [hdeps, lookup_updateWhere, hrow]
  cases hp : p gatewayId row with
  | true => exact ⟨change row, by simp [hp], hch row hp hep hnum⟩
  | false => exact ⟨row, by simp [hp], hep, hnum⟩

theorem Fenced.updateDeployment (guard : Deployment → Bool) (change : Deployment → Deployment)
    (hch : ∀ row, guard row = true → row.agentConnectionEpoch = some connectionEpoch →
      number ≤ row.agentConnectionId → (change row).agentConnectionEpoch = some connectionEpoch ∧
        number ≤ (change row).agentConnectionId) :
    Fenced gatewayId connectionEpoch number (updateDeployment other guard change t).2 :=
  h.update (fun gateway row => gateway == other && guard row) change rfl fun row hrow =>
    hch row (Bool.and_eq_true_iff.1 hrow).2

theorem Fenced.markAgentConnected (id : ℕ) :
    Fenced gatewayId connectionEpoch number
      (markAgentConnected other ⟨connectionEpoch, id⟩ t).2 := by
  refine h.ensureGateway.updateDeployment _ _ fun row hrow hep hnum => ⟨rfl, ?_⟩
  simp only [hep, bne_self_eq_false, Bool.false_or, decide_eq_true_eq] at hrow
  exact hnum.trans hrow

variable (session : SessionIdentity)

theorem Fenced.recordDelivery (rev : ℕ) (deliveredAtMs : ℤ) :
    Fenced gatewayId connectionEpoch number
      (recordDelivery other session rev deliveredAtMs t).2 :=
  h.ensureGateway.updateDeployment _ _ fun _ _ hep hnum => ⟨hep, hnum⟩

theorem Fenced.recordHealth (bootId epoch : String) (agentRevision : ℕ)
    (caps : PolicyCapabilities) (emergencyDisabled : Bool) (reportedAtMs : ℤ) :
    Fenced gatewayId connectionEpoch number (recordHealth other session bootId epoch
      agentRevision caps emergencyDisabled reportedAtMs t).2 :=
  h.ensureGateway.updateDeployment _ _ fun _ _ hep hnum => ⟨hep, hnum⟩

theorem Fenced.markAgentDisconnected :
    Fenced gatewayId connectionEpoch number (markAgentDisconnected other session t) :=
  h.updateDeployment _ _ fun _ _ hep hnum => ⟨hep, hnum⟩

end

variable {session : SessionIdentity} {ack : AckReport}

theorem recordAck_cases {result : SessionWrite × Tables}
    (h : recordAck gatewayId session ack t = .ok result) :
    result.2 = ensureGateway gatewayId t ∨
      ∃ row, (ensureGateway gatewayId t).deployments.lookup gatewayId = some row ∧
        isOutdated session ack row = false ∧
        result.2.deployments = updateWhere
          (fun gateway row => gateway == gatewayId && isOwnedBy session row)
          (fun _ row => applyAck ack (readRevision (ensureGateway gatewayId t) gatewayId) row)
          (ensureGateway gatewayId t).deployments := by
  unfold recordAck at h
  dsimp only at h
  cases hrow : (ensureGateway gatewayId t).deployments.lookup gatewayId with
  | none => simp [hrow] at h
  | some row =>
    rw [hrow] at h
    dsimp only at h
    by_cases houtdated : isOutdated session ack row = true
    · grind
    · rw [if_neg houtdated] at h
      refine .inr ⟨row, rfl, by simpa using houtdated, ?_⟩
      split at h
      · rename_i hup
        cases h
        exact (congrArg (fun write : SessionWrite × Tables => write.2.deployments) hup).symm
      · rename_i hup
        cases h
        refine Eq.trans ?_
          (congrArg (fun write : SessionWrite × Tables => write.2.deployments) hup).symm
        split_ifs <;> rfl

variable {result : SessionWrite × PolicyService} {metrics : List PolicyClientMetrics}
  {service : PolicyService} {sampledAtMs nowMs : ℤ} {bootId : String}

theorem recordMetrics_cases
    (h : recordMetrics gatewayId session bootId sampledAtMs metrics nowMs service = .ok result) :
    result.2.tables.deployments = (ensureGateway gatewayId service.tables).deployments ∧
      (result.2.tables.metrics = service.tables.metrics ∨
        ∃ row, (ensureGateway gatewayId service.tables).deployments.lookup gatewayId = some row ∧
          row.agentConnectionEpoch = some session.connectionEpoch ∧
            row.agentConnectionId = session.connectionId) := by
  unfold recordMetrics at h
  dsimp only at h
  cases hrow : (ensureGateway gatewayId service.tables).deployments.lookup gatewayId with
  | none => simp [hrow] at h
  | some row =>
    rw [hrow] at h
    dsimp only at h
    split at h
    · cases h
      exact ⟨rfl, .inl rfl⟩
    · rename_i href
      simp only [Bool.or_eq_true, not_or, bne_iff_ne, not_not] at href
      obtain ⟨-, h⟩ := seq_eq_ok.1 h
      cases h
      exact ⟨rfl, .inr ⟨row, rfl, href.1.1.2, href.1.2⟩⟩

theorem Fenced.recordAck (h : Fenced gatewayId connectionEpoch number t)
    {result : SessionWrite × Tables} (hres : recordAck other session ack t = .ok result) :
    Fenced gatewayId connectionEpoch number result.2 := by
  rcases recordAck_cases hres with heq | ⟨row, -, -, hdeps⟩
  · rw [heq]
    exact h.ensureGateway
  · exact h.ensureGateway.update _ _ hdeps fun _ _ hep hnum => ⟨hep, hnum⟩

theorem Fenced.recordMetrics (h : Fenced gatewayId connectionEpoch number service.tables)
    (hres : recordMetrics other session bootId sampledAtMs metrics nowMs service = .ok result) :
    Fenced gatewayId connectionEpoch number result.2.tables := by
  obtain ⟨row, hrow, hr⟩ := @Fenced.ensureGateway _ other _ _ _ h
  rw [← (recordMetrics_cases hres).1] at hrow
  exact ⟨row, hrow, hr⟩

/-- A session of the process leaves the fence where it is or moves it on. -/
theorem Fenced.sessionStep
    (h : Fenced gatewayId connectionEpoch number service.tables) {call : SessionCall}
    (hc : call.session.connectionEpoch = connectionEpoch) :
    Fenced gatewayId connectionEpoch number (sessionStep service call).tables := by
  obtain ⟨other, ⟨epoch, id⟩, op⟩ := call
  subst hc
  cases op with
  | connected => exact h.markAgentConnected id
  | delivery rev deliveredAtMs => exact h.recordDelivery _ rev deliveredAtMs
  | health bootId controllerEpoch agentRevision caps emergencyDisabled reportedAtMs =>
    exact h.recordHealth _ bootId controllerEpoch agentRevision caps emergencyDisabled
      reportedAtMs
  | disconnected => exact h.markAgentDisconnected _
  | ack ack =>
    unfold Sessions.sessionStep
    dsimp only
    split
    · exact h
    · rename_i result hres
      exact h.recordAck hres
  | metrics bootId sampledAtMs metrics nowMs =>
    unfold Sessions.sessionStep
    dsimp only
    split
    · exact h
    · rename_i result hres
      exact h.recordMetrics hres

theorem Fenced.setRevision (h : Fenced gatewayId connectionEpoch number t) (rev : ℕ) :
    Fenced gatewayId connectionEpoch number (setRevision other rev t) :=
  h.update (fun gateway _ => gateway == other) (Deployment.awaiting rev) rfl
    fun _ _ hep hnum => ⟨hep, hnum⟩

variable {library : Library}

theorem Fenced.step (h : Fenced gatewayId connectionEpoch number service.tables) {event : Event}
    (hev : ofProcess connectionEpoch event) :
    Fenced gatewayId connectionEpoch number (step library service event).tables := by
  cases event with
  | session call => exact h.sessionStep hev
  | mutation call =>
    unfold Sessions.step Service.step
    dsimp only
    split
    · exact h
    · rename_i result hres
      rcases (perform_spec hres).2 with heq | ⟨event, hrev⟩
      · rw [heq]
        exact h
      · obtain ⟨t₀, t₁, hba, hbu, heq⟩ := hrev.bumped
        have hba : Fenced gatewayId connectionEpoch number t₀ := by
          rcases hba with rfl | ⟨rfl, -⟩
          · exact h.ensureGateway
          · exact h
        rw [heq, (bumpRevision_eq_ok hbu).2]
        exact hba.setRevision event.revision
  | republish nowMs other actorUserId =>
    unfold Sessions.step
    dsimp only
    split
    · exact h
    · rename_i result hres
      obtain ⟨-, event, -, heq⟩ := republish_eq_ok hres
      rw [heq]
      exact h.ensureGateway.setRevision result.1

theorem Fenced.run : ∀ {es : List Event} {service : PolicyService},
    Fenced gatewayId connectionEpoch number service.tables →
      (∀ event ∈ es, ofProcess connectionEpoch event) →
        Fenced gatewayId connectionEpoch number (run library service es).tables
  | [], _, h, _ => h
  | event :: es, service, h, hevs => by
    obtain ⟨hev, hevs⟩ := List.forall_mem_cons.1 hevs
    exact (h.step hev).run hevs

/-- The session that takes the row over sets the fence. -/
theorem fenced_markAgentConnected (h : (markAgentConnected gatewayId session t).1 = .applied) :
    Fenced gatewayId session.connectionEpoch (toI64 session.connectionId)
      (markAgentConnected gatewayId session t).2 := by
  unfold markAgentConnected updateDeployment at h
  split_ifs at h with hguard
  obtain ⟨row, hrow, hguard⟩ := (Option.any_eq_true _ _).1 hguard
  unfold Fenced markAgentConnected updateDeployment
  dsimp only
  rw [lookup_updateWhere, hrow]
  rw [Option.map_some, if_pos (by rw [beq_self_eq_true, hguard]; rfl)]
  exact ⟨_, rfl, rfl, le_refl _⟩

/-! ### Behind the fence -/

theorem lookup_ensureGateway (h : Fenced gatewayId connectionEpoch number t) :
    (ensureGateway gatewayId t).deployments.lookup gatewayId = t.deployments.lookup gatewayId := by
  obtain ⟨row, hrow, -⟩ := h
  change (upsert t.deployments gatewayId .default id).lookup gatewayId = _
  rw [lookup_upsert, if_pos rfl, hrow]
  rfl

theorem lookup_updateDeployment {guard : Deployment → Bool} {change : Deployment → Deployment}
    (h : ∀ row, t.deployments.lookup gatewayId = some row → guard row = false) :
    (updateDeployment gatewayId guard change t).2.deployments.lookup gatewayId =
      t.deployments.lookup gatewayId := by
  unfold updateDeployment
  rw [lookup_updateWhere]
  cases hrow : t.deployments.lookup gatewayId with
  | none => rfl
  | some row => simp [h row hrow]

theorem Fenced.ne_of_lookup (h : Fenced gatewayId session.connectionEpoch number t)
    (hnum : session.connectionId < number) {row : Deployment}
    (hrow : t.deployments.lookup gatewayId = some row) :
    row.agentConnectionEpoch = some session.connectionEpoch ∧
      session.connectionId < row.agentConnectionId := by
  obtain ⟨row', hrow', hep, hle⟩ := h
  rw [hrow'] at hrow
  cases hrow
  exact ⟨hep, hnum.trans_le hle⟩

/-- What a session that has been superseded does to the rows of the gateway. -/
theorem Fenced.inert (session : SessionIdentity)
    (h : Fenced gatewayId session.connectionEpoch number service.tables)
    (hnum : session.connectionId < number) (op : SessionOp) :
    (Sessions.sessionStep service ⟨gatewayId, session, op⟩).tables.deployments.lookup gatewayId =
        service.tables.deployments.lookup gatewayId ∧
      (Sessions.sessionStep service ⟨gatewayId, session, op⟩).tables.metrics =
        service.tables.metrics := by
  have hsm : toI64 session.connectionId ≤ session.connectionId := min_le_left _ _
  have hens := lookup_ensureGateway h
  have hfor : ∀ row, service.tables.deployments.lookup gatewayId = some row →
      isOwnedBy session row = false := by
    intro row hrow
    have hlt := (h.ne_of_lookup hnum hrow).2
    have hne : row.agentConnectionId ≠ toI64 session.connectionId := by omega
    simp [isOwnedBy, hne]
  have hforeign' : ∀ row, (Service.ensureGateway gatewayId service.tables).deployments.lookup
      gatewayId = some row → isOwnedBy session row = false := by
    rwa [hens]
  cases op with
  | connected =>
    refine ⟨(lookup_updateDeployment fun row hrow => ?_).trans hens, rfl⟩
    rw [hens] at hrow
    obtain ⟨hep, hlt⟩ := h.ne_of_lookup hnum hrow
    simp only [hep, bne_self_eq_false, Bool.false_or, decide_eq_false_iff_not, not_le]
    exact hsm.trans_lt hlt
  | delivery rev deliveredAtMs =>
    refine ⟨(lookup_updateDeployment fun row hrow => ?_).trans hens, rfl⟩
    rw [hforeign' row hrow, Bool.false_and]
  | health bootId epoch agentRevision caps emergencyDisabled reportedAtMs =>
    exact ⟨(lookup_updateDeployment hforeign').trans hens, rfl⟩
  | disconnected => exact ⟨lookup_updateDeployment hfor, rfl⟩
  | ack ack =>
    unfold Sessions.sessionStep
    dsimp only
    split
    · exact ⟨rfl, rfl⟩
    · rename_i result hres
      rcases recordAck_cases hres with heq | ⟨row, hrow, hcur, -⟩
      · rw [heq]
        exact ⟨hens, rfl⟩
      · rw [hens] at hrow
        have hlt := (h.ne_of_lookup hnum hrow).2
        have hne : row.agentConnectionId ≠ session.connectionId := by omega
        simp [isOutdated, hne] at hcur
  | metrics bootId sampledAtMs metrics nowMs =>
    unfold Sessions.sessionStep
    dsimp only
    split
    · exact ⟨rfl, rfl⟩
    · rename_i result hres
      obtain ⟨hdeps, hmet⟩ := recordMetrics_cases hres
      refine ⟨by rw [hdeps, hens], hmet.resolve_right ?_⟩
      rintro ⟨row, hrow, -, hid⟩
      rw [hens] at hrow
      have hlt := (h.ne_of_lookup hnum hrow).2
      omega

end Fences

/-- **Fencing.** Once a session has taken over a gateway, nothing that an earlier session of the same
process still writes changes the deployment or the metrics of the gateway. -/
theorem superseded_session_inert (library : Library) (service : PolicyService)
    (gatewayId connectionEpoch : String) (earlier later : ℕ) (hlater : earlier < later)
    (hsmall : earlier < i64Max)
    (hconnected : (markAgentConnected gatewayId ⟨connectionEpoch, later⟩ service.tables).1 =
      .applied) (events : List Event) (hevents : ∀ event ∈ events, ofProcess connectionEpoch event)
    (op : SessionOp) :
    let reached := run library (sessionStep service ⟨gatewayId, ⟨connectionEpoch, later⟩, .connected⟩)
      events
    let after := sessionStep reached ⟨gatewayId, ⟨connectionEpoch, earlier⟩, op⟩
    after.tables.deployments.lookup gatewayId = reached.tables.deployments.lookup gatewayId ∧
      ∀ policyId mac, after.tables.metrics.lookup ⟨gatewayId, policyId, mac⟩ =
        reached.tables.metrics.lookup ⟨gatewayId, policyId, mac⟩ := by
  intro reached after
  have hfenced : Fenced gatewayId connectionEpoch (toI64 later) reached.tables :=
    Fenced.run (fenced_markAgentConnected hconnected) hevents
  have hnumber : earlier < toI64 later := lt_min hlater hsmall
  obtain ⟨hrow, hmetrics⟩ := hfenced.inert ⟨connectionEpoch, earlier⟩ hnumber op
  exact ⟨hrow, fun policyId mac => by rw [hmetrics]⟩

/-! ### Sample runs -/

def sampleCall (connectionId : ℕ) (op : SessionOp) : SessionCall :=
  ⟨"gateway-1", ⟨sampleEpoch, connectionId⟩, op⟩

/-- A session has connected and reported. -/
def connectedService (connectionId : ℕ) : PolicyService :=
  run sampleLibrary ⟨.empty, ∅⟩
    [.session (sampleCall connectionId .connected),
      .session (sampleCall connectionId (.health "boot-1" sampleEpoch 0 .allUnsupported false 1000))]

/-- The first session closes after the second has connected, and the gateway stays connected. -/
theorem late_disconnect_inert :
    let reached := run sampleLibrary
      (sessionStep (connectedService 1) (sampleCall 2 .connected))
      [.session (sampleCall 2 (.delivery 0 2000))]
    (reached.tables.deployments.lookup "gateway-1").any (·.agentConnected) = true ∧
      (sessionStep reached (sampleCall 1 .disconnected)).tables.deployments.lookup "gateway-1" =
        reached.tables.deployments.lookup "gateway-1" := by
  refine ⟨by decide +kernel, ?_⟩
  refine (superseded_session_inert sampleLibrary (connectedService 1) "gateway-1" sampleEpoch 1 2
    (by decide) (by decide) (by decide +kernel) [.session (sampleCall 2 (.delivery 0 2000))] ?_
    .disconnected).1
  intro event hevent
  rw [List.mem_singleton.1 hevent]
  rfl

/-- Numbers beyond 63 bits are stored as one, and then the earlier session disconnects the later. -/
theorem huge_numbers_not_fenced :
    let earlier := 2 ^ 63 - 1
    let later := 2 ^ 63
    let reached := sessionStep (connectedService earlier) (sampleCall later .connected)
    (markAgentConnected "gateway-1" ⟨sampleEpoch, later⟩ (connectedService earlier).tables).1 =
        .applied ∧
      (reached.tables.deployments.lookup "gateway-1").any (·.agentConnected) = true ∧
      ((sessionStep reached (sampleCall earlier .disconnected)).tables.deployments.lookup
        "gateway-1").any (·.agentConnected) = false := by
  decide +kernel

end Netqmon.Collector.Policy.Sessions
