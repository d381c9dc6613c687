import Netqmon.Collector.Policy.Validation
import Netqmon.Lib.Keyed
import Netqmon.Protocol.Json

/-! # The policy database

Policies are created, edited, switched and deleted in transactions. Every call names the revision of
the gateway that its caller has seen, most also the version of the policy, and fails if there is a newer
one. Application limits that could apply to one flow are refused (`checkPolicyOverlap`), and so are sets
of policies that would be too large for a snapshot (`checkResourceLimits`). A call that fails changes
nothing. -/

namespace Netqmon.Collector.Policy.Service

open Lib.Checks Lib.Keyed Protocol.Policy Protocol.Json Validation

def maxSpecBytes : ℕ := 8 * 1024
def maxPolicyCount : ℕ := 256
def maxGatewaySpecBytes : ℕ := 192 * 1024
def maxPushBundleBytes : ℕ := 768 * 1024
def maxScheduleComplexity : ℕ := 100000
def projectedWindowBytes : ℕ := 64

/-- What the libraries know: time zones, and the length of a double in JSON. -/
structure Library where
  zones : Zones
  floatLen : ℚ → ℕ

/-- For sample runs: no zones, and every float in three bytes. -/
def sampleLibrary : Library := ⟨fun _ => none, fun _ => 3⟩

/-! ### Tables -/

/-- A policy. The columns that repeat a part of its JSON are left out. -/
structure PolicyRow where
  gatewayId : String
  spec : PolicySpecV1
  version : ℕ
  (createdAtMs updatedAtMs : ℤ)
deriving DecidableEq

inductive EventAction
  | create
  | update
  | enable
  | disable
  | delete
  | republish
deriving DecidableEq

structure PolicyEvent where
  gatewayId : String
  policyId : Option String
  action : EventAction
  actorUserId : String
  (before after : Option PolicySpecV1)
  revision : ℕ
  createdAtMs : ℤ
deriving DecidableEq

inductive DeploymentStatus
  | notDeployed
  | offline
  | pending
  | applied
  | partially
  | failed
  | unsupported
deriving DecidableEq

/-- What is known of the policies on a gateway, and of the session of its agent. JSON columns hold what
they encode. -/
structure Deployment where
  (desiredRevision appliedRevision : ℕ)
  status : DeploymentStatus
  (lastErrorCode lastErrorMessage : Option String)
  lastReportedAtMs : Option ℤ
  agentConnected : Bool
  (agentBootId agentConnectionEpoch : Option String)
  agentConnectionId : ℕ
  controllerEpoch : Option String
  bundleGeneration : ℕ
  bundleChecksum : Option String
  capabilities : Option PolicyCapabilities
  policyResults : List PolicyResult
  lastHeartbeatAtMs : Option ℤ
  (reportedRevision agentAppliedRevision deliveredRevision : ℕ)
  deliveredAtMs : Option ℤ
  acknowledgedStatus : Option PolicyAckStatus
deriving DecidableEq

def Deployment.default : Deployment where
  desiredRevision := 0
  appliedRevision := 0
  status := .notDeployed
  lastErrorCode := none
  lastErrorMessage := none
  lastReportedAtMs := none
  agentConnected := false
  agentBootId := none
  agentConnectionEpoch := none
  agentConnectionId := 0
  controllerEpoch := none
  bundleGeneration := 0
  bundleChecksum := none
  capabilities := none
  policyResults := []
  lastHeartbeatAtMs := none
  reportedRevision := 0
  agentAppliedRevision := 0
  deliveredRevision := 0
  deliveredAtMs := none
  acknowledgedStatus := none

/-- The counters of one direction; those that do not fit into 63 bits are left out. -/
structure DirectionMetrics where
  interface : Option String
  (bytes packets drops overlimits : Option ℕ)
deriving DecidableEq

structure ClientMetrics where
  (upload download : DirectionMetrics)
  sampledAtMs : ℤ
deriving DecidableEq

/-- Gateway, policy and MAC address. -/
structure MetricsKey where
  (gatewayId policyId mac : String)
deriving DecidableEq

structure Tables where
  /-- The desired revision of every gateway. -/
  gateways : Rows String ℕ
  policies : Rows String PolicyRow
  events : List PolicyEvent
  deployments : Rows String Deployment
  metrics : Rows MetricsKey ClientMetrics

def Tables.empty : Tables := ⟨∅, ∅, [], ∅, ∅⟩

/-! ### Results -/

inductive PolicyFailure
  | notFound
  | revisionConflict (currentRevision : ℕ)
  | versionConflict (currentRevision currentVersion : ℕ)
  | limitOverlapUnsupported
  | policyLimitExceeded
  | policyTooLarge
  | policyBundleTooLarge
  | scheduleComplexityExceeded
  | invalid (code message : String)
  | store (message : String)
deriving DecidableEq

inductive ExecutionStatus
  | offline
  | disabled
deriving DecidableEq

structure PolicyRecord where
  id : String
  (createdAtMs updatedAtMs : ℤ)
  version : ℕ
  spec : PolicySpecV1
  executionStatus : ExecutionStatus
deriving DecidableEq

structure MutationResult where
  policy : Option PolicyRecord
  gatewayId : String
  revision : ℕ
  changed : Bool
deriving DecidableEq

def mapRecord (id : String) (row : PolicyRow) : PolicyRecord :=
  { id
    createdAtMs := row.createdAtMs
    updatedAtMs := row.updatedAtMs
    version := row.version
    spec := row.spec
    executionStatus := if row.spec.enabled then .offline else .disabled }

/-! ### Statements -/

variable (t : Tables)

def findRecord (id : String) : Option PolicyRow := t.policies.lookup id

variable (gatewayId : String)

def ensureGateway (t : Tables) : Tables :=
  { t with
    gateways := upsert t.gateways gatewayId 0 id
    deployments := upsert t.deployments gatewayId .default id }

def readRevision (gatewayId : String) : ℕ := (t.gateways.lookup gatewayId).getD 0

def checkRevision (gatewayId : String) (expectedRevision : ℕ) : Except PolicyFailure Unit :=
  ensure (readRevision t gatewayId = expectedRevision)
    (.revisionConflict (readRevision t gatewayId))

/-- A deployment that waits for a revision. -/
def Deployment.awaiting (revision : ℕ) (deployment : Deployment) : Deployment :=
  { deployment with
    desiredRevision := revision
    status := if deployment.agentConnected then .pending else .offline
    lastErrorCode := none
    lastErrorMessage := none }

def setRevision (revision : ℕ) (t : Tables) : Tables :=
  { t with
    gateways := updateWhere (fun gateway _ => gateway == gatewayId) (fun _ _ => revision) t.gateways
    deployments := updateWhere (fun gateway _ => gateway == gatewayId)
      (fun _ deployment => deployment.awaiting revision) t.deployments }

def bumpRevision (t : Tables) : Except PolicyFailure (ℕ × Tables) :=
  let revision := readRevision t gatewayId + if (t.gateways.lookup gatewayId).isSome then 1 else 0
  match t.deployments.lookup gatewayId with
  | none => .error (.store "Query returned no rows")
  | some _ => .ok (revision, setRevision gatewayId revision t)

def insertEvent (event : PolicyEvent) (t : Tables) : Tables :=
  { t with events := t.events ++ [event] }

/-! ### Checks -/

/-- The policies of a gateway, without one of them. -/
def otherSpecs (gatewayId : String) (excludeId : Option String) : List PolicySpecV1 :=
  (select (fun id row => row.gatewayId == gatewayId && excludeId != some id) t.policies).map
    (·.2.spec)

def checkPolicyOverlap (candidate : PolicySpecV1) (excludeId : Option String) :
    Except PolicyFailure Unit :=
  ensure (!(otherSpecs t candidate.gatewayId excludeId).any (applicationLimitsOverlap candidate))
    .limitOverlapUnsupported

def scheduleComplexity (spec : PolicySpecV1) : ℕ :=
  spec.schedule.elim 0 fun schedule => schedule.windows.length * 30

variable (library : Library) (nowMs : ℤ)

/-- The limits of what a gateway may have. The sums do not saturate here, which makes no difference to
the comparisons. -/
def checkSpecs (specs : List PolicySpecV1) : Except PolicyFailure Unit := do
  let totalBytes := (specs.map (specLen library.floatLen)).sum
  let scheduleExpansions := (specs.map (scheduleProjectionCost library.zones nowMs)).sum
  ensure (specs.length ≤ maxPolicyCount) .policyLimitExceeded
  ensure ((specs.map scheduleComplexity).sum ≤ maxScheduleComplexity) .scheduleComplexityExceeded
  ensure (totalBytes ≤ maxGatewaySpecBytes) .policyBundleTooLarge
  ensure (totalBytes + scheduleExpansions * projectedWindowBytes ≤ maxPushBundleBytes)
    .policyBundleTooLarge

variable (t : Tables)

def checkResourceLimits (gatewayId : String)
    (replacement : PolicySpecV1) (excludeId : Option String) : Except PolicyFailure Unit :=
  checkSpecs library nowMs (otherSpecs t gatewayId excludeId ++ [replacement])

def checkOneSpecSize (spec : PolicySpecV1) : Except PolicyFailure Unit :=
  ensure (specLen library.floatLen spec ≤ maxSpecBytes) .policyTooLarge

/-- The constraint of the priority column. -/
def checkPriority (spec : PolicySpecV1) : Except PolicyFailure Unit :=
  ensure (spec.priority ≤ 1000) (.store "CHECK constraint failed: priority BETWEEN 0 AND 1000")

/-! ### Calls -/

/-- `id` is the identifier that is drawn for the policy. -/
def create (id : String) (spec : PolicySpecV1)
    (actorUserId : String) (expectedRevision : ℕ) (t : Tables) :
    Except PolicyFailure (MutationResult × Tables) := do
  checkOneSpecSize library spec
  let t := ensureGateway spec.gatewayId t
  checkRevision t spec.gatewayId expectedRevision
  checkPolicyOverlap t spec none
  checkResourceLimits library nowMs t spec.gatewayId spec none
  checkPriority spec
  ensure (findRecord t id).isNone (.store "UNIQUE constraint failed: traffic_policies.id")
  let row : PolicyRow := ⟨spec.gatewayId, spec, 1, nowMs, nowMs⟩
  let (revision, t) ← bumpRevision spec.gatewayId { t with policies := t.policies.insert id row }
  return (⟨some (mapRecord id row), spec.gatewayId, revision, true⟩,
    insertEvent ⟨spec.gatewayId, some id, .create, actorUserId, none, some spec, revision, nowMs⟩ t)

variable (id : String)

/-- Replace a policy, after all checks. -/
def replace (current : PolicyRow) (spec : PolicySpecV1)
    (action : EventAction) (actorUserId : String) (t : Tables) :
    Except PolicyFailure (MutationResult × Tables) := do
  let row := { current with spec := spec, version := current.version + 1, updatedAtMs := nowMs }
  let (revision, t) ← bumpRevision current.spec.gatewayId
    { t with policies := t.policies.insert id row }
  return (⟨some (mapRecord id row), current.spec.gatewayId, revision, true⟩,
    insertEvent ⟨current.spec.gatewayId, some id, action, actorUserId, some current.spec,
      some spec, revision, nowMs⟩ t)

/-- A call that finds everything as it should be. -/
def unchanged (current : PolicyRow) (t : Tables) : MutationResult × Tables :=
  (⟨some (mapRecord id current), current.spec.gatewayId, readRevision t current.spec.gatewayId,
    false⟩, t)

def update (id : String) (spec : PolicySpecV1)
    (actorUserId : String) (expectedRevision expectedVersion : ℕ) (t : Tables) :
    Except PolicyFailure (MutationResult × Tables) := do
  checkOneSpecSize library spec
  match findRecord t id with
  | none => .error .notFound
  | some current =>
    ensure (spec.gatewayId = current.spec.gatewayId)
      (.invalid "invalid_spec" "gateway_id cannot be changed when editing a policy")
    checkRevision t current.spec.gatewayId expectedRevision
    ensure (current.version = expectedVersion)
      (.versionConflict (readRevision t current.spec.gatewayId) current.version)
    if spec = current.spec then .ok (unchanged id current t)
    else
      checkPolicyOverlap t spec (some id)
      checkResourceLimits library nowMs t current.spec.gatewayId spec (some id)
      checkPriority spec
      replace nowMs id current spec .update actorUserId t

/-- Overlap is not checked again; switching a policy does not change what it selects. -/
def setEnabled (enabled : Bool)
    (actorUserId : String) (expectedRevision expectedVersion : ℕ) (t : Tables) :
    Except PolicyFailure (MutationResult × Tables) :=
  match findRecord t id with
  | none => .error .notFound
  | some current => do
    checkRevision t current.spec.gatewayId expectedRevision
    ensure (current.version = expectedVersion)
      (.versionConflict (readRevision t current.spec.gatewayId) current.version)
    if current.spec.enabled = enabled then .ok (unchanged id current t)
    else
      let spec := { current.spec with enabled := enabled }
      checkOneSpecSize library spec
      checkResourceLimits library nowMs t spec.gatewayId spec (some id)
      replace nowMs id current spec (if enabled then .enable else .disable) actorUserId t

def delete (id : String) (actorUserId : String) (expectedRevision : ℕ) (t : Tables) :
    Except PolicyFailure (MutationResult × Tables) :=
  match findRecord t id with
  | none => .error .notFound
  | some current => do
    checkRevision t current.spec.gatewayId expectedRevision
    let (revision, t) ← bumpRevision current.spec.gatewayId
      { t with policies := t.policies.erase id }
    return (⟨none, current.spec.gatewayId, revision, true⟩,
      insertEvent ⟨current.spec.gatewayId, some id, .delete, actorUserId, some current.spec, none,
        revision, nowMs⟩ t)

/-- A new revision without a change, later than the one that the agent has. -/
def republish (gatewayId actorUserId : String) (t : Tables) :
    Except PolicyFailure (ℕ × Tables) := do
  let t := ensureGateway gatewayId t
  match t.deployments.lookup gatewayId with
  | none => .error (.store "Query returned no rows")
  | some deployment =>
    let revision := max (readRevision t gatewayId) deployment.agentAppliedRevision + 1
    ensure (revision ≤ maxSafeJsonInteger) (.store "policy revision exhausted")
    return (revision, insertEvent ⟨gatewayId, none, .republish, actorUserId, none, none, revision,
      nowMs⟩ (setRevision gatewayId revision t))

/-- The policies of a gateway as they are published. -/
def snapshot (gatewayId : String) : ℕ × List PolicySnapshotEntry :=
  (readRevision t gatewayId,
    ((select (fun _ row => row.gatewayId == gatewayId) t.policies).map
      fun row => ⟨row.1, row.2.spec⟩).insertionSort (·.id ≤ ·.id))

/-! ### Runs -/

inductive Request
  | create (id : String) (spec : PolicySpecV1) (expectedRevision : ℕ)
  | update (id : String) (spec : PolicySpecV1) (expectedRevision expectedVersion : ℕ)
  | setEnabled (id : String) (enabled : Bool) (expectedRevision expectedVersion : ℕ)
  | delete (id : String) (expectedRevision : ℕ)

/-- The policy that a request wants to store. -/
def Request.spec : Request → Option PolicySpecV1
  | .create _ spec _ | .update _ spec _ _ => some spec
  | .setEnabled .. | .delete .. => none

structure Call where
  nowMs : ℤ
  actorUserId : String
  request : Request

def perform (call : Call) (t : Tables) : Except PolicyFailure (MutationResult × Tables) :=
  match call.request with
  | .create id spec expectedRevision =>
    create library call.nowMs id spec call.actorUserId expectedRevision t
  | .update id spec expectedRevision expectedVersion =>
    update library call.nowMs id spec call.actorUserId expectedRevision expectedVersion t
  | .setEnabled id enabled expectedRevision expectedVersion =>
    setEnabled library call.nowMs id enabled call.actorUserId expectedRevision expectedVersion t
  | .delete id expectedRevision => delete call.nowMs id call.actorUserId expectedRevision t

/-- The transaction of a call that fails is rolled back. -/
def step (call : Call) : Tables :=
  match perform library call t with
  | .error _ => t
  | .ok result => result.2

def run (calls : List Call) : Tables := calls.foldl (step library) .empty

/-! ### What a call can do -/

/-- No other policy of the gateway is a limit that may apply to the same flows. -/
def Solitary (id : String) (spec : PolicySpecV1) : Prop :=
  ∀ other row, other ≠ id → t.policies.lookup other = some row →
    row.gatewayId = spec.gatewayId → applicationLimitsOverlap spec row.spec = false

/-- The policies after a call that succeeds. -/
inductive Effect (t : Tables) : Request → Rows String PolicyRow → Prop
  | unchanged (request : Request) : Effect t request t.policies
  | created {id : String} {spec : PolicySpecV1} {revision : ℕ} {row : PolicyRow}
      (hfresh : t.policies.lookup id = none) (hspec : row.spec = spec)
      (hgateway : row.gatewayId = spec.gatewayId) (hsolitary : Solitary t id spec) :
      Effect t (.create id spec revision) (t.policies.insert id row)
  | updated {id : String} {spec : PolicySpecV1} {revision version : ℕ} {old row : PolicyRow}
      (hold : t.policies.lookup id = some old) (hsame : spec.gatewayId = old.spec.gatewayId)
      (hspec : row.spec = spec) (hgateway : row.gatewayId = old.gatewayId)
      (hsolitary : Solitary t id spec) :
      Effect t (.update id spec revision version) (t.policies.insert id row)
  | switched {id : String} {enabled : Bool} {revision version : ℕ} {old row : PolicyRow}
      (hold : t.policies.lookup id = some old)
      (hspec : row.spec = { old.spec with enabled := enabled })
      (hgateway : row.gatewayId = old.gatewayId) :
      Effect t (.setEnabled id enabled revision version) (t.policies.insert id row)
  | deleted {id : String} {revision : ℕ} :
      Effect t (.delete id revision) (t.policies.erase id)

variable {gatewayId : String} {t : Tables} {revision : ℕ} {t' : Tables}

theorem bumpRevision_eq_ok (h : bumpRevision gatewayId t = .ok (revision, t')) :
    revision = readRevision t gatewayId + (if (t.gateways.lookup gatewayId).isSome then 1 else 0) ∧
      t' = setRevision gatewayId revision t := by
  unfold bumpRevision at h
  cases hrow : t.deployments.lookup gatewayId with
  | none => simp [hrow] at h
  | some deployment => grind

theorem bumpRevision_policies (h : bumpRevision gatewayId t = .ok (revision, t')) :
    t'.policies = t.policies := by
  rw [(bumpRevision_eq_ok h).2]
  rfl

theorem republish_eq_ok {nowMs : ℤ} {actorUserId : String}
    {result : ℕ × Tables} (h : republish nowMs gatewayId actorUserId t = .ok result) :
    readRevision (ensureGateway gatewayId t) gatewayId < result.1 ∧ ∃ event,
      (event.gatewayId = gatewayId ∧ event.policyId = none ∧ event.revision = result.1) ∧
      result.2 = insertEvent event (setRevision gatewayId result.1 (ensureGateway gatewayId t)) := by
  unfold republish at h
  dsimp only at h
  cases hrow : (ensureGateway gatewayId t).deployments.lookup gatewayId with
  | none => simp [hrow] at h
  | some deployment =>
    rw [hrow] at h
    obtain ⟨-, h⟩ := seq_eq_ok.1 h
    cases h
    grind

theorem solitary_of_checkPolicyOverlap {t : Tables} {spec : PolicySpecV1} {excludeId : Option String}
    {id : String} (h : checkPolicyOverlap t spec excludeId = .ok ())
    (hexclude : ∀ other, other ≠ id → excludeId ≠ some other) : Solitary t id spec := by
  intro other row ho hrow hgw
  simp only [checkPolicyOverlap, ensure_eq_ok, Bool.not_eq_true', List.any_eq_false] at h
  refine Bool.eq_false_iff.2 (h row.spec (List.mem_map.2 ⟨(other, row), ?_, rfl⟩))
  rw [mem_select]
  exact ⟨hrow, by simp [hgw, hexclude other ho]⟩

/-- The event tells how one policy of its gateway has changed. -/
structure Tells (event : PolicyEvent) (old new : Rows String PolicyRow) (id : String) : Prop where
  policyId : event.policyId = some id
  before : event.before = (old.lookup id).map (·.spec)
  after : event.after = (new.lookup id).map (·.spec)
  others : ∀ other, other ≠ id → new.lookup other = old.lookup other
  ofGateway : ∀ row, old.lookup id = some row → row.spec.gatewayId = event.gatewayId
  filed : ∀ row, new.lookup id = some row → row.spec.gatewayId = event.gatewayId ∧
    (row.gatewayId = event.gatewayId ∨ ∃ prior, old.lookup id = some prior ∧
      row.gatewayId = prior.gatewayId)

/-- A policy changes: its gateway gets a new revision, and there is an event for it. -/
structure Revised (t t' : Tables) (event : PolicyEvent) : Prop where
  bumped : ∃ t₀ t₁,
    (t₀ = ensureGateway event.gatewayId t ∨ t₀ = t ∧ ∃ id row, t.policies.lookup id = some row ∧
      row.spec.gatewayId = event.gatewayId) ∧
    bumpRevision event.gatewayId { t₀ with policies := t'.policies } = .ok (event.revision, t₁) ∧
    t' = insertEvent event t₁
  tells : ∃ id, Tells event t.policies t'.policies id

theorem Revised.of_bump {t₀ t₁ : Tables} {event : PolicyEvent} {policies : Rows String PolicyRow}
    {id : String} (hba : t₀ = ensureGateway event.gatewayId t ∨ t₀ = t ∧ ∃ id row,
      t.policies.lookup id = some row ∧ row.spec.gatewayId = event.gatewayId)
    (hbu : bumpRevision event.gatewayId { t₀ with policies := policies } =
      .ok (event.revision, t₁))
    (htl : Tells event t.policies policies id) : Revised t (insertEvent event t₁) event := by
  have hps : (insertEvent event t₁).policies = policies := bumpRevision_policies hbu
  refine ⟨⟨t₀, t₁, hba, ?_, rfl⟩, id, ?_⟩
  · rw [hps]
    exact hbu
  · rw [hps]
    exact htl

variable {result : MutationResult × Tables}

theorem replace_spec {nowMs : ℤ} {id : String} {cur : PolicyRow} {spec : PolicySpecV1}
    {action : EventAction} {actor : String} (hcur : t.policies.lookup id = some cur)
    (hspec : spec.gatewayId = cur.spec.gatewayId)
    (h : replace nowMs id cur spec action actor t = .ok result) :
    (∃ row : PolicyRow, row.spec = spec ∧ row.gatewayId = cur.gatewayId ∧
      result.2.policies = t.policies.insert id row) ∧ ∃ event, Revised t result.2 event := by
  obtain ⟨⟨revision, t'⟩, hbu, hres⟩ := bind_eq_ok.1 h
  cases hres
  refine ⟨⟨_, ?_, ?_, bumpRevision_policies hbu⟩, _, .of_bump (.inr ⟨rfl, id, cur,
    hcur, rfl⟩) hbu ⟨rfl, ?_, ?_, ?_, ?_, ?_⟩⟩ <;> grind

variable {library : Library}

/-- **What a call does.** Every change of the policies comes with a new revision and an event. -/
theorem perform_spec {call : Call} (h : perform library call t = .ok result) :
    Effect t call.request result.2.policies ∧ (result.2 = t ∨ ∃ event, Revised t result.2 event) := by
  obtain ⟨nowMs, actor, req⟩ := call
  cases req with
  | create id spec revision =>
    simp only [perform, create, seq_eq_ok] at h
    obtain ⟨-, -, hov, -, -, hfr, h⟩ := h
    obtain ⟨⟨bumped, t'⟩, hbu, hres⟩ := bind_eq_ok.1 h
    cases hres
    have hn : t.policies.lookup id = none := by simpa [findRecord, ensureGateway] using hfr
    have hsol : Solitary t id spec :=
      @solitary_of_checkPolicyOverlap (ensureGateway spec.gatewayId t) _ _ _ hov (by simp)
    constructor
    · rw [show (insertEvent _ t').policies = t'.policies from rfl, bumpRevision_policies hbu]
      exact .created hn rfl rfl hsol
    · refine .inr ⟨_, .of_bump (.inl rfl) hbu ⟨rfl, ?_, ?_, ?_, ?_, ?_⟩⟩ <;>
        grind [ensureGateway]
  | update id spec revision version =>
    simp only [perform, update, seq_eq_ok] at h
    obtain ⟨-, h⟩ := h
    cases hold : findRecord t id with
    | none => simp [hold] at h
    | some current =>
      simp only [hold, seq_eq_ok, ensure_eq_ok, decide_eq_true_eq] at h
      obtain ⟨hsm, -, -, h⟩ := h
      split_ifs at h with hspec
      · cases h
        exact ⟨.unchanged _, .inl rfl⟩
      · simp only [seq_eq_ok] at h
        obtain ⟨hov, -, -, h⟩ := h
        obtain ⟨⟨row, hrow, hgw, hps⟩, hrev⟩ := replace_spec hold hsm h
        rw [hps]
        refine ⟨.updated hold hsm hrow hgw
          (solitary_of_checkPolicyOverlap hov fun other ho heq => ho ?_), .inr hrev⟩
        exact (Option.some.inj heq).symm
  | setEnabled id enabled revision version =>
    simp only [perform, setEnabled] at h
    cases hold : findRecord t id with
    | none => simp [hold] at h
    | some current =>
      simp only [hold, seq_eq_ok] at h
      obtain ⟨-, -, h⟩ := h
      by_cases hen : current.spec.enabled = enabled
      · rw [if_pos hen] at h
        cases h
        exact ⟨.unchanged _, .inl rfl⟩
      · rw [if_neg hen] at h
        simp only [seq_eq_ok] at h
        obtain ⟨-, -, h⟩ := h
        obtain ⟨⟨row, hrow, hgw, hps⟩, hrev⟩ := replace_spec hold (by rfl) h
        rw [hps]
        exact ⟨.switched hold hrow hgw, .inr hrev⟩
  | delete id revision =>
    simp only [perform, delete] at h
    cases hold : findRecord t id with
    | none => simp [hold] at h
    | some current =>
      simp only [hold, seq_eq_ok] at h
      obtain ⟨-, h⟩ := h
      obtain ⟨⟨bumped, t'⟩, hbu, hres⟩ := bind_eq_ok.1 h
      cases hres
      have hcur : t.policies.lookup id = some current := hold
      constructor
      · rw [show (insertEvent _ t').policies = t'.policies from rfl, bumpRevision_policies hbu]
        exact .deleted
      · refine .inr ⟨_, .of_bump (.inr ⟨rfl, id, current, hold, rfl⟩) hbu
          ⟨rfl, ?_, ?_, ?_, ?_, ?_⟩⟩ <;> grind

/-! ### What is published -/

theorem mem_snapshot {t : Tables} {gatewayId : String} {p : PolicySnapshotEntry} :
    p ∈ (snapshot t gatewayId).2 ↔ ∃ row, t.policies.lookup p.id = some row ∧
      row.gatewayId = gatewayId ∧ p.spec = row.spec := by
  unfold snapshot
  rw [(List.perm_insertionSort _ _).mem_iff, List.mem_map]
  constructor
  · grind
  · rintro ⟨row, hrow, hgw, hspec⟩
    refine ⟨(p.id, row), mem_select.2 ⟨hrow, beq_iff_eq.2 hgw⟩, ?_⟩
    rw [← hspec]

theorem nodup_snapshot (t : Tables) (gatewayId : String) :
    ((snapshot t gatewayId).2.map (·.id)).Nodup := by
  unfold snapshot
  rw [((List.perm_insertionSort _ _).map _).nodup_iff, List.map_map]
  exact nodup_keys_select _ _

/-- **Induction over runs.** What every successful call keeps holds after every run. -/
theorem run_induction {P : Tables → Prop} {calls : List Call} (hem : P .empty)
    (hperform : ∀ t call result, call ∈ calls → perform library call t = .ok result → P t →
      P result.2) : P (run library calls) := by
  unfold run
  generalize Tables.empty = t at hem
  induction calls generalizing t with
  | nil => exact hem
  | cons call calls ih => grind [step, List.mem_cons_self]

end Netqmon.Collector.Policy.Service
