import Netqmon.Agent.Receiver.Command
import Netqmon.Collector.Policy.CommandOrder

/-! # Commands that the agent accepts

The collector decides about a flow with the snapshot it has published, and lets the command expire with
the snapshot and with the schedules of the policies that it names. The agent checks the command against
the same snapshot. Both agree on the command as it was made. A command that follows another one for the
same flow too closely is put off, with its expiry, and then it may outlast a schedule interval or the
snapshot. -/

namespace Netqmon.Collector.Policy.FlowCommands

open Lib.Checks Protocol.Policy Protocol.Snapshot Protocol.Validate Agent.SavedState
open Agent.Receiver.Command (activeInterval flowCommandPolicyReferencesValid
  verdictMatchesAction)
open Collector.Policy.Compiler Collector.Policy.Decisions Collector.Policy.Evaluator
open Collector.Policy.FlowStates Collector.Policy.Hub Collector.Policy.Hub.GatewayState
open Collector.Policy.Validation (sampleEpoch)

/-! ### Snapshots -/

/-- The schedule intervals of a policy. -/
def scheduleOf (snapshot : PolicySnapshot) (policyId : String) : List PolicyScheduleInterval :=
  ((snapshot.scheduleIntervals.find? (·.policyId == policyId)).map (·.intervals)).getD []

/-- What a published snapshot promises to both sides. -/
structure Published (snapshot : PolicySnapshot) : Prop where
  distinct : (snapshot.policies.map (·.id)).Nodup
  exclusive : ∀ policyId, Exclusive (scheduleOf snapshot policyId)
  until_le : snapshot.validUntilMs ≤ 2 ^ 63 - 1

variable {chrono : Chrono}

theorem exclusive_expandSchedules {fromMs untilMs : ℤ} :
    ∀ {policies : List PolicySnapshotEntry} {schedules : List PolicyScheduleIntervals},
      expandSchedules chrono fromMs untilMs policies = .ok schedules →
        ∀ schedule ∈ schedules, Exclusive schedule.intervals
  | [], schedules, h, schedule, hsc => by
    cases h
    cases hsc
  | policy :: policies, schedules, h, schedule, hsc => by
    unfold expandSchedules at h
    split_ifs at h
    · obtain ⟨ivs, hivs, h⟩ := bind_eq_ok.1 h
      obtain ⟨rest, hr, h⟩ := bind_eq_ok.1 h
      cases h
      rcases List.mem_cons.1 hsc with rfl | hsc
      · unfold expandSchedule at hivs
        split at hivs
        · cases hivs
        · split at hivs
          · cases hivs
          · split_ifs at hivs
            obtain ⟨expanded, -, hivs⟩ := bind_eq_ok.1 hivs
            obtain ⟨-, hmerged⟩ := seq_eq_ok.1 hivs
            cases hmerged
            exact exclusive_mergeIntervals (sorted_sortIntervals expanded)
      · exact exclusive_expandSchedules hr schedule hsc
    · exact exclusive_expandSchedules h schedule hsc

variable {policies : List PolicySnapshotEntry} {snapshot : PolicySnapshot}

theorem published_of_compileSnapshot {codec : Codec} {gw epoch : String}
    {gen rev : ℕ} {generatedAtMs : ℤ}
    (h : compileSnapshot chrono codec gw epoch gen generatedAtMs rev policies =
      .ok snapshot) : Published snapshot := by
  obtain ⟨hcheck, schedules, hscheds, heq⟩ := compileSnapshot_eq_ok h
  refine ⟨?_, fun policyId => ?_, ?_⟩
  · obtain ⟨-, hval, -⟩ := by simpa only [checkFrame, seq_eq_ok] using hcheck
    exact (validateSnapshot_ok hval).distinct
  · unfold scheduleOf
    cases hfd : snapshot.scheduleIntervals.find? (·.policyId == policyId) with
    | none => exact fun a ha => absurd ha List.not_mem_nil
    | some schedule =>
      have hmem := List.mem_of_find?_eq_some hfd
      rw [heq] at hmem
      obtain ⟨original, horiginal, rfl⟩ := List.mem_map.1 hmem
      have hexclusive := exclusive_expandSchedules hscheds original
        ((List.perm_insertionSort _ _).mem_iff.1 horiginal)
      have hso : ∀ interval, interval ∈ sortIntervals original.intervals ↔
          interval ∈ original.intervals := fun interval => (List.perm_insertionSort _ _).mem_iff
      exact fun a ha b hb => hexclusive a ((hso a).1 ha) b ((hso b).1 hb)
  · rw [heq]
    unfold compileSnapshot at h
    split_ifs at h with hoverflow
    exact not_lt.1 hoverflow

variable {policyId : String} {issuedAtMs expiresAtMs : ℤ}

/-- The agent's search for the interval that is open. -/
theorem activeInterval_any_iff (h : Exclusive (scheduleOf snapshot policyId))
    (hlt : issuedAtMs < expiresAtMs) :
    (activeInterval snapshot policyId issuedAtMs).any (expiresAtMs ≤ ·.endMs) = true ↔
      ∃ interval ∈ scheduleOf snapshot policyId,
        interval.startMs ≤ issuedAtMs ∧ expiresAtMs ≤ interval.endMs := by
  unfold activeInterval
  unfold scheduleOf at h ⊢
  cases hsc : snapshot.scheduleIntervals.find? (·.policyId == policyId) with
  | none => simp
  | some schedule =>
    rw [hsc] at h
    rw [Option.any_eq_true]
    simp only [decide_eq_true_eq]
    constructor
    · rintro ⟨interval, hfd, hend⟩
      have hop := List.find?_some hfd
      grind
    · rintro ⟨interval, hmem, hst, hend⟩
      have hcontains : Contains interval issuedAtMs := ⟨hst, by omega⟩
      have hs : (schedule.intervals.find? fun interval => decide (interval.startMs ≤ issuedAtMs)
          && decide (issuedAtMs < interval.endMs)).isSome = true :=
        List.find?_isSome.2 ⟨interval, hmem, by simpa [Contains] using hcontains⟩
      obtain ⟨found, hfd⟩ := Option.isSome_iff_exists.1 hs
      have hop := List.find?_some hfd
      simp only [Bool.and_eq_true, decide_eq_true_eq] at hop
      rw [h interval hmem found (List.mem_of_find?_eq_some hfd) issuedAtMs hcontains hop]
        at hend
      exact ⟨found, hfd, hend⟩

/-! ### Decisions -/

/-- A policy that a command may name. -/
structure Named (snapshot : PolicySnapshot) (verdict : Option FlowVerdict) (policyId : String)
    (policy : PolicySnapshotEntry) : Prop where
  found : snapshot.policies.find? (·.id == policyId) = some policy
  enabled : policy.spec.enabled = true
  selective : policy.spec.selectsApplications = true
  action : verdictMatchesAction verdict policy.spec = true

variable {policy : PolicySnapshotEntry}

theorem find?_eq_some_of_nodup (h : (policies.map (·.id)).Nodup) (hpol : policy ∈ policies) :
    policies.find? (·.id == policy.id) = some policy := by
  have hs : (policies.find? (·.id == policy.id)).isSome = true :=
    List.find?_isSome.2 ⟨policy, hpol, by simp⟩
  obtain ⟨found, hfd⟩ := Option.isSome_iff_exists.1 hs
  have hid : found.id = policy.id := by simpa using List.find?_some hfd
  rw [hfd, List.inj_on_of_nodup_map h (List.mem_of_find?_eq_some hfd) hpol hid]

variable {policyIds : List String}

section Decision

variable {zones : Validation.Zones} {snapshot : PolicySnapshot} {request : PolicyPreviewRequest}
  {block limit : Bool}

/-- A candidate may be named, if the verdict fits its action. -/
theorem named_of_matching (hpub : Published snapshot) {verdict : Option FlowVerdict}
    (hpol : policy ∈ matching zones request snapshot.policies)
    (ha : verdictMatchesAction verdict policy.spec = true) :
    Named snapshot verdict policy.id policy := by
  obtain ⟨hmem, happ⟩ := List.mem_filter.1 (mem_matching hpol)
  simp only [applies, Bool.and_eq_true] at happ
  obtain ⟨⟨⟨⟨⟨⟨-, hen⟩, -⟩, -⟩, hsel⟩, -⟩, -⟩ := happ
  exact ⟨find?_eq_some_of_nodup hpub.distinct hmem, hen, hsel, ha⟩

/-- The policy that is marked as selected is the one that gives the verdict. -/
theorem selected_eq (h : policyId ∈ (((evaluatePreview zones request snapshot.policies block
      limit).matchedPolicies.find? (·.selected)).map (·.policyId)).toList) :
    ∃ policy ∈ matching zones request snapshot.policies, policy.id = policyId ∧
      (matching zones request snapshot.policies).find? givesVerdict = some policy := by
  rw [Option.mem_toList, Option.map_eq_some_iff] at h
  obtain ⟨row, hrow, rfl⟩ := h
  have hsel := List.find?_some hrow
  obtain ⟨policy, hpol, rfl⟩ := List.mem_map.1 (List.mem_of_find?_eq_some hrow)
  simp only [Option.any_eq_true, beq_iff_eq] at hsel
  obtain ⟨winning, hwin, hid⟩ := hsel
  exact ⟨winning, List.mem_of_find?_eq_some hwin, hid, hwin⟩

theorem supported_limit (h : policyId ∈ ((evaluatePreview zones request snapshot.policies block
      limit).activeLimits.filter (·.status == .supported)).map (·.policyId)) :
    ∃ policy ∈ matching zones request snapshot.policies, policy.id = policyId ∧
      verdictMatchesAction (some .shape) policy.spec = true := by
  obtain ⟨row, hrow, rfl⟩ := List.mem_map.1 h
  obtain ⟨hrow, hsupported⟩ := List.mem_filter.1 hrow
  obtain ⟨policy, hpol, rfl⟩ := List.mem_map.1 hrow
  obtain ⟨hpol, hkd⟩ := List.mem_filter.1 hpol
  refine ⟨policy, hpol, rfl, ?_⟩
  unfold limitOf limitReason at hsupported
  cases hcl : policy.spec.selectors.clients.isEmpty with
  | true => simp [hcl] at hsupported
  | false =>
    rw [verdictMatchesAction, hkd, hcl]
    rfl

theorem kind_of_verdictOf {supported : Bool} :
    ((verdictOf supported policy).1 = .block → policy.spec.action.kind = .block) ∧
      ((verdictOf supported policy).1 = .allow → policy.spec.action.kind = .allow) := by
  unfold verdictOf
  cases policy.spec.action.kind <;> split_ifs <;> simp

theorem named_of_decision (hpub : Published snapshot) {verdict : FlowVerdict}
    (h : flowCommandDecision (evaluatePreview zones request snapshot.policies block limit) =
      (some verdict, policyIds))
    (hid : policyId ∈ policyIds) : ∃ policy, Named snapshot (some verdict) policyId policy := by
  have hverd : (evaluatePreview zones request snapshot.policies block
      limit).selectedBlockVerdict = (((matching zones request snapshot.policies).find?
        givesVerdict).elim (BlockVerdict.none, []) (verdictOf block)).1 := rfl
  have hsh : policyId ∈ ((evaluatePreview zones request snapshot.policies block
      limit).activeLimits.filter (·.status == .supported)).map (·.policyId) →
        ∃ policy, Named snapshot (some .shape) policyId policy := by
    intro hlim
    obtain ⟨policy, hpol, rfl, ha⟩ := supported_limit hlim
    exact ⟨policy, named_of_matching hpub hpol ha⟩
  unfold flowCommandDecision at h
  dsimp only at h
  split at h
  · rename_i hb
    cases h
    obtain ⟨policy, hpol, rfl, hwin⟩ := selected_eq hid
    rw [hverd, hwin] at hb
    exact ⟨policy, named_of_matching hpub hpol
      (beq_iff_eq.2 (kind_of_verdictOf.1 hb))⟩
  · rename_i hallow
    split_ifs at h
    · cases h
      obtain ⟨policy, hpol, rfl, hwin⟩ := selected_eq hid
      rw [hverd, hwin] at hallow
      exact ⟨policy, named_of_matching hpub hpol
        (beq_iff_eq.2 (kind_of_verdictOf.2 hallow))⟩
    · cases h
      exact hsh hid
  all_goals
    split_ifs at h
    · cases h
    · cases h
      exact hsh hid

end Decision

/-! ### Expiry -/

theorem le_boundExpiry {nowMs bound next : ℤ}
    (h : boundExpiry snapshot nowMs bound policyId = some next) (hle : expiresAtMs ≤ next) :
    expiresAtMs ≤ bound ∧ ∀ policy, snapshot.policies.find? (·.id == policyId) = some policy →
      policy.spec.schedule.isSome = true →
        ∃ stop, activeEnd snapshot nowMs policyId = some stop ∧ expiresAtMs ≤ stop := by
  obtain ⟨policy, hpol, h⟩ := Option.bind_eq_some_iff.1 h
  split_ifs at h with hdis hsc
  · obtain ⟨stop, hstop, rfl⟩ := Option.map_eq_some_iff.1 h
    grind
  · grind

/-- The expiry is bounded by the snapshot and by the open interval of every scheduled policy. -/
theorem flowVerdictExpiry_eq_some {nowMs ttlMs : ℤ}
    (h : flowVerdictExpiry snapshot policyIds nowMs ttlMs = some expiresAtMs) :
    0 ≤ nowMs ∧ nowMs < expiresAtMs ∧ expiresAtMs ≤ nowMs + ttlMs ∧
      expiresAtMs ≤ snapshot.validUntilMs ∧ ∀ policyId ∈ policyIds, ∀ policy,
        snapshot.policies.find? (·.id == policyId) = some policy →
          policy.spec.schedule.isSome = true →
            ∃ stop, activeEnd snapshot nowMs policyId = some stop ∧ expiresAtMs ≤ stop := by
  unfold flowVerdictExpiry at h
  split_ifs at h with href
  simp only [Bool.or_eq_true, decide_eq_true_eq, not_or, not_lt] at href
  obtain ⟨expiry, hexpiry, h⟩ := Option.bind_eq_some_iff.1 h
  split_ifs at h with hlt
  cases h
  obtain ⟨hle, hbounds⟩ := le_foldlM (f := boundExpiry snapshot nowMs)
    (fun _ _ _ => le_boundExpiry) hexpiry le_rfl
  have hsaturated : saturatingAdd nowMs ttlMs ≤ nowMs + ttlMs := by
    unfold saturatingAdd
    omega
  refine ⟨href.1.1.2, hlt, ?_, hle.trans (min_le_right _ _), hbounds⟩
  exact (hle.trans (min_le_left _ _)).trans hsaturated

/-- A lifetime within the snapshot and, for every scheduled policy, within one interval. -/
structure Covered (snapshot : PolicySnapshot) (policyIds : List String)
    (issuedAtMs expiresAtMs : ℤ) : Prop where
  lifetime : issuedAtMs < expiresAtMs
  bounded : expiresAtMs ≤ snapshot.validUntilMs
  scheduled : ∀ policyId ∈ policyIds, ∀ policy,
    snapshot.policies.find? (·.id == policyId) = some policy →
      policy.spec.schedule.isSome = true → ∃ interval ∈ scheduleOf snapshot policyId,
        interval.startMs ≤ issuedAtMs ∧ expiresAtMs ≤ interval.endMs

/-- What a command that was made for a flow is like. -/
structure Made (snapshot : PolicySnapshot) (frame : FlowCommand) : Prop where
  named : ∀ policyId ∈ frame.policyIds, ∃ policy, Named snapshot frame.verdict policyId policy
  nonempty : frame.policyIds ≠ []
  issued : 0 ≤ frame.issuedAtMs
  short : frame.expiresAtMs ≤ frame.issuedAtMs + flowCommandMaxLifetimeMs
  covered : Covered snapshot frame.policyIds frame.issuedAtMs frame.expiresAtMs

theorem ttl_le_max {protocol : ℕ} {ttlMs : ℤ} (h : flowTtlMs protocol = some ttlMs) :
    ttlMs ≤ flowCommandMaxLifetimeMs := by
  unfold flowTtlMs at h
  split at h <;> cases h <;> decide

theorem exists_interval_of_activeEnd {nowMs stop : ℤ}
    (h : activeEnd snapshot nowMs policyId = some stop) :
    ∃ interval ∈ scheduleOf snapshot policyId, interval.startMs ≤ nowMs ∧ interval.endMs = stop := by
  obtain ⟨schedule, hsc, h⟩ := Option.bind_eq_some_iff.1 h
  obtain ⟨interval, hiv, h⟩ := Option.bind_eq_some_iff.1 h
  cases h
  have hop := List.find?_some hiv
  simp only [Bool.and_eq_true, decide_eq_true_eq] at hop
  unfold scheduleOf
  rw [hsc]
  exact ⟨interval, List.mem_of_find?_eq_some hiv, hop.1, rfl⟩

variable {frame : FlowCommand}

theorem made_of_flowCommandForContext {zones : Validation.Zones} (hpub : Published snapshot)
    {context : FlowEvaluationContext} {block limit : Bool} {now : ℤ} {commandId : String}
    (h : flowCommandForContext zones snapshot context block limit now commandId = some frame) :
    Made snapshot frame ∧ frame.issuedAtMs = now := by
  unfold flowCommandForContext at h
  dsimp only at h
  split_ifs at h with hct
  obtain ⟨verdict, hverd, h⟩ := Option.bind_eq_some_iff.1 h
  obtain ⟨ttlMs, httl, h⟩ := Option.bind_eq_some_iff.1 h
  obtain ⟨expiresAtMs, hx, h⟩ := Option.bind_eq_some_iff.1 h
  cases h
  obtain ⟨hnow, hlt, hsh, hbd, hsc⟩ := flowVerdictExpiry_eq_some hx
  refine ⟨⟨fun policyId hid => named_of_decision hpub (Prod.ext hverd rfl) hid, ?_, hnow,
    hsh.trans (add_le_add_right (ttl_le_max httl) now), hlt, hbd, ?_⟩, rfl⟩
  · grind
  · grind [exists_interval_of_activeEnd]

/-! ### What the agent accepts -/

/-- The agent accepts the policies of the command for the lifetimes that the snapshot covers. -/
theorem Made.accepted_iff (hpub : Published snapshot) (h : Made snapshot frame)
    {saved : PolicyState} (hsaved : saved.snapshot = snapshot) (issuedAtMs expiresAtMs : ℤ) :
    flowCommandPolicyReferencesValid (some saved) frame.policyIds frame.verdict issuedAtMs
      expiresAtMs = true ↔ Covered snapshot frame.policyIds issuedAtMs expiresAtMs := by
  unfold flowCommandPolicyReferencesValid
  dsimp only
  have hnonempty : frame.policyIds.isEmpty = false := List.isEmpty_eq_false_iff.2 h.nonempty
  rw [hnonempty]
  by_cases hlt : issuedAtMs < expiresAtMs ∧ expiresAtMs ≤ snapshot.validUntilMs
  · rw [if_neg (by simp [hsaved]; omega), List.all_eq_true]
    refine Iff.trans (forall₂_congr fun policyId hid => ?_)
      ⟨fun hall => ⟨hlt.1, hlt.2, hall⟩, fun hcov => hcov.scheduled⟩
    obtain ⟨policy, hpol⟩ := h.named policyId hid
    rw [hsaved, hpol.found]
    dsimp only
    rw [hpol.enabled, hpol.selective, hpol.action]
    simp only [Bool.and_true, Bool.or_eq_true, Option.some.injEq, forall_eq',
      activeInterval_any_iff (hpub.exclusive policyId) hlt.1]
    cases policy.spec.schedule <;> simp
  · rw [if_pos (by simp [hsaved]; omega)]
    exact iff_of_false (by simp) fun hcov => hlt ⟨hcov.lifetime, hcov.bounded⟩

/-- A command that was valid is so with another lifetime, if that is short and positive. -/
theorem validateFlowCommand_times (h : validateFlowCommand frame = .ok ()) :
    validateFlowCommand { frame with issuedAtMs := issuedAtMs, expiresAtMs := expiresAtMs } =
      .ok () ↔ 0 ≤ issuedAtMs ∧ issuedAtMs < expiresAtMs ∧
        expiresAtMs - issuedAtMs ≤ flowCommandMaxLifetimeMs := by
  unfold validateFlowCommand at h ⊢
  simp only [seq_eq_ok, ensure_eq_ok] at h ⊢
  constructor
  · grind
  · grind

/-! ### What is stored -/

/-- A command is put off when it follows another one too closely. -/
theorem Made.reissue_eq (hpub : Published snapshot) (h : Made snapshot frame) (prev : FlowCommand) :
    reissue (some prev) frame =
      if frame.issuedAtMs < saturatingAdd prev.issuedAtMs 1 then { frame with
          issuedAtMs := saturatingAdd prev.issuedAtMs 1
          expiresAtMs := saturatingAdd (saturatingAdd prev.issuedAtMs 1)
            (frame.expiresAtMs - frame.issuedAtMs) }
      else frame := by
  have hissued := h.issued
  have hlife := h.covered.lifetime
  have hbd := h.covered.bounded.trans hpub.until_le
  have httl : saturatingSub frame.expiresAtMs frame.issuedAtMs =
      frame.expiresAtMs - frame.issuedAtMs := by
    unfold saturatingSub saturatingAdd
    omega
  unfold reissue
  dsimp only
  rw [httl]
  split_ifs with hclose
  · rw [max_eq_right hclose.le]
  · have hsm : saturatingAdd frame.issuedAtMs (frame.expiresAtMs - frame.issuedAtMs) =
        frame.expiresAtMs := by
      unfold saturatingAdd
      omega
    rw [max_eq_left (not_lt.1 hclose), hsm]

/-- **Both sides agree on commands.** A stored command passes the checks of the wire and of the agent if,
and only if, it was not put off, or the snapshot covers the lifetime that it was put off to. -/
theorem stored_command_accepted_iff {chrono : Chrono} {codec : Codec} {gatewayId epoch : String}
    {bundleGeneration revision : ℕ} {generatedAtMs : ℤ} {policies : List PolicySnapshotEntry}
    {bundle : PolicySnapshot}
    (hbundle : compileSnapshot chrono codec gatewayId epoch bundleGeneration generatedAtMs revision
      policies = .ok bundle) {context : FlowEvaluationContext} {block limit : Bool} {now : ℤ}
    {commandId : String} {frame : FlowCommand}
    (hframe : flowCommandForContext chrono.zones bundle context block limit now commandId =
      some frame) {state : GatewayState} {generation : Option ℕ} {fill : Fill} {stored : FlowCommand}
    (hstored : (state.queueFlowCommandInner frame generation fill).2.flowStates.lookup
      (keyOf frame) = some stored) (hnew : state.flowStates.lookup (keyOf frame) ≠ some stored)
    {saved : PolicyState} (hsaved : saved.snapshot = bundle) :
    (validateFlowCommand stored = .ok () ∧ flowCommandPolicyReferencesValid (some saved)
        stored.policyIds stored.verdict stored.issuedAtMs stored.expiresAtMs = true) ↔
      ∀ previous, (state.ownedBy frame.bootId).flowStates.lookup (keyOf frame) = some previous →
        now < saturatingAdd previous.issuedAtMs 1 →
          Covered bundle frame.policyIds (saturatingAdd previous.issuedAtMs 1)
            (saturatingAdd (saturatingAdd previous.issuedAtMs 1) (frame.expiresAtMs - now)) := by
  have hpublished := published_of_compileSnapshot hbundle
  obtain ⟨hmade, rfl⟩ := made_of_flowCommandForContext hpublished hframe
  obtain ⟨hvalid, -, rfl⟩ := (stored_queue state hstored).resolve_left hnew
  have hcovered := (hmade.accepted_iff hpublished hsaved _ _).2 hmade.covered
  cases hprevious : (state.ownedBy frame.bootId).flowStates.lookup (keyOf frame) with
  | none => exact iff_of_true ⟨hvalid, hcovered⟩ nofun
  | some previous =>
    simp only [Option.some.injEq, forall_eq']
    rw [hmade.reissue_eq hpublished]
    split_ifs with hclose
    · rw [validateFlowCommand_times hvalid]
      rw [hmade.accepted_iff hpublished hsaved]
      refine ⟨fun haccepted _ => haccepted.2, fun hcovers => ?_⟩
      have hcovers := hcovers hclose
      have hissued := hmade.issued
      have hshort := hmade.short
      refine ⟨⟨by omega, hcovers.lifetime, ?_⟩, hcovers⟩
      generalize saturatingAdd previous.issuedAtMs 1 = issuedAtMs at hclose
      have hle : saturatingAdd issuedAtMs (frame.expiresAtMs - frame.issuedAtMs) ≤
          issuedAtMs + (frame.expiresAtMs - frame.issuedAtMs) := by
        have hlifetime := hmade.covered.lifetime
        unfold saturatingAdd
        omega
      omega
    · grind

/-! ### Sample commands -/

def utcChrono : Chrono := .strict fun name => if name = "UTC" then some .utc else none

/-- Video is blocked from eight to nine every day. -/
def scheduledBlock : PolicySpecV1 :=
  { Admission.blockOf "video" with
    schedule := some ⟨"UTC", [⟨[.mon, .tue, .wed, .thu, .fri, .sat, .sun], "08:00", "09:00"⟩]⟩ }

def scheduledBundle : Except String PolicySnapshot :=
  compileSnapshot utcChrono Admission.testCodec "gateway-1" sampleEpoch 1 1728000000000 1
    [⟨"policy-1", scheduledBlock⟩]

/-- A second before nine. -/
def lateMs : ℤ := 1728032399000

def videoContext : FlowEvaluationContext where
  generation := 1
  bootId := "boot-1"
  policyFlowId := "flow-1"
  protocol := 6
  request :=
    ⟨"gateway-1", "02:00:00:00:00:01", "video", "media", some (95 / 100), "internet", lateMs⟩
  expiresAtMs := lateMs + 300000

/-- A command that lets the flow go was issued before. -/
def releasedState (issuedAtMs : ℤ) : GatewayState :=
  (GatewayState.new.queueFlowCommandInner (revokeCommand "command-1" issuedAtMs) none
    (sampleFill issuedAtMs)).2

def savedWith (bundle : PolicySnapshot) : PolicyState :=
  ⟨bundle.gatewayId, bundle.controllerEpoch, bundle.configRevision, bundle.bundleGeneration,
    bundle.checksum, "", bundle, [], [], none, []⟩

/-- The snapshot, the command for the flow, and what is stored after the earlier command. -/
def commandAfter (issuedAtMs : ℤ) : Option (PolicySnapshot × FlowCommand × FlowCommand) := do
  let bundle ← scheduledBundle.toOption
  let frame ← flowCommandForContext utcChrono.zones bundle videoContext true true lateMs "command-2"
  let stored ← ((releasedState issuedAtMs).queueFlowCommandInner frame none
    (sampleFill lateMs)).2.flowStates.lookup (keyOf frame)
  return (bundle, frame, stored)

theorem commandAfter_eq_some {bundle : PolicySnapshot} {stored : FlowCommand}
    (h : commandAfter issuedAtMs = some (bundle, frame, stored)) :
    scheduledBundle = .ok bundle ∧
      flowCommandForContext utcChrono.zones bundle videoContext true true lateMs "command-2" =
        some frame ∧
      ((releasedState issuedAtMs).queueFlowCommandInner frame none
        (sampleFill lateMs)).2.flowStates.lookup (keyOf frame) = some stored := by
  obtain ⟨_, hbun, h⟩ := Option.bind_eq_some_iff.1 h
  obtain ⟨_, hf, h⟩ := Option.bind_eq_some_iff.1 h
  obtain ⟨_, hsto, h⟩ := Option.bind_eq_some_iff.1 h
  cases h
  refine ⟨?_, hf, hsto⟩
  cases hcompiled : scheduledBundle with
  | error message => rw [hcompiled] at hbun; cases hbun
  | ok bundle => rw [hcompiled] at hbun; cases hbun; rfl

/-- With the earlier command ten milliseconds ago, the command is stored as it was made. -/
theorem unmoved_command_accepted :
    ∃ bundle frame stored, commandAfter (lateMs - 10) = some (bundle, frame, stored) ∧
      validateFlowCommand stored = .ok () ∧ flowCommandPolicyReferencesValid
        (some (savedWith bundle)) stored.policyIds stored.verdict stored.issuedAtMs
          stored.expiresAtMs = true := by
  have hsome : (commandAfter (lateMs - 10)).any (fun (_, frame, stored) =>
      (releasedState (lateMs - 10)).flowStates.lookup (keyOf frame) != some stored
        && (((releasedState (lateMs - 10)).ownedBy frame.bootId).flowStates.lookup
          (keyOf frame)).all fun previous => saturatingAdd previous.issuedAtMs 1 ≤ lateMs) =
            true := by
    decide +kernel
  obtain ⟨⟨bundle, frame, stored⟩, hcommand, hunmoved⟩ := (Option.any_eq_true _ _).1 hsome
  obtain ⟨hbundle, hframe, hstored⟩ := commandAfter_eq_some hcommand
  rw [Bool.and_eq_true, bne_iff_ne] at hunmoved
  refine ⟨bundle, frame, stored, hcommand,
    (stored_command_accepted_iff hbundle hframe hstored hunmoved.1 rfl).2 ?_⟩
  intro previous hprevious hclose
  rw [hprevious] at hunmoved
  exact absurd hclose (not_lt.2 (of_decide_eq_true hunmoved.2))

/-- With the earlier command in the same millisecond, the command outlasts the schedule interval by a
millisecond, and the agent refuses it. -/
theorem moved_command_refused :
    ∃ bundle frame stored, commandAfter lateMs = some (bundle, frame, stored) ∧
      flowCommandPolicyReferencesValid (some (savedWith bundle)) frame.policyIds frame.verdict
        frame.issuedAtMs frame.expiresAtMs = true ∧
      stored.commandId = frame.commandId ∧
      flowCommandPolicyReferencesValid (some (savedWith bundle)) stored.policyIds stored.verdict
        stored.issuedAtMs stored.expiresAtMs = false := by
  have hsome : (commandAfter lateMs).any (fun (bundle, frame, stored) =>
      flowCommandPolicyReferencesValid (some (savedWith bundle)) frame.policyIds frame.verdict
          frame.issuedAtMs frame.expiresAtMs
        && stored.commandId == frame.commandId
        && !flowCommandPolicyReferencesValid (some (savedWith bundle)) stored.policyIds
          stored.verdict stored.issuedAtMs stored.expiresAtMs) = true := by decide +kernel
  obtain ⟨⟨bundle, frame, stored⟩, hcommand, hrefused⟩ := (Option.any_eq_true _ _).1 hsome
  simp only [Bool.and_eq_true, beq_iff_eq, Bool.not_eq_true'] at hrefused
  exact ⟨bundle, frame, stored, hcommand, hrefused.1.1, hrefused.1.2, hrefused.2⟩

end Netqmon.Collector.Policy.FlowCommands
