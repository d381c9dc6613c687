import Netqmon.Collector.Policy.Admission
import Netqmon.Collector.Policy.Evaluator
import Netqmon.Collector.Policy.Service

/-! # Limits do not overlap

Two application limits are never active for one flow. The check for overlaps is made when a policy is
created or edited; switching a policy does not change what it selects. The check is sound for the
evaluation of flows: two limits that match one flow name the same client, and the same application or
category or one of each. -/

namespace Netqmon.Collector.Policy.Overlap

open Lib.Keyed Lib.RustStr Protocol.Policy Protocol.Validate Validation Admission Service Evaluator

/-! ### The check is sound -/

theorem meets_eq_true {left right : List String} {v : String} (hlf : v ∈ left)
    (hrt : v ∈ right) : meets left right = true :=
  List.any_eq_true.2 ⟨v, hlf, by simpa using hrt⟩

theorem meets_comm (left right : List String) : meets left right = meets right left := by
  grind [meets]

theorem applicationLimitsOverlap_iff {left right : PolicySpecV1} :
    applicationLimitsOverlap left right = true ↔
      left.gatewayId = right.gatewayId ∧ limitsApplications left = true ∧
        limitsApplications right = true ∧
        meets left.selectors.clients right.selectors.clients = true ∧
        (meets left.selectors.applications right.selectors.applications = true ∨
          meets left.selectors.categories right.selectors.categories = true ∨
          (left.selectors.applications ≠ [] ∧ right.selectors.categories ≠ [] ∨
            left.selectors.categories ≠ [] ∧ right.selectors.applications ≠ [])) := by
  unfold applicationLimitsOverlap
  by_cases hgw : left.gatewayId = right.gatewayId
  · grind
  · simp [hgw]

theorem applicationLimitsOverlap_comm (left right : PolicySpecV1) :
    applicationLimitsOverlap left right = applicationLimitsOverlap right left := by
  rw [Bool.eq_iff_iff, applicationLimitsOverlap_iff, applicationLimitsOverlap_iff,
    meets_comm left.selectors.clients, meets_comm left.selectors.applications,
    meets_comm left.selectors.categories]
  have hcross : (left.selectors.applications ≠ [] ∧ right.selectors.categories ≠ [] ∨
      left.selectors.categories ≠ [] ∧ right.selectors.applications ≠ []) ↔
      (right.selectors.applications ≠ [] ∧ left.selectors.categories ≠ [] ∨
        right.selectors.categories ≠ [] ∧ left.selectors.applications ≠ []) := by
    rw [or_comm, and_comm, and_comm (b := right.selectors.categories ≠ [])]
  rw [hcross, eq_comm]
  exact and_congr_right fun _ => and_left_comm

variable {spec : PolicySpecV1}

theorem clients_ne_nil (h : Normal spec) (happs : spec.selectsApplications = true) :
    spec.selectors.clients ≠ [] := by
  have ha := h.action
  simp only [validateAction, List.append_eq_nil_iff, issueIf_eq_nil, happs] at ha
  exact List.isEmpty_eq_false_iff.1 ha.1

variable {request : PolicyPreviewRequest}

/-- What it means for the selectors of a policy to match a flow. -/
theorem appCondition_cases {selectors : PolicySelectors}
    (hsel : selectors.applications ≠ [] ∨ selectors.categories ≠ [])
    (h : appCondition selectors request = true) :
    request.applicationId ∈ selectors.applications ∨ request.categoryId ∈ selectors.categories := by
  unfold appCondition at h
  by_cases happs : selectors.applications = []
  · grind
  · grind

variable {zones : Zones}

/-- **The check is sound.** Limits that apply to one flow overlap. -/
theorem overlap_of_applies {left right : PolicySnapshotEntry} (hlf : Normal left.spec)
    (hrt : Normal right.spec) (hl : applies zones request left = true)
    (hr : applies zones request right = true) (hlim : left.spec.action.kind = .limit)
    (hlimit' : right.spec.action.kind = .limit) :
    applicationLimitsOverlap left.spec right.spec = true := by
  simp only [applies, selectorsMatch, Bool.and_eq_true, beq_iff_eq] at hl hr
  obtain ⟨⟨⟨hgw, hselects⟩, -⟩, ⟨hcli, hcondition⟩, -⟩ := hl
  obtain ⟨⟨⟨hgateway', hselects'⟩, -⟩, ⟨hclient', hcondition'⟩, -⟩ := hr
  have hnamed : ∀ {spec : PolicySpecV1}, Normal spec → spec.selectsApplications = true →
      (spec.selectors.clients.isEmpty || spec.selectors.clients.any fun client =>
        eqIgnoreAsciiCase client (toAsciiUppercase request.clientMac)) = true →
      ∃ client ∈ spec.selectors.clients,
        toAsciiLowercase client = toAsciiLowercase (toAsciiUppercase request.clientMac) := by
    intro spec hspec happs hcli
    rw [List.isEmpty_eq_false_iff.2 (clients_ne_nil hspec happs), Bool.false_or,
      List.any_eq_true] at hcli
    obtain ⟨client, hmem, heq⟩ := hcli
    exact ⟨client, hmem, beq_iff_eq.1 heq⟩
  have hsel : ∀ {spec : PolicySpecV1}, spec.selectsApplications = true →
      spec.selectors.applications ≠ [] ∨ spec.selectors.categories ≠ [] := by
    intro spec h
    simpa [PolicySpecV1.selectsApplications] using h
  obtain ⟨client, hmem, heq⟩ := hnamed hlf hselects hcli
  obtain ⟨client', hmem', heq'⟩ := hnamed hrt hselects' hclient'
  have hsm : client = client' := validMac_eq_of_lowercase (hlf.clients client hmem)
    (hrt.clients client' hmem') (heq.trans heq'.symm)
  rw [applicationLimitsOverlap_iff]
  refine ⟨hgw.1.1.1.trans hgateway'.1.1.1.symm, by simp [limitsApplications, hlim, hselects],
    by simp [limitsApplications, hlimit', hselects'], meets_eq_true hmem (hsm ▸ hmem'), ?_⟩
  rcases appCondition_cases (hsel hselects) hcondition with happ | hcat
  · rcases appCondition_cases (hsel hselects') hcondition' with happ' | hcat'
    · exact .inl (meets_eq_true happ happ')
    · grind
  · rcases appCondition_cases (hsel hselects') hcondition' with happ' | hcat'
    · grind
    · exact .inr (.inl (meets_eq_true hcat hcat'))

/-! ### The stored policies -/

/-- What the service keeps of the stored policies. -/
structure Apart (t : Tables) : Prop where
  gateway : ∀ id row, t.policies.lookup id = some row → row.gatewayId = row.spec.gatewayId
  normal : ∀ id row, t.policies.lookup id = some row → Normal row.spec
  apart : ∀ id row other row', id ≠ other → t.policies.lookup id = some row →
    t.policies.lookup other = some row' → applicationLimitsOverlap row.spec row'.spec = false

/-- A policy that went through the validation of the handlers. -/
def Validated (zones : Zones) (spec : PolicySpecV1) : Prop :=
  ∃ known raw, normalizeAndValidate zones known raw = (spec, [])

theorem Validated.normal (h : Validated zones spec) : Normal spec := by
  obtain ⟨known, raw, hraw⟩ := h
  have hnormal := @normal_of_no_issue raw zones known (by rw [hraw])
  rwa [hraw] at hnormal

theorem apart_empty : Apart .empty :=
  ⟨fun _ _ h => by simp [Tables.empty] at h, fun _ _ h => by simp [Tables.empty] at h,
    fun _ _ _ _ _ h => by simp [Tables.empty] at h⟩

variable {t : Tables} {id : String}

theorem Apart.insert {t' : Tables} (h : Apart t) {row : PolicyRow}
    (hps : t'.policies = t.policies.insert id row)
    (hgw : row.gatewayId = row.spec.gatewayId) (hnormal : Normal row.spec)
    (hsol : ∀ other row', other ≠ id → t.policies.lookup other = some row' →
      applicationLimitsOverlap row.spec row'.spec = false) : Apart t' := by
  have hl : ∀ other row', t'.policies.lookup other = some row' →
      (other = id ∧ row' = row) ∨ (other ≠ id ∧ t.policies.lookup other = some row') := by
    intro other row' hrow'
    rw [hps, lookup_insert_ite] at hrow'
    split_ifs at hrow' with heq
    · exact .inl ⟨heq, (Option.some.inj hrow').symm⟩
    · exact .inr ⟨heq, hrow'⟩
  refine ⟨fun other row' hrow' => ?_, fun other row' hrow' => ?_,
    fun a row₁ b row₂ hne ha hb => ?_⟩
  · rcases hl other row' hrow' with ⟨-, rfl⟩ | ⟨-, hold⟩
    · exact hgw
    · exact h.gateway other row' hold
  · rcases hl other row' hrow' with ⟨-, rfl⟩ | ⟨-, hold⟩
    · exact hnormal
    · exact h.normal other row' hold
  · rcases hl a row₁ ha with ⟨rfl, rfl⟩ | ⟨hane, ha⟩
    · grind
    · rcases hl b row₂ hb with ⟨rfl, rfl⟩ | ⟨hbne, hb⟩
      · rw [applicationLimitsOverlap_comm]
        exact hsol a row₁ hane ha
      · exact h.apart a row₁ b row₂ hne ha hb

/-- Rows of other gateways never overlap, so it is enough to compare with those of the gateway. -/
theorem Apart.of_solitary (h : Apart t) (hsol : Solitary t id spec) (other : String)
    (row : PolicyRow) (ho : other ≠ id) (hrow : t.policies.lookup other = some row) :
    applicationLimitsOverlap spec row.spec = false := by
  by_cases hgw : row.gatewayId = spec.gatewayId
  · exact hsol other row ho hrow hgw
  · rw [h.gateway other row hrow] at hgw
    grind [applicationLimitsOverlap_iff.1]

theorem Apart.perform {library : Library} {call : Call} {res : MutationResult × Tables}
    (h : Apart t) (hspec : ∀ spec ∈ call.request.spec, Validated library.zones spec)
    (hc : perform library call t = .ok res) : Apart res.2 := by
  have heff := (perform_spec hc).1
  generalize hps : res.2.policies = policies at heff
  obtain ⟨nowMs, actor, request⟩ := call
  cases heff with
  | unchanged => exact ⟨hps ▸ h.gateway, hps ▸ h.normal, hps ▸ h.apart⟩
  | created hfr hrow hgw hsol =>
    subst hrow
    exact h.insert hps hgw (hspec _ rfl).normal (h.of_solitary hsol)
  | updated hold hsm hrow hgw hsol =>
    subst hrow
    exact h.insert hps (by rw [hgw, h.gateway _ _ hold, hsm]) (hspec _ rfl).normal
      (h.of_solitary hsol)
  | switched hold hrow hgw =>
    refine h.insert hps ?_ ?_ fun other row' ho hrow' => ?_
    · rw [hgw, h.gateway _ _ hold, hrow]
    · rw [hrow]
      exact { (h.normal _ _ hold) with }
    · rw [hrow]
      exact h.apart _ _ _ _ (Ne.symm ho) hold hrow'
  | deleted =>
    rename_i id revision
    have hl : ∀ other row, res.2.policies.lookup other = some row →
        t.policies.lookup other = some row := by
      intro other row hrow
      rw [hps] at hrow
      by_cases heq : other = id
      · grind
      · rwa [AList.lookup_erase_ne heq] at hrow
    exact ⟨fun other row hrow => h.gateway other row (hl other row hrow),
      fun other row hrow => h.normal other row (hl other row hrow),
      fun a row₁ b row₂ hne ha hb => h.apart a row₁ b row₂ hne (hl a row₁ ha)
        (hl b row₂ hb)⟩

/-! ### Evaluation -/

theorem length_le_one_of_forall_eq {α : Type} {l : List α} (hnd : l.Nodup)
    (h : ∀ a ∈ l, ∀ b ∈ l, a = b) : l.length ≤ 1 := by
  match l, hnd with
  | [], _ => exact Nat.zero_le _
  | [a], _ => exact le_refl _
  | a :: b :: l, hnd =>
    have heq := h a (by simp) b (by simp)
    simp [heq] at hnd

/-- **One limit per flow.** After any sequence of calls with validated policies no flow has more than
one active limit. -/
theorem one_limit_per_flow (library : Library) (calls : List Call)
    (hvalidated : ∀ call ∈ calls, ∀ spec ∈ call.request.spec, Validated library.zones spec)
    (gatewayId : String) (request : PolicyPreviewRequest) (blockSupported limitSupported : Bool) :
    (evaluatePreview library.zones request (Service.snapshot (run library calls) gatewayId).2
      blockSupported limitSupported).activeLimits.length ≤ 1 := by
  have hapart : Apart (run library calls) :=
    run_induction apart_empty fun t call result hmem hcall h =>
      h.perform (hvalidated call hmem) hcall
  have hnodup := (nodup_snapshot (run library calls) gatewayId).of_map
  have hmem := @mem_snapshot (run library calls) gatewayId
  generalize (Service.snapshot (run library calls) gatewayId).2 = policies at hnodup hmem
  dsimp only [evaluatePreview]
  rw [List.length_map]
  have hlimit : ∀ policy ∈ (matching library.zones request policies).filter
      (·.spec.action.kind == .limit), policy ∈ policies ∧
        applies library.zones request policy = true ∧ policy.spec.action.kind = .limit := by
    intro policy hpolicy
    obtain ⟨hpolicy, hkind⟩ := List.mem_filter.1 hpolicy
    have happlies := List.mem_filter.1 (mem_matching hpolicy)
    exact ⟨happlies.1, happlies.2, beq_iff_eq.1 hkind⟩
  have hmatching : (matching library.zones request policies).Nodup := by
    unfold matching
    split_ifs
    · exact (List.perm_insertionSort _ _).nodup_iff.2 (hnodup.filter _)
    · exact List.nodup_nil
  refine length_le_one_of_forall_eq (hmatching.filter _) fun left hl right hr => ?_
  obtain ⟨hl, happliesl, hkindl⟩ := hlimit left hl
  obtain ⟨hr, happliesr, hkindr⟩ := hlimit right hr
  obtain ⟨rowl, hrowl, -, hspecl⟩ := hmem.1 hl
  obtain ⟨rowr, hrowr, -, hspecr⟩ := hmem.1 hr
  have hoverlap := overlap_of_applies (hspecl ▸ hapart.normal _ _ hrowl)
    (hspecr ▸ hapart.normal _ _ hrowr) happliesl happliesr hkindl hkindr
  by_contra hne
  have hids : left.id ≠ right.id := by
    intro hid
    rw [hid, hrowr] at hrowl
    cases hrowl
    obtain ⟨idl, specl⟩ := left
    obtain ⟨idr, specr⟩ := right
    simp_all
  rw [hspecl, hspecr, hapart.apart _ _ _ _ hids hrowl hrowr] at hoverlap
  cases hoverlap

/-- A limit of one application for one client. -/
def limitSpec (application : String) : PolicySpecV1 :=
  { blockOf application with action := ⟨.limit, some 1000000, none⟩ }

/-- A limit, one that overlaps it and is refused, one of another application, and switching. -/
def limitCalls : List Call :=
  [⟨1000, "admin", .create "a" (limitSpec "video") 0⟩,
    ⟨2000, "admin", .create "b" (limitSpec "video") 1⟩,
    ⟨3000, "admin", .create "c" (limitSpec "games") 1⟩,
    ⟨4000, "admin", .setEnabled "a" false 2 1⟩,
    ⟨5000, "admin", .setEnabled "a" true 3 2⟩]

def videoRequest : PolicyPreviewRequest :=
  ⟨"gateway-1", "02:00:00:00:00:01", "video", "media", some (95 / 100), "internet", 6000⟩

theorem one_limit_of_video :
    (Service.snapshot (run sampleLibrary limitCalls) "gateway-1").2.length = 2 ∧
      (evaluatePreview sampleLibrary.zones videoRequest
        (Service.snapshot (run sampleLibrary limitCalls) "gateway-1").2 true true).activeLimits ≠ [] ∧
      (evaluatePreview sampleLibrary.zones videoRequest
        (Service.snapshot (run sampleLibrary limitCalls) "gateway-1").2
          true true).activeLimits.length ≤ 1 := by
  refine ⟨by decide +kernel, by decide +kernel,
    one_limit_per_flow sampleLibrary limitCalls (fun call hcall spec hspec => ?_) "gateway-1"
      videoRequest true true⟩
  have hvalid : spec = limitSpec "video" ∨ spec = limitSpec "games" := by
    simp only [limitCalls] at hcall
    grind [Request.spec]
  rcases hvalid with rfl | rfl
  · exact ⟨none, limitSpec "video", by decide +kernel⟩
  · exact ⟨none, limitSpec "games", by decide +kernel⟩

end Netqmon.Collector.Policy.Overlap
