import Netqmon.Agent.Executor.Details

/-! # When a plan's results pass validation

`Reportable` states, of the policies, the topology and the clock alone, when every result that
`buildPlan` reports is accepted by the validation of acknowledgements. The clients of a limit are
reported by the lower-case addresses under which the plan keeps them, but the wire format has
capital letters only. -/

namespace Netqmon.Agent.Executor.Acceptance

open Executor.Topology Plan Report Texts Enforcement Details Lib.RustStr Protocol.Policy
open Protocol.Validate

/-! ### Addresses with letters -/

def hasHexLetter (mac : String) : Bool := mac.toList.any fun c => 'A' ≤ c && c ≤ 'F'

theorem validMac_lowercase_iff {mac : String} (h : validMac mac = true) :
    validMac (toAsciiLowercase mac) = true ↔ hasHexLetter mac = false := by
  have hlet : ∀ c ∈ macAlphabet, ('A' ≤ c && c ≤ 'F') = true → c.toLower ∉ macAlphabet :=
    List.forall_iff_forall_mem.1 (by decide)
  have ho : ∀ c ∈ macAlphabet, ('A' ≤ c && c ≤ 'F') = false → c.toLower = c :=
    List.forall_iff_forall_mem.1 (by decide)
  rw [hasHexLetter]
  constructor
  · grind [toAsciiLowercase, String.toList_ofList, validMac_alphabet]
  · intro hn
    have hmap : mac.toList.map Char.toLower = mac.toList := by
      refine (List.map_congr_left fun c hc => ?_).trans (List.map_id _)
      grind [validMac_alphabet]
    rwa [toAsciiLowercase, hmap, String.ofList_toList]

/-! ### Degraded capabilities -/

theorem textsOk_degrade_iff (topo : PolicyTopology) (policy : PolicySnapshotEntry)
    {e : PolicyResult} (he : TextsOk e.reasonCode e.message) :
    TextsOk (degrade topo policy e).reasonCode (degrade topo policy e).message ↔
      (e.status = .applied →
        (isLimit policy = true → topo.capabilities.clientLimit = .degraded →
          TextsOk topo.clientLimitReasonCode topo.clientLimitReason) ∧
        (degradesBlock topo policy = true → TextsOk topo.reasonCode topo.reason)) := by
  have hcode : validText 128 "ipv6_unavailable" = true := by decide +kernel
  have hmsg : validMessage "rate limiting has partial address-family coverage" = true := by
    decide +kernel
  unfold degrade
  by_cases hlim : isLimit policy = true
  · have hb : degradesBlock topo policy = false := by simp [degradesBlock, hlim]
    rw [degradeLimit]
    split_ifs with hcond
    · simp only [hcond, hlim, hb, TextsOk]
      cases topo.clientLimitReasonCode <;> cases topo.clientLimitReason <;>
        simp [hcode, hmsg]
    · grind
  · grind [degradeBlock]

/-! ### Results -/

/-- The results of the plan pass validation. -/
structure Reportable (i : PlanInput) : Prop where
  /-- The address of a found client of a limit in force has no letter, and its interfaces and
  inherited rates are in order. -/
  clients : ∀ p ∈ i.policies, isLimit p = true → i.enforces p = true →
    ∀ mac ∈ p.spec.selectors.clients, i.finds mac = true →
      hasHexLetter mac = false ∧ RatesOk i p (toAsciiLowercase mac)
  /-- With a degraded limit capability, its reason is fit to be sent. -/
  limitTexts : i.topology.capabilities.clientLimit = .degraded → ∀ p ∈ i.policies,
    isLimit p = true →
    isUndisturbed i.topology i.intervals i.validUntilMs i.now p = true →
      TextsOk i.topology.clientLimitReasonCode i.topology.clientLimitReason
  /-- With a degraded block capability, the reason of the topology is. -/
  blockTexts : ∀ p ∈ i.policies, degradesBlock i.topology p = true →
    isUndisturbed i.topology i.intervals i.validUntilMs i.now p = true →
      TextsOk i.topology.reasonCode i.topology.reason

/-- The policies are those of an accepted snapshot. -/
structure PoliciesOk (policies : List PolicySnapshotEntry) : Prop where
  few : policies.length ≤ 256
  distinct : (policies.map (·.id)).Nodup
  ids : ∀ p ∈ policies, validText 128 p.id = true
  specs : ∀ p ∈ policies, SpecOk p.spec

theorem policiesOk_of_snapshot {s : PolicySnapshot} (h : SnapshotOk s) : PoliciesOk s.policies :=
  ⟨h.few, h.distinct, h.ids, fun p hp => validatePolicySpec_ok (h.specs p hp)⟩

variable {p : PolicySnapshotEntry}

theorem limitOk_of_specOk (h : SpecOk p.spec) (hlim : isLimit p = true) : LimitOk p := by
  have hkd : p.spec.action.kind = .limit := by simpa [isLimit] using hlim
  refine ⟨forall_direction.2 ⟨h.upload hkd, h.download hkd⟩, ?_⟩
  rcases h.someRate hkd with hrate | hrate
  · exact ⟨.upload, hrate⟩
  · exact ⟨.download, hrate⟩

/-- The result of one policy, as `results_buildPlan` gives it. -/
def reported (i : PlanInput) (p : PolicySnapshotEntry) : PolicyResult :=
  withDetails (limitDetails i.topology i.state p) p
    (degrade i.topology p (settledResult i.intervals i.validUntilMs i.now i.topology p))

theorem frame_reported (i : PlanInput) (p : PolicySnapshotEntry) :
    frame (reported i p) =
      (p.id, if isLimit p then some (limitDetails i.topology i.state p) else none) := by
  have hf := (frame_degrade i.topology p _).trans
    (frame_settledResult i.intervals i.validUntilMs i.now i.topology p)
  have hid := congrArg Prod.fst hf
  unfold reported withDetails
  split_ifs
  · exact Prod.ext hid rfl
  · exact hf

variable {i : PlanInput}

theorem textsOk_reported_iff (hspec : SpecOk p.spec) :
    TextsOk (reported i p).reasonCode (reported i p).message ↔
      (isUndisturbed i.topology i.intervals i.validUntilMs i.now p = true →
        (isLimit p = true → i.topology.capabilities.clientLimit = .degraded →
          TextsOk i.topology.clientLimitReasonCode i.topology.clientLimitReason) ∧
        (degradesBlock i.topology p = true → TextsOk i.topology.reasonCode i.topology.reason)) := by
  rw [← settledResult_applied, ← textsOk_degrade_iff i.topology p
    (textsOk_settledResult i.intervals i.validUntilMs i.now i.topology hspec.macs)]
  unfold reported withDetails
  split_ifs <;> rfl

theorem resultOk_reported_iff (hok : PoliciesOk i.policies) (hp : p ∈ i.policies) :
    ResultOk (reported i p) ↔
      TextsOk (reported i p).reasonCode (reported i p).message ∧
        (isLimit p = true → ∀ mac ∈ selected i p, validMac mac = true ∧ RatesOk i p mac) := by
  have hf := frame_reported i p
  have hid : (reported i p).policyId = p.id := congrArg Prod.fst hf
  have hdetails : (reported i p).details.all validDetails = true ↔
      (isLimit p = true → ∀ mac ∈ selected i p, validMac mac = true ∧ RatesOk i p mac) := by
    rw [show (reported i p).details = _ from congrArg Prod.snd hf]
    split_ifs with hlim
    · rw [Option.all_some, validDetails_iff i hok.distinct
        (fun q hq hq' => limitOk_of_specOk (hok.specs q hq) hq') hp hlim (hok.specs p hp).few]
      simp [hlim]
    · simp [hlim]
  rw [← hdetails]
  constructor
  · rintro ⟨-, hreason, hmsg, hdet⟩
    exact ⟨⟨hreason, hmsg⟩, hdet⟩
  · rintro ⟨⟨hreason, hmsg⟩, hdet⟩
    exact ⟨by rw [hid]; exact hok.ids p hp, hreason, hmsg, hdet⟩

/-- **Results and their validation.** The results of a plan are accepted exactly if the plan is
reportable. -/
theorem validateResults_iff (hok : PoliciesOk i.policies) :
    validateResults (i.policies.map (reported i)) = .ok () ↔ Reportable i := by
  have hids : (i.policies.map (reported i)).map (·.policyId) = i.policies.map (·.id) := by
    rw [List.map_map]
    exact List.map_congr_left fun p _ => congrArg Prod.fst (frame_reported i p)
  rw [validateResults_ok_iff, hids, List.length_map]
  simp only [hok.distinct, hok.few, and_true, List.forall_mem_map]
  constructor
  · intro hall
    have htexts := fun p hp => (textsOk_reported_iff (hok.specs p hp)).1
      ((resultOk_reported_iff hok hp).1 (hall p hp)).1
    refine ⟨fun p hp hlim henf mac hmac hfd => ?_,
      fun hdegraded p hp hlim hun => (htexts p hp hun).1 hlim hdegraded,
      fun p hp hb hun => (htexts p hp hun).2 hb⟩
    obtain ⟨hval, hrt⟩ := ((resultOk_reported_iff hok hp).1 (hall p hp)).2 hlim _
      ((mem_selected i hok.distinct hp).2 ⟨henf, mac, hmac, hfd, rfl⟩)
    exact ⟨(validMac_lowercase_iff ((hok.specs p hp).macs mac hmac)).1 hval, hrt⟩
  · intro h p hp
    refine (resultOk_reported_iff hok hp).2 ⟨(textsOk_reported_iff (hok.specs p hp)).2
      fun hun => ⟨fun hlim hdegraded => h.limitTexts hdegraded p hp hlim hun,
        fun hb => h.blockTexts p hp hb hun⟩, fun hlim mac hmac => ?_⟩
    obtain ⟨henf, m, hm, hfd, rfl⟩ := (mem_selected i hok.distinct hp).1 hmac
    obtain ⟨hlet, hrt⟩ := h.clients p hp hlim henf m hm hfd
    exact ⟨(validMac_lowercase_iff ((hok.specs p hp).macs m hm)).2 hlet, hrt⟩

end Netqmon.Agent.Executor.Acceptance
