import Mathlib

/-! # Attributions

An attribution says which application, organization and protocol a flow belongs to, each with a
confidence. `merge` takes over what the incoming attribution knows better.

`SameIdentity` is agreement on everything that later merges and the traffic tables look at. Up to
it a merge can be repeated (`absorbs_merge_self`). -/

namespace Netqmon.Storage.Attribution

/-- The evidence is kept as a list of items instead of its JSON text. Confidences are numbers, but
merging only compares them. -/
@[ext]
structure FlowAttribution (Score : Type := ℚ) where
  domain : Option String
  (organizationId applicationId categoryId trafficRole protocolId : String)
  (organizationConfidence applicationConfidence protocolConfidence confidence : Score)
  reason : String
  evidence : List String
deriving DecidableEq

namespace FlowAttribution

def unknown : FlowAttribution :=
  { domain := none
    organizationId := "unknown"
    applicationId := "unknown"
    categoryId := "unknown"
    trafficRole := "unknown"
    protocolId := "unknown"
    organizationConfidence := 0
    applicationConfidence := 0
    protocolConfidence := 0
    confidence := 0
    reason := "no matching rule"
    evidence := [] }

end FlowAttribution

variable {Score : Type} [LinearOrder Score]

def known (id : String) : Bool := id != "" && id != "unknown"

def improves (old : String) (oldScore : Score) (new : String) (newScore : Score) : Bool :=
  known new && (!known old || oldScore < newScore)

variable (evidence incoming : List String)

def mergeEvidence : List String :=
  incoming.foldl (fun acc item => if item ∈ acc then acc else acc ++ [item]) evidence

def merge (current incoming : FlowAttribution Score) : FlowAttribution Score :=
  let app := improves current.applicationId current.applicationConfidence
    incoming.applicationId incoming.applicationConfidence
  let org := improves current.organizationId current.organizationConfidence
    incoming.organizationId incoming.organizationConfidence
  let protocol := improves current.protocolId current.protocolConfidence
    incoming.protocolId incoming.protocolConfidence
  let applicationId := if app then incoming.applicationId else current.applicationId
  let applicationConfidence :=
    if app then incoming.applicationConfidence else current.applicationConfidence
  let organizationConfidence :=
    if org then incoming.organizationConfidence else current.organizationConfidence
  let protocolId := if protocol then incoming.protocolId else current.protocolId
  let protocolConfidence :=
    if protocol then incoming.protocolConfidence else current.protocolConfidence
  -- category and role follow the application once one is known
  let category := !known applicationId && known incoming.categoryId
    && (!known current.categoryId || protocol || org)
  let role := !known applicationId && known incoming.trafficRole
    && (!known current.trafficRole || protocol || org)
  let changed := app || org || protocol || category || role
  { domain :=
      if incoming.domain.isSome && (current.domain.isNone || app) then incoming.domain
      else current.domain
    organizationId := if org then incoming.organizationId else current.organizationId
    applicationId
    categoryId := if app || category then incoming.categoryId else current.categoryId
    trafficRole := if app || role then incoming.trafficRole else current.trafficRole
    protocolId
    organizationConfidence
    applicationConfidence
    protocolConfidence
    confidence :=
      if known applicationId then applicationConfidence
      else if known protocolId then protocolConfidence
      else organizationConfidence
    reason :=
      if changed && (app || !known applicationId) then incoming.reason else current.reason
    evidence :=
      if changed then mergeEvidence current.evidence incoming.evidence else current.evidence }

/-! ### One id -/

section Id

variable {old new other : String} {oldScore newScore otherScore : Score}

theorem improves_self : improves old oldScore old oldScore = false := by
  cases h : known old <;> simp [improves]

/-- The id after a merge. -/
def taken (old : String) (oldScore : Score) (new : String) (newScore : Score) : String :=
  if improves old oldScore new newScore then new else old

def takenScore (old : String) (oldScore : Score) (new : String) (newScore : Score) : Score :=
  if improves old oldScore new newScore then newScore else oldScore

theorem known_taken : known (taken old oldScore new newScore) = (known old || known new) := by
  unfold taken improves
  cases ho : known old <;> cases hn : known new <;> simp [ho, hn]
  split_ifs <;> simp [ho, hn]

theorem improves_taken :
    improves (taken old oldScore new newScore) (takenScore old oldScore new newScore) new newScore
      = false := by
  unfold taken takenScore
  split_ifs with h
  · exact improves_self
  · exact Bool.eq_false_of_not_eq_true h

theorem improves_taken_right :
    improves old oldScore (taken old oldScore new newScore) (takenScore old oldScore new newScore)
      = improves old oldScore new newScore := by
  unfold taken takenScore
  split_ifs with h
  · rfl
  · rw [improves_self, Bool.eq_false_of_not_eq_true h]

end Id

/-! ### Aspects of an attribution -/

/-- What an attribution identifies with a confidence of its own. -/
inductive Aspect
  | organization
  | application
  | protocol

/-- What follows the application, if that is known. -/
inductive Follower
  | category
  | role

namespace FlowAttribution

variable (x : FlowAttribution Score)

def id : Aspect → String
  | .organization => x.organizationId
  | .application => x.applicationId
  | .protocol => x.protocolId

def score : Aspect → Score
  | .organization => x.organizationConfidence
  | .application => x.applicationConfidence
  | .protocol => x.protocolConfidence

def follower : Follower → String
  | .category => x.categoryId
  | .role => x.trafficRole

/-- The incoming attribution improves an aspect. -/
def improvedBy (x a : FlowAttribution Score) (aspect : Aspect) : Bool :=
  improves (x.id aspect) (x.score aspect) (a.id aspect) (a.score aspect)

/-- Without an application, category and role are taken from an incoming attribution that knows
them, if they are unknown or it improves the protocol or the organization. -/
def followsFrom (x a : FlowAttribution Score) (follower : Follower) : Bool :=
  !known ((merge x a).id .application) && known (a.follower follower)
    && (!known (x.follower follower) || x.improvedBy a .protocol || x.improvedBy a .organization)

/-- What the incoming attribution brings is more than a domain. -/
def changed (x a : FlowAttribution Score) : Bool :=
  x.improvedBy a .application || x.improvedBy a .organization || x.improvedBy a .protocol
    || x.followsFrom a .category || x.followsFrom a .role

end FlowAttribution

open FlowAttribution

variable {x y z a b : FlowAttribution Score}

variable (aspect : Aspect)

theorem id_merge :
    (merge x a).id aspect = if x.improvedBy a aspect then a.id aspect else x.id aspect := by
  cases aspect <;> rfl

theorem score_merge :
    (merge x a).score aspect = if x.improvedBy a aspect then a.score aspect else x.score aspect := by
  cases aspect <;> rfl

variable {follower : Follower}

theorem follower_merge :
    (merge x a).follower follower =
      if x.improvedBy a .application || x.followsFrom a follower then a.follower follower
      else x.follower follower := by
  cases follower <;> rfl

theorem domain_merge : (merge x a).domain =
    if a.domain.isSome && (x.domain.isNone || x.improvedBy a .application) then a.domain
    else x.domain := rfl

theorem reason_merge : (merge x a).reason =
    if x.changed a && (x.improvedBy a .application || !known ((merge x a).id .application))
    then a.reason else x.reason := rfl

theorem evidence_merge : (merge x a).evidence =
    if x.changed a then mergeEvidence x.evidence a.evidence else x.evidence := rfl

theorem known_merge :
    known ((merge x a).id aspect) = (known (x.id aspect) || known (a.id aspect)) := by
  rw [id_merge]
  exact known_taken

theorem improvedBy_merge_self : (merge x a).improvedBy a aspect = false := by
  rw [improvedBy, id_merge, score_merge]
  exact improves_taken

theorem improvedBy_merge_right : x.improvedBy (merge x a) aspect = x.improvedBy a aspect := by
  rw [improvedBy, id_merge, score_merge]
  exact improves_taken_right

/-! ### Identity -/

/-- Agreement on the ids, and on the confidence of those that are known. -/
structure SameIdentity (x y : FlowAttribution Score) : Prop where
  id : ∀ aspect, x.id aspect = y.id aspect
  score : ∀ aspect, known (x.id aspect) = true → x.score aspect = y.score aspect
  follower : ∀ follower, x.follower follower = y.follower follower
  domain : x.domain = y.domain

section Equivalence

omit [LinearOrder Score]

theorem SameIdentity.refl (x : FlowAttribution Score) : SameIdentity x x :=
  ⟨fun _ => rfl, fun _ _ => rfl, fun _ => rfl, rfl⟩

theorem SameIdentity.symm (h : SameIdentity x y) : SameIdentity y x :=
  ⟨fun d => (h.id d).symm, fun d hd => (h.score d (h.id d ▸ hd)).symm,
    fun f => (h.follower f).symm, h.domain.symm⟩

theorem SameIdentity.trans (h : SameIdentity x y) (h' : SameIdentity y z) : SameIdentity x z :=
  ⟨fun d => (h.id d).trans (h'.id d), fun d hd => (h.score d hd).trans (h'.score d (h.id d ▸ hd)),
    fun f => (h.follower f).trans (h'.follower f), h.domain.trans h'.domain⟩

end Equivalence

theorem merge_congr (h : SameIdentity x y) (h' : SameIdentity a b) :
    SameIdentity (merge x a) (merge y b) := by
  have himp : ∀ aspect, x.improvedBy a aspect = y.improvedBy b aspect := by
    intro aspect
    have hold := h.score aspect
    have hnew := h'.score aspect
    unfold improvedBy improves
    rw [← h.id, ← h'.id]
    cases hn : known (a.id aspect) with
    | false => rfl
    | true => grind
  have hid : ∀ aspect, (merge x a).id aspect = (merge y b).id aspect := by
    intro aspect
    rw [id_merge, id_merge, himp, h.id, h'.id]
  refine ⟨hid, fun aspect hkn => ?_, fun follower => ?_, ?_⟩
  · rw [score_merge, score_merge, himp]
    rw [id_merge, himp] at hkn
    split_ifs at hkn ⊢
    · exact h'.score aspect hkn
    · exact h.score aspect hkn
  · rw [follower_merge, follower_merge, followsFrom, followsFrom, hid, himp, himp,
      himp, h.follower, h'.follower]
  · rw [domain_merge, domain_merge, himp, h.domain, h'.domain]

/-! ### Merging twice -/

/-- Merging `a` into `x` changes nothing any more. -/
structure Absorbs (x a : FlowAttribution Score) : Prop where
  id : ∀ aspect, x.improvedBy a aspect = false
  follower : ∀ follower, known (x.id .application) = true ∨ known (a.follower follower) = false ∨
    known (x.follower follower) = true
  domain : a.domain.isSome = true → x.domain.isSome = true

theorem Absorbs.id_merge_eq (h : Absorbs x a) (aspect : Aspect) :
    (merge x a).id aspect = x.id aspect := by
  rw [id_merge, h.id]
  rfl

theorem Absorbs.followsFrom_eq (h : Absorbs x a) : x.followsFrom a follower = false := by
  rw [followsFrom, h.id_merge_eq, h.id, h.id]
  rcases h.follower follower with h | h | h <;> simp [h]

theorem Absorbs.same (h : Absorbs x a) : SameIdentity (merge x a) x := by
  refine ⟨h.id_merge_eq, fun aspect _ => ?_, fun follower => ?_, ?_⟩
  · rw [score_merge, h.id]
    rfl
  · rw [follower_merge, h.id, h.followsFrom_eq]
    rfl
  · rw [domain_merge, h.id]
    cases ha : a.domain with
    | none => rfl
    | some d =>
      obtain ⟨d', hd'⟩ := Option.isSome_iff_exists.1 (h.domain (by rw [ha]; rfl))
      rw [hd']
      rfl

theorem absorbs_merge_self (x a : FlowAttribution Score) : Absorbs (merge x a) a := by
  refine ⟨improvedBy_merge_self, fun follower => ?_, fun hdomain => ?_⟩
  · cases happ : known ((merge x a).id .application) with
    | true => exact .inl rfl
    | false =>
      cases ha : known (a.follower follower) with
      | false => exact .inr (.inl rfl)
      | true =>
        rw [follower_merge]
        grind [followsFrom]
  · grind [domain_merge, Option.isSome_iff_ne_none]

theorem merge_merge_right (x a : FlowAttribution Score) :
    SameIdentity (merge x (merge x a)) (merge x a) := by
  have hid : ∀ aspect, (merge x (merge x a)).id aspect = (merge x a).id aspect := by
    grind [id_merge, improvedBy_merge_right]
  refine ⟨hid, fun aspect _ => ?_, fun follower => ?_, ?_⟩
  · rw [score_merge, improvedBy_merge_right, score_merge]
    split_ifs <;> rfl
  · grind [follower_merge, followsFrom, improvedBy_merge_right]
  · rw [domain_merge, improvedBy_merge_right, domain_merge]
    split_ifs <;> simp_all

/-! ### Equality -/

/-- Merges that identify the same are equal if all scores, the reason and the evidence are: the
overall confidence is computed from the ids and the scores. -/
theorem merge_ext (h : SameIdentity (merge x a) (merge y b))
    (hscore : ∀ aspect, (merge x a).score aspect = (merge y b).score aspect)
    (hreason : (merge x a).reason = (merge y b).reason)
    (hev : (merge x a).evidence = (merge y b).evidence) : merge x a = merge y b := by
  refine FlowAttribution.ext h.domain (h.id .organization) (h.id .application) (h.follower .category)
    (h.follower .role) (h.id .protocol) (hscore .organization) (hscore .application)
    (hscore .protocol) ?_ hreason hev
  change (if known ((merge x a).id .application) then (merge x a).score .application
    else if known ((merge x a).id .protocol) then (merge x a).score .protocol
    else (merge x a).score .organization) = _
  rw [h.id, h.id, hscore, hscore, hscore]
  rfl

theorem merge_merge_self_eq (x a : FlowAttribution Score) : merge (merge x a) a = merge x a := by
  have habs := absorbs_merge_self x a
  have hch : (merge x a).changed a = false := by
    simp [changed, habs.id, habs.followsFrom_eq]
  refine merge_ext habs.same (fun aspect => ?_) ?_ ?_
  · rw [score_merge, habs.id]
    rfl
  · rw [reason_merge, hch]
    rfl
  · rw [evidence_merge, hch]
    rfl

theorem mergeEvidence_of_subset {evidence incoming : List String} (h : incoming ⊆ evidence) :
    mergeEvidence evidence incoming = evidence := by
  induction incoming with
  | nil => rfl
  | cons item rest ih =>
    rw [List.cons_subset] at h
    rw [mergeEvidence, List.foldl_cons, if_pos h.1]
    exact ih h.2

theorem mergeEvidence_mergeEvidence :
    mergeEvidence evidence (mergeEvidence evidence incoming) = mergeEvidence evidence incoming := by
  have hconcat : ∀ items item, mergeEvidence evidence (items ++ [item]) =
      if item ∈ mergeEvidence evidence items then mergeEvidence evidence items
      else mergeEvidence evidence items ++ [item] := by
    intro items item
    rw [mergeEvidence, List.foldl_append]
    rfl
  -- from the back: what one more item adds is added again
  induction incoming using List.reverseRecOn with
  | nil => exact mergeEvidence_of_subset (List.Subset.refl evidence)
  | append_singleton items item ih =>
    rw [hconcat]
    split_ifs with hmem
    · exact ih
    · rw [hconcat, ih, if_neg hmem]

theorem merge_merge_right_eq (x a : FlowAttribution Score) : merge x (merge x a) = merge x a := by
  have hsm := merge_merge_right x a
  have hch : x.changed (merge x a) = x.changed a := by
    have happ := hsm.id .application
    simp only [changed]
    grind [followsFrom, follower_merge, improvedBy_merge_right]
  refine merge_ext hsm (fun aspect => ?_) ?_ ?_
  · rw [score_merge, improvedBy_merge_right, score_merge]
    split_ifs <;> rfl
  · rw [reason_merge, hch, improvedBy_merge_right, hsm.id, reason_merge]
    split_ifs <;> rfl
  · rw [evidence_merge, hch, evidence_merge]
    split_ifs
    · exact mergeEvidence_mergeEvidence ..
    · rfl

/-- **Stable improvement.** A merge changes nothing when the same attribution, or the result of the
merge, is merged again. What is known stays known, with no less confidence. -/
theorem merge_stable (x a : FlowAttribution Score) :
    merge (merge x a) a = merge x a ∧ merge x (merge x a) = merge x a ∧
      ∀ aspect, known (x.id aspect) = true → known ((merge x a).id aspect) = true ∧
        x.score aspect ≤ (merge x a).score aspect := by
  refine ⟨merge_merge_self_eq x a, merge_merge_right_eq x a, fun aspect hknown => ⟨?_, ?_⟩⟩
  · rw [known_merge, hknown]
    rfl
  · rw [score_merge]
    split_ifs with himproved
    · simp only [improvedBy, improves, hknown, Bool.not_true, Bool.false_or, Bool.and_eq_true,
        decide_eq_true_eq] at himproved
      exact himproved.2.le
    · exact le_rfl

variable {id : String}

theorem eq_unknown_of_not_known (hid : id ≠ "") (h : known id = false) : id = "unknown" := by
  simpa [known, hid] using h

/-- What merging makes of attributions: an empty category or role came with an application. -/
structure Formed (x : FlowAttribution Score) : Prop where
  id : ∀ aspect, x.id aspect ≠ ""
  follower : ∀ follower, known (x.id .application) = true ∨ x.follower follower ≠ ""

theorem formed_unknown : Formed .unknown :=
  ⟨fun aspect => by cases aspect <;> decide, fun follower => .inr (by cases follower <;> decide)⟩

theorem ne_empty_of_known (h : known id = true) : id ≠ "" := by
  rintro rfl
  exact absurd h (by decide)

theorem known_of_improvedBy {aspect : Aspect} (h : x.improvedBy a aspect = true) :
    known (a.id aspect) = true :=
  (Bool.and_eq_true_iff.1 h).1

theorem Formed.merge (h : Formed x) (a : FlowAttribution Score) : Formed (merge x a) := by
  refine ⟨fun aspect => ?_, fun follower => ?_⟩
  · rw [id_merge]
    split_ifs with himp
    · exact ne_empty_of_known (known_of_improvedBy himp)
    · exact h.id aspect
  · rw [known_merge, follower_merge, Bool.or_eq_true]
    by_cases happ : x.improvedBy a .application = true
    · exact .inl (.inr (known_of_improvedBy happ))
    · cases hfol : x.followsFrom a follower with
      | true =>
        have hkn : known (a.follower follower) = true := by
          unfold followsFrom at hfol
          simp_all
        grind [ne_empty_of_known]
      | false =>
        rw [Bool.eq_false_of_not_eq_true happ, Bool.or_false]
        exact (h.follower follower).imp_left .inl

theorem merge_unknown {x : FlowAttribution} (h : Formed x) : SameIdentity (merge .unknown x) x := by
  have hunknown : ∀ aspect, FlowAttribution.unknown.id aspect = "unknown" := by
    intro aspect; cases aspect <;> rfl
  have himp : ∀ aspect, FlowAttribution.unknown.improvedBy x aspect = known (x.id aspect) := by
    intro aspect
    rw [improvedBy, improves, hunknown, show known "unknown" = false by decide]
    simp
  have hid : ∀ aspect, (merge .unknown x).id aspect = x.id aspect := by
    intro aspect
    rw [id_merge, himp]
    split_ifs with hkn
    · rfl
    · rw [hunknown, eq_unknown_of_not_known (h.id aspect) (Bool.eq_false_of_not_eq_true hkn)]
  refine ⟨hid, fun aspect hkn => ?_, fun follower => ?_, ?_⟩
  · grind [score_merge]
  · have hfollower : FlowAttribution.unknown.follower follower = "unknown" := by
      cases follower <;> rfl
    rw [follower_merge, followsFrom, hid, hfollower, show known "unknown" = false by decide]
    split_ifs with htaken
    · rfl
    · have happ : known (x.id .application) = false := by simp_all
      refine (eq_unknown_of_not_known ((h.follower follower).resolve_left ?_) ?_).symm
      · rw [happ]
        exact Bool.false_ne_true
      · simp_all
  · rw [domain_merge]
    cases x.domain <;> rfl

end Netqmon.Storage.Attribution
