import Netqmon.Agent.Priority.Agreement

/-! # When the selection changes

The agent keeps a selection until the next transition that came with it. `Steady` says of a scheduled
policy that nothing of its schedule has passed between two times; a selection tells by its next
transition that all of its policies are steady (`before_iff_steady`), and the loop over steady policies
does the same at both times (`selectPolicy_steady`). A refusal comes without a next transition. -/

namespace Netqmon.Agent.Priority.Transitions

open Agreement Executor.Topology Lib.Checks Lib.Ordered Protocol.Policy Protocol.Validate Selection

variable {snapshot : PolicySnapshot} {now t : ℤ} {policy : PolicySnapshotEntry}

/-- The moment after `now` at which the schedule of the policy may change next is after `t`. -/
def Unpassed (snapshot : PolicySnapshot) (now t : ℤ) (policy : PolicySnapshotEntry) : Prop :=
  ∀ entry, snapshot.scheduleIntervals.find? (·.policyId == policy.id) = some entry →
    ∀ moment ∈ transitions entry snapshot.validUntilMs now, t < moment

/-- The clock is valid at both times or at neither, and the schedule of the policy does not change. -/
def Steady (snapshot : PolicySnapshot) (now t : ℤ) (policy : PolicySnapshotEntry) : Prop :=
  (1500000000000 ≤ now ∨ t < 1500000000000) ∧ Unpassed snapshot now t policy

/-- Of all enabled policies with a schedule. -/
def Scheduled (P : PolicySnapshotEntry → Prop) (policies : List PolicySnapshotEntry) : Prop :=
  ∀ policy ∈ policies, policy.spec.enabled = true → policy.spec.schedule.isSome = true → P policy

/-- What a selection chooses: all of it but the next transition. -/
def choices (s : PrioritySelection) : OrderedMap String TotalRates × List ApplicationRates ×
    OrderedSet String × OrderedSet String × List PolicyResult :=
  (s.totals, s.applicationLimits, s.clients, s.blockedMacs, s.results)

/-! ### Steady policies -/

theorem Steady.evaluate_eq (h : Steady snapshot now t policy) (hle : now ≤ t)
    {e : PolicyScheduleIntervals}
    (he : snapshot.scheduleIntervals.find? (·.policyId == policy.id) = some e) :
    evaluate policy snapshot.scheduleIntervals (some t) snapshot.validUntilMs =
      evaluate policy snapshot.scheduleIntervals (some now) snapshot.validUntilMs := by
  have hck := h.1
  have hmoment : ∀ moment ∈ (e.intervals.flatMap fun i => [i.startMs, i.endMs]) ++
      [snapshot.validUntilMs], moment ≤ now ∨ t < moment := by
    intro moment hmem
    by_cases hlate : now < moment
    · exact .inr (h.2 e he moment (List.mem_filter.2 ⟨hmem, by simpa using hlate⟩))
    · exact .inl (by omega)
  have hany : (e.intervals.any fun i => decide (i.startMs ≤ t) && decide (t < i.endMs)) =
      e.intervals.any fun i => decide (i.startMs ≤ now) && decide (now < i.endMs) := by
    rw [Bool.eq_iff_iff, List.any_eq_true, List.any_eq_true]
    refine exists_congr fun i => and_congr_right fun hi => ?_
    have hfrom := hmoment i.startMs (by simp; exact .inl ⟨i, hi, .inl rfl⟩)
    have huntil := hmoment i.endMs (by simp; exact .inl ⟨i, hi, .inr rfl⟩)
    simp only [Bool.and_eq_true, decide_eq_true_eq]
    omega
  have hx : snapshot.validUntilMs ≤ t ↔ snapshot.validUntilMs ≤ now := by
    have hend := hmoment snapshot.validUntilMs (by simp)
    omega
  have hval : (1500000000000 : ℤ) ≤ t ↔ 1500000000000 ≤ now := by omega
  unfold evaluate
  simp only [he, Option.filter_some, Option.any_some, hval]
  by_cases hnow : 1500000000000 ≤ now
  · simp [hnow, hany, hx]
  · simp [hnow]

variable {next : Option ℤ}

/-- At both times the next transition of a policy is refused alike, or the schedule is in one state. -/
theorem nextTransition_steady (hle : now ≤ t)
    (h : policy.spec.schedule.isSome = true → Steady snapshot now t policy) (next' : Option ℤ) :
    (∃ error, nextTransition snapshot (some t) policy next' = .error error ∧
        nextTransition snapshot (some now) policy next = .error error) ∨
      (∃ u, nextTransition snapshot (some t) policy next' = .ok u) ∧
        (∃ u, nextTransition snapshot (some now) policy next = .ok u) ∧
        evaluate policy snapshot.scheduleIntervals (some t) snapshot.validUntilMs =
          evaluate policy snapshot.scheduleIntervals (some now) snapshot.validUntilMs := by
  unfold nextTransition
  cases hsc : policy.spec.schedule with
  | none => exact .inr ⟨⟨_, rfl⟩, ⟨_, rfl⟩, by simp [evaluate, hsc]⟩
  | some schedule =>
    have hsteady := h (by rw [hsc]; rfl)
    cases he : snapshot.scheduleIntervals.find? (·.policyId == policy.id) with
    | none => exact .inl ⟨_, rfl, rfl⟩
    | some e =>
      have hval : (1500000000000 : ℤ) ≤ t ↔ 1500000000000 ≤ now := by
        have hck := hsteady.1
        omega
      simp only [Option.filter_some, hval]
      by_cases hnow : 1500000000000 ≤ now
      · simp only [hnow]
        exact .inr ⟨⟨_, rfl⟩, ⟨_, rfl⟩, hsteady.evaluate_eq hle he⟩
      · simp only [hnow]
        exact .inl ⟨_, rfl, rfl⟩

/-- What the loop over the policies has chosen so far. -/
def chosen (p : Progress) : Assignments × List PolicyResult := (p.assigned, p.results)

theorem selectPolicy_steady (hle : now ≤ t)
    (h : policy.spec.enabled = true → policy.spec.schedule.isSome = true → Steady snapshot now t policy)
    (p : Progress) :
    (selectPolicy snapshot (some t) { p with nextTransitionMs := next } policy).map chosen =
      (selectPolicy snapshot (some now) p policy).map chosen := by
  unfold selectPolicy
  cases hen : policy.spec.enabled with
  | false => rfl
  | true =>
    dsimp only
    generalize ensure (!(policy.spec.selectsApplications && policy.spec.selectors.clients.isEmpty))
      "application_client_selector_required" = clients
    generalize ensure (isVerifiedShape policy) "priority_policy_shape_not_verified" = shape
    rcases nextTransition_steady hle (h hen) next with
      ⟨error, ht, hnow⟩ | ⟨⟨u, ht⟩, ⟨v, hnow⟩, hst⟩
    · rw [ht, hnow]
      rfl
    · rw [ht, hnow, hst]
      cases clients with
      | error => rfl
      | ok =>
        cases shape with
        | error => rfl
        | ok =>
          cases evaluate policy snapshot.scheduleIntervals (some now) snapshot.validUntilMs with
          | clockInvalid => rfl
          | expired => rfl
          | inactive => rfl
          | active =>
            cases policy.spec.selectors.clients.foldlM (selectClient policy) p.assigned <;> rfl

theorem foldlM_steady (hle : now ≤ t) : ∀ {ps : List PolicySnapshotEntry},
    Scheduled (Steady snapshot now t) ps → ∀ {p q : Progress}, chosen q = chosen p →
      (ps.foldlM (selectPolicy snapshot (some t)) q).map chosen =
        (ps.foldlM (selectPolicy snapshot (some now)) p).map chosen
  | [], _, _, _, hch => congrArg Except.ok hch
  | policy :: _, h, p, q, hch => by
    refine map_bind_congr ?_ fun _ _ => foldlM_steady hle fun other ho => h other (.tail _ ho)
    obtain ⟨hasg, hres⟩ := Prod.mk.inj hch
    rw [← selectPolicy_steady hle (h policy (.head _)) p, ← hasg, ← hres]

/-! ### The next transition -/

theorem before_noteTransitions {moments : List ℤ} :
    (∀ u ∈ noteTransitions next moments, t < u) ↔ (∀ u ∈ next, t < u) ∧ ∀ m ∈ moments, t < m := by
  induction moments generalizing next with
  | nil => simp [noteTransitions]
  | cons m moments ih =>
    change (∀ u ∈ noteTransitions _ moments, t < u) ↔ _
    rw [ih]
    cases next <;> simp [and_assoc]

/-- A selected policy leaves the next transition behind all of its own moments. -/
theorem before_selectPolicy {p p' : Progress} (hok : selectPolicy snapshot (some now) p policy = .ok p') :
    (∀ u ∈ p'.nextTransitionMs, t < u) ↔ (∀ u ∈ p.nextTransitionMs, t < u) ∧
      (policy.spec.enabled = true → policy.spec.schedule.isSome = true →
        1500000000000 ≤ now ∧ Unpassed snapshot now t policy) := by
  unfold selectPolicy at hok
  cases hen : policy.spec.enabled with
  | false =>
    simp only [hen] at hok
    simp [← Except.ok.inj hok]
  | true =>
    simp only [hen, Bool.not_true, Bool.false_eq_true, if_false, seq_eq_ok] at hok
    obtain ⟨-, -, hr⟩ := hok
    obtain ⟨next, hnx, hr⟩ := bind_eq_ok.1 hr
    have hsm : p'.nextTransitionMs = next := by
      cases hst : evaluate policy snapshot.scheduleIntervals (some now) snapshot.validUntilMs with
      | clockInvalid => rw [hst] at hr; cases hr
      | expired => rw [hst] at hr; cases hr; rfl
      | inactive => rw [hst] at hr; cases hr; rfl
      | active =>
        rw [hst] at hr
        obtain ⟨assigned, -, hdn⟩ := bind_eq_ok.1 hr
        cases hdn
        rfl
    rw [hsm]
    unfold nextTransition at hnx
    cases hsc : policy.spec.schedule with
    | none =>
      simp only [hsc] at hnx
      simp [← Except.ok.inj hnx]
    | some schedule =>
      simp only [hsc] at hnx
      cases he : snapshot.scheduleIntervals.find? (·.policyId == policy.id) with
      | none => simp [he] at hnx
      | some e =>
        by_cases hnow : 1500000000000 ≤ now
        · simp only [he, Option.filter_some, hnow] at hnx
          rw [← Except.ok.inj hnx, before_noteTransitions]
          refine and_congr_right fun _ => ⟨fun h _ _ => ⟨hnow, ?_⟩, fun h => ?_⟩
          · rintro _ hfd
            cases he.symm.trans hfd
            exact h
          · exact (h rfl rfl).2 e he
        · simp [he, Option.filter_some, hnow] at hnx

theorem before_iff_steady : ∀ {ps : List PolicySnapshotEntry} {p p' : Progress},
    ps.foldlM (selectPolicy snapshot (some now)) p = .ok p' →
      ((∀ u ∈ p'.nextTransitionMs, t < u) ↔
        (∀ u ∈ p.nextTransitionMs, t < u) ∧
          Scheduled (fun policy => 1500000000000 ≤ now ∧ Unpassed snapshot now t policy) ps)
  | [], p, p', h => by
    cases h
    simp [Scheduled]
  | policy :: ps, p, p', h => by
    obtain ⟨q, hq, hr⟩ := bind_eq_ok.1 h
    rw [before_iff_steady hr, before_selectPolicy hq, and_assoc]
    simp [Scheduled]

/-! ### The selection -/

/-- Up to `t` the selection of `now` is kept: it comes with no transition up to `t`, or it is a refusal and
the policies are steady. -/
def KeptUntil (codec : Codec) (snapshot : PolicySnapshot) (gateway : String) (now t : ℤ) : Prop :=
  match fromSnapshot codec snapshot gateway (some now) with
  | .ok selection => ∀ u ∈ selection.nextTransitionMs, t < u
  | .error _ => Scheduled (Steady snapshot now t) snapshot.policies

theorem scheduled_ordered {P : PolicySnapshotEntry → Prop} {policies : List PolicySnapshotEntry} :
    Scheduled P (ordered policies) ↔ Scheduled P policies := by
  unfold Scheduled ordered
  simp

theorem before_selection {codec : Codec} {gateway : String} {selection : PrioritySelection}
    (h : fromSnapshot codec snapshot gateway (some now) = .ok selection) :
    (∀ u ∈ selection.nextTransitionMs, t < u) ↔
      Scheduled (fun policy => 1500000000000 ≤ now ∧ Unpassed snapshot now t policy)
        snapshot.policies := by
  obtain ⟨p, hp, hr⟩ := bind_eq_ok.1 (seq_eq_ok.1 (seq_eq_ok.1 h).2).2
  rw [← Except.ok.inj (seq_eq_ok.1 hr).2, before_iff_steady hp, scheduled_ordered]
  simp

theorem fromSnapshot_steady (codec : Codec) (gateway : String) (hle : now ≤ t)
    (h : Scheduled (Steady snapshot now t) snapshot.policies) :
    (fromSnapshot codec snapshot gateway (some t)).map choices =
      (fromSnapshot codec snapshot gateway (some now)).map choices := by
  refine @map_bind_congr _ _ _ _ _ id _ _ _ _ _ rfl fun _ _ _ =>
    @map_bind_congr _ _ _ _ _ id _ _ _ _ _ rfl fun _ _ _ =>
      map_bind_congr (foldlM_steady hle (scheduled_ordered.2 h) rfl) fun p q hch => ?_
  obtain ⟨hasg, hres⟩ := Prod.mk.inj hch
  rw [hasg, hres]
  cases ensure (decide (q.assigned.clients.keys.length ≤ 256)) "priority_class_slots_exhausted" <;> rfl

/-- **The selection is constant between transitions.** -/
theorem selection_constant (codec : Codec) (snapshot : PolicySnapshot) (gateway : String) {now t : ℤ}
    (hle : now ≤ t) (hkept : KeptUntil codec snapshot gateway now t) :
    (fromSnapshot codec snapshot gateway (some t)).map choices =
        (fromSnapshot codec snapshot gateway (some now)).map choices ∧
      ∀ selection u, fromSnapshot codec snapshot gateway (some now) = .ok selection →
        selection.nextTransitionMs = some u → u < snapshot.validUntilMs →
          ∃ policy ∈ snapshot.policies, policy.spec.enabled = true ∧ policy.spec.schedule.isSome = true ∧
            ∃ entry, snapshot.scheduleIntervals.find? (·.policyId == policy.id) = some entry ∧
              ∃ interval ∈ entry.intervals, u = interval.startMs ∨ u = interval.endMs := by
  constructor
  · refine fromSnapshot_steady codec gateway hle ?_
    unfold KeptUntil at hkept
    cases hok : fromSnapshot codec snapshot gateway (some now) with
    | error => rwa [hok] at hkept
    | ok selection =>
      rw [hok] at hkept
      intro policy hpolicy henabled hschedule
      exact ((before_selection hok).1 hkept policy hpolicy henabled hschedule).imp_left .inl
  · intro selection u hok hnext hvalid
    by_contra hnot
    -- no moment is before `u`, and as none is `u` they are all after it
    have hnone := (@before_selection snapshot now (u - 1) codec gateway selection hok).1
      fun moment hmoment => Option.some_inj.1 (hnext.symm.trans hmoment) ▸ Int.sub_one_lt_of_le le_rfl
    have hlate := (@before_selection snapshot now u codec gateway selection hok).2
      fun policy hpolicy henabled hschedule => ?_
    · exact absurd (hlate u hnext) (lt_irrefl u)
    · obtain ⟨hnow, hmoments⟩ := hnone policy hpolicy henabled hschedule
      refine ⟨hnow, fun entry hentry moment hmoment => ?_⟩
      have hle := hmoments entry hentry moment hmoment
      have hne : moment ≠ u := by
        rintro rfl
        obtain hmem | hmem := List.mem_append.1 (List.mem_filter.1 hmoment).1
        · obtain ⟨interval, hinterval, heq⟩ := List.mem_flatMap.1 hmem
          exact hnot ⟨policy, hpolicy, henabled, hschedule, entry, hentry, interval, hinterval,
            by simpa using heq⟩
        · exact hvalid.ne (List.mem_singleton.1 hmem)
      omega

/-- Until Sunday evening the selection of Saturday night is kept. -/
theorem saturday_selection_kept :
    (fromSnapshot videoCodec videoSnapshot "gw-test" (some 1791741599999)).map choices =
      (fromSnapshot videoCodec videoSnapshot "gw-test" (some 1791600001000)).map choices := by
  refine (selection_constant _ _ _ (by decide) ?_).1
  have hnext : (fromSnapshot videoCodec videoSnapshot "gw-test" (some 1791600001000)).toOption.map
      (·.nextTransitionMs) = some (some 1791741600000) := by decide +kernel
  unfold KeptUntil
  cases hok : fromSnapshot videoCodec videoSnapshot "gw-test" (some 1791600001000) with
  | error => rw [hok] at hnext; cases hnext
  | ok selection =>
    rw [hok] at hnext
    have hnext' : selection.nextTransitionMs = some 1791741600000 := Option.some.inj hnext
    simp [hnext']

/-- Without a valid clock the snapshot is refused, and no transition announces that the clock is set. -/
theorem refusal_ends_unannounced :
    (fromSnapshot videoCodec videoSnapshot "gw-test" (some 0)).toOption.isSome = false ∧
      (fromSnapshot videoCodec videoSnapshot "gw-test" saturdayNight).toOption.isSome = true := by
  decide +kernel

end Netqmon.Agent.Priority.Transitions
