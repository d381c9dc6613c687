import Mathlib

/-! # The first match decides

Rules are worked through in order. A rule names keys; it takes effect for those of its keys that no
earlier rule has named. `FirstWins` says of one step that it works in this way, and
`FirstWins.effects_foldl` what a whole list of rules does: a key is decided by the first rule that
names it. A rule that is itself a loop is an instance (`FirstWins.ofLoop`).

`foldl_collects` is the rule for what any step may bring about. -/

namespace Netqmon.Lib.FirstMatch

variable {S A B K X : Type}

/-- What holds after a loop if every step keeps it and some steps bring it about. -/
theorem foldl_collects {f : S → A → S} {Q : S → Prop} {R : A → Prop}
    (h : ∀ s a, Q (f s a) ↔ Q s ∨ R a) (l : List A) (s : S) :
    Q (l.foldl f s) ↔ Q s ∨ ∃ a ∈ l, R a := by
  induction l generalizing s with
  | nil => simp
  | cons a l ih =>
    rw [List.foldl_cons, ih, h]
    simp [or_assoc]

/-- One step of a fold over rules. `decided` are the keys named so far, `effects` what the rules
have brought about, and `effect a k` what rule `a` does for key `k`. -/
structure FirstWins (step : S → A → S) (decided : S → K → Prop) (effects : S → X → Prop)
    (names : A → K → Bool) (effect : A → K → X → Prop) : Prop where
  decided_step : ∀ s a k, decided (step s a) k ↔ decided s k ∨ names a k = true
  effects_step : ∀ s a x, effects (step s a) x ↔
    effects s x ∨ ∃ k, ¬ decided s k ∧ names a k = true ∧ effect a k x

variable {step : S → A → S} {decided : S → K → Prop} {effects : S → X → Prop}
  {names : A → K → Bool} {effect : A → K → X → Prop}

/-- **A key is decided by the first rule that names it.** -/
theorem FirstWins.effects_foldl (h : FirstWins step decided effects names effect) (rules : List A)
    (s : S) (x : X) :
    effects (rules.foldl step s) x ↔ effects s x ∨
      ∃ k a, ¬ decided s k ∧ rules.find? (names · k) = some a ∧ effect a k x := by
  induction rules generalizing s with
  | nil => simp
  | cons a rules ih =>
    rw [List.foldl_cons, ih, h.effects_step, or_assoc]
    refine or_congr_right ⟨?_, ?_⟩
    · rintro (⟨k, hund, hnm, heff⟩ | ⟨k, b, hund, hfd, heff⟩)
      · exact ⟨k, a, hund, by simp [hnm], heff⟩
      · rw [h.decided_step, not_or] at hund
        exact ⟨k, b, hund.1, by simpa [hund.2] using hfd, heff⟩
    · rintro ⟨k, b, hund, hfd, heff⟩
      rw [List.find?_cons] at hfd
      cases hnm : names a k with
      | true =>
        simp only [hnm, Option.some.injEq] at hfd
        exact .inl ⟨k, hund, hnm, hfd ▸ heff⟩
      | false =>
        simp only [hnm] at hfd
        refine .inr ⟨k, b, ?_, hfd, heff⟩
        rw [h.decided_step, hnm]
        simpa using hund

/-- A rule may be a loop over parts, each of which names keys. -/
theorem FirstWins.ofLoop (parts : A → List B) {inner : A → S → B → S} {named : A → B → K → Bool}
    (h : ∀ a, FirstWins (inner a) decided effects (named a) fun _ k x => effect a k x) :
    FirstWins (fun s a => (parts a).foldl (inner a) s) decided effects
      (fun a k => (parts a).any (named a · k)) effect where
  decided_step s a k := by
    rw [foldl_collects (Q := (decided · k)) (fun s b => (h a).decided_step s b k), List.any_eq_true]
  effects_step s a x := by
    rw [(h a).effects_foldl]
    refine or_congr_right ⟨?_, ?_⟩
    · rintro ⟨k, b, hund, hfd, heff⟩
      grind
    · rintro ⟨k, hund, hnm, heff⟩
      have hs : ((parts a).find? (named a · k)).isSome = true :=
        List.find?_isSome.2 (List.any_eq_true.1 hnm)
      obtain ⟨b, hfd⟩ := Option.isSome_iff_exists.1 hs
      exact ⟨k, b, hund, hfd, heff⟩

end Netqmon.Lib.FirstMatch
