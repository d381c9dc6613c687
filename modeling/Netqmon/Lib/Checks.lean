import Mathlib

/-! # Chains of checks

A validator is a computation in `Except ε Unit` that stops at the first check that fails. The
lemmas turn its acceptance into the conjunction of its checks. -/

namespace Netqmon.Lib.Checks

variable {ε α β : Type}

def ensure (ok : Bool) (error : ε) : Except ε Unit := if ok then .ok () else .error error

variable {error : ε} {ok : Bool}

@[simp] theorem ensure_eq_ok {u : Unit} : ensure ok error = .ok u ↔ ok = true := by
  cases ok <;> simp [ensure]

theorem bind_eq_ok {x : Except ε α} {f : α → Except ε β} {b : β} :
    (x >>= f) = .ok b ↔ ∃ a, x = .ok a ∧ f a = .ok b := by
  cases x <;> simp [bind, Except.bind]

variable {f : Unit → Except ε β} {x : Except ε Unit}

/-- `bind_eq_ok` for a check. -/
theorem seq_eq_ok {b : β} : (x >>= f) = .ok b ↔ x = .ok () ∧ f () = .ok b := by
  cases x <;> simp [bind, Except.bind]

/-- Two computations that agree in what `v` shows go on alike. -/
theorem map_bind_congr {γ δ : Type} {v : α → γ} {w : β → δ} {x y : Except ε α}
    {f g : α → Except ε β} (h : x.map v = y.map v)
    (hfg : ∀ a b, v a = v b → (f a).map w = (g b).map w) : (x >>= f).map w = (y >>= g).map w := by
  cases x <;> cases y <;> simp only [Except.map, reduceCtorEq] at h
  · cases h
    rfl
  · exact hfg _ _ (Except.ok.inj h)

/-- Every error of a chain of checks satisfies `P`. -/
def Fails (P : ε → Prop) (x : Except ε α) : Prop := ∀ e, x = .error e → P e

variable {P : ε → Prop}

theorem Fails.ensure (h : P error) : Fails P (ensure ok error) := by
  intro e he
  cases ok
  · cases he
    exact h
  · cases he

theorem Fails.seq (hx : Fails P x) (hf : Fails P (f ())) : Fails P (x >>= f) := by
  intro e he
  cases x with
  | error r => exact hx e (by cases he; rfl)
  | ok u => exact hf e he

theorem forM_eq_ok {f : α → Except ε Unit} :
    ∀ {l : List α} {u : Unit}, l.forM f = .ok u ↔ ∀ a ∈ l, f a = .ok ()
  | [], u => by simp [List.forM, pure, Except.pure]
  | a :: l, u => by
    have ih := @forM_eq_ok f l u
    simp only [List.forM, seq_eq_ok, List.mem_cons, forall_eq_or_imp, ← ih]

/-- Elements are checked one after the other and none may repeat. -/
def checkDistinct [DecidableEq β] (key : α → β) (repeated : ε) (check : α → Except ε Unit)
    (afterCheck : α → Except ε Unit) : List β → List α → Except ε Unit
  | _, [] => .ok ()
  | seen, a :: l => do
    check a
    ensure (decide (key a ∉ seen)) repeated
    afterCheck a
    checkDistinct key repeated check afterCheck (key a :: seen) l

theorem checkDistinct_eq_ok [DecidableEq β] {key : α → β} {repeated : ε}
    {check afterCheck : α → Except ε Unit} :
    ∀ {l : List α} {seen : List β} {u : Unit},
      checkDistinct key repeated check afterCheck seen l = .ok u ↔
        (∀ a ∈ l, check a = .ok () ∧ afterCheck a = .ok ()) ∧ (l.map key).Nodup ∧
          ∀ a ∈ l, key a ∉ seen
  | [], seen, u => by simp [checkDistinct]
  | a :: l, seen, u => by
    have ih := @checkDistinct_eq_ok _ key repeated check afterCheck l (key a :: seen) u
    simp only [checkDistinct, seq_eq_ok, ensure_eq_ok, decide_eq_true_eq, ih, List.mem_cons,
      forall_eq_or_imp, List.map_cons, List.nodup_cons, List.mem_map, not_or, not_exists, not_and]
    grind

/-- A loop that lowers a bound and checks its elements. -/
theorem le_foldlM [LE β] {f : β → α → Option β} {P : α → Prop} {e : β}
    (hf : ∀ a x y, f x a = some y → e ≤ y → e ≤ x ∧ P a) :
    ∀ {l : List α} {x y : β}, l.foldlM f x = some y → e ≤ y → e ≤ x ∧ ∀ a ∈ l, P a
  | [], _, _, h, hle => ⟨by cases h; exact hle, nofun⟩
  | a :: l, x, y, h, hle => by
    rw [List.foldlM_cons] at h
    obtain ⟨z, hz, hr⟩ := Option.bind_eq_some_iff.1 h
    obtain ⟨hle', hl⟩ := le_foldlM hf hr hle
    obtain ⟨hx, ha⟩ := hf a x z hz hle'
    exact ⟨hx, by simpa using ⟨ha, hl⟩⟩

end Netqmon.Lib.Checks
