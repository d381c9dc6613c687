import Mathlib
import Netqmon.Lib.Keyed

/-! # Tables as weights on places

Several tables of counters can be looked at as one assignment of weights to places. `spread place t`
puts every row of `t` at the place of its key. `redirect move` takes the weight of the places that
`move` knows and puts it elsewhere; it is additive, and keeps weights nonnegative if the pieces it
puts down are (`redirect_nonneg`). -/

namespace Netqmon.Lib.Spread

open Keyed

variable {K V P M : Type}

variable {t : Rows K M}

variable {p : K → M → Bool} {m : M}

/-! ### Rows at their places -/

section Spread

variable [AddCommGroup M] {place : K → P}

noncomputable def spread (place : K → P) (t : Rows K M) : P →₀ M :=
  sumOver (fun k m => Finsupp.single (place k) m) t

theorem spread_deleteWhere (hp : ∀ k m, p k m = true → m = 0) :
    spread place (deleteWhere p t) = spread place t := by
  have hrow : ∀ k m, (if p k m then 0 else Finsupp.single (place k) m) =
      Finsupp.single (place k) m := by
    intro k m
    split_ifs with hdel
    · rw [hp k m hdel, Finsupp.single_zero]
    · rfl
  rw [spread, sumOver_deleteWhere]
  simp only [hrow]
  rfl

theorem spread_split :
    spread place t = spread place (deleteWhere p t) +
      ((select p t).map fun row => Finsupp.single (place row.1) row.2).sum := by
  rw [spread, spread, sumOver_deleteWhere]
  unfold sumOver select
  induction t.entries with
  | nil => simp
  | cons e l ih => grind

variable [DecidableEq K] (key : K)

theorem spread_adjust :
    spread place (adjust t key m) = spread place t + Finsupp.single (place key) m := by
  have hins := sumOver_insert (fun k m => Finsupp.single (place k) m) t key (value t key + m)
  have hold : (t.lookup key).elim 0 (fun m => Finsupp.single (place key) m) =
      Finsupp.single (place key) (value t key) := by
    unfold value
    cases t.lookup key <;> simp
  rw [hold, Finsupp.single_add] at hins
  rw [adjust_eq_insert, spread, spread, ← add_left_inj (Finsupp.single (place key) (value t key)),
    hins]
  abel

theorem spread_erase :
    spread place (t.erase key) = spread place t - Finsupp.single (place key) (value t key) := by
  have her := sumOver_erase (fun k m => Finsupp.single (place k) m) t key
  have hold : (t.lookup key).elim 0 (fun m => Finsupp.single (place key) m) =
      Finsupp.single (place key) (value t key) := by
    unfold value
    cases t.lookup key <;> simp
  rw [hold] at her
  exact eq_sub_of_add_eq her

theorem spread_apply (hplace : Function.Injective place) (key : K) :
    spread place t (place key) = value t key := by
  have hsum : ∀ l : List (Sigma fun _ : K => M), (l.map fun e =>
      Finsupp.single (place e.1) e.2).sum (place key) =
        (l.map fun e => if (decide (e.1 = key)) then e.2 else 0).sum := by
    intro l
    induction l with
    | nil => rfl
    | cons e l ih =>
      rw [List.map_cons, List.sum_cons, Finsupp.add_apply, ih, List.map_cons]
      classical
      simp [Finsupp.single_apply, hplace.eq_iff]
  rw [← total_single (p := fun k => decide (k = key)) (by simp) t]
  exact hsum t.entries

omit [DecidableEq K] in
theorem spread_apply_of_ne {x : P} (hx : ∀ key, place key ≠ x) (t : Rows K M) :
    spread place t x = 0 := by
  unfold spread sumOver
  induction t.entries with
  | nil => rfl
  | cons e l ih => rw [List.map_cons, List.sum_cons, Finsupp.add_apply, ih,
      Finsupp.single_eq_of_ne (hx e.1).symm, add_zero]

end Spread

/-! ### Moving weights -/

section Redirect

variable [AddCommMonoid M]

/-- Put the weight of a place that `move` knows where `move` says. -/
noncomputable def redirect (move : P → Option (M →+ (P →₀ M))) : (P →₀ M) →+ (P →₀ M) :=
  Finsupp.liftAddHom fun x => (move x).getD (Finsupp.singleAddHom x)

variable {move move' : P → Option (M →+ (P →₀ M))}

theorem redirect_single (x : P) :
    redirect move (Finsupp.single x m) = (move x).getD (Finsupp.singleAddHom x) m := by
  unfold redirect
  rw [Finsupp.liftAddHom_apply_single]

theorem redirect_single_of_none {x : P} (h : move x = none) :
    redirect move (Finsupp.single x m) = Finsupp.single x m := by
  rw [redirect_single, h]
  rfl

theorem redirect_single_of_some {x : P} {put : M →+ (P →₀ M)} (h : move x = some put) :
    redirect move (Finsupp.single x m) = put m := by
  rw [redirect_single, h]
  rfl

theorem redirect_none : redirect (fun _ : P => none) = AddMonoidHom.id (P →₀ M) :=
  Finsupp.addHom_ext fun _ _ => redirect_single_of_none rfl

/-- Moving twice is moving once, if nothing is put where the second would take it. -/
theorem redirect_redirect (hput : ∀ x put m, move x = some put →
      redirect move' (put m) = put m) (f : P →₀ M) :
    redirect move' (redirect move f) = redirect (fun x => (move x).or (move' x)) f := by
  suffices h : (redirect move').comp (redirect move) = redirect fun x => (move x).or (move' x) from
    DFunLike.congr_fun h f
  refine Finsupp.addHom_ext fun x m => ?_
  rw [AddMonoidHom.comp_apply]
  cases h : move x with
  | none => rw [redirect_single_of_none h, redirect_single, redirect_single, h, Option.none_or]
  | some put =>
    have hor : (move x).or (move' x) = some put := by rw [h, Option.some_or]
    rw [redirect_single_of_some h, redirect_single_of_some hor, hput x put m h]

theorem redirect_nonneg [PartialOrder M] [IsOrderedAddMonoid M]
    (hput : ∀ x put m, move x = some put → 0 ≤ m → 0 ≤ put m) {f : P →₀ M} (hf : 0 ≤ f) :
    0 ≤ redirect move f := by
  refine Finset.sum_nonneg fun x _ => ?_
  show 0 ≤ (move x).getD (Finsupp.singleAddHom x) (f x)
  cases h : move x with
  | none => exact Finsupp.single_nonneg.2 (hf x)
  | some put => exact hput x put _ h (hf x)

theorem redirect_spread {G : Type} [AddCommGroup G] {move : P → Option (G →+ (P →₀ G))}
    {place : K → P} {t : Rows K G} (hplace : ∀ e ∈ t.entries, move (place e.1) = none) :
    redirect move (spread place t) = spread place t := by
  unfold spread sumOver
  generalize t.entries = l at hplace
  induction l with
  | nil => exact map_zero _
  | cons e l ih =>
    rw [List.map_cons, List.sum_cons, map_add, redirect_single_of_none (hplace e List.mem_cons_self),
      ih fun other ho => hplace other (List.mem_cons_of_mem _ ho)]

end Redirect

end Netqmon.Lib.Spread
