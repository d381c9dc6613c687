import Mathlib
import Netqmon.Lib.Keyed

/-! # Weights of association lists

`weight f m` adds up `f v` over the values `v` of `m`. Inserting and erasing a key change it by
the weight of that key only (`weight_insert`, `weight_erase`), and `keep p` removes the keys whose
value fails `p`. -/

namespace Netqmon.Lib.AssocWeight

open Keyed

variable {K V : Type} [DecidableEq K]

def weight (f : V → ℕ) (m : AList fun _ : K => V) : ℕ := sumOver (fun _ => f) m

/-- The weight of one key; an absent key weighs nothing. -/
def weightAt (f : V → ℕ) (m : AList fun _ : K => V) (key : K) : ℕ := (m.lookup key).elim 0 f

/-- The entries whose value satisfies `p`. -/
def keep (p : V → Bool) (m : AList fun _ : K => V) : AList fun _ : K => V :=
  deleteWhere (fun _ v => !p v) m

variable (f : V → ℕ)

theorem weight_erase (m : AList fun _ : K => V) (key : K) :
    weight f (m.erase key) + weightAt f m key = weight f m :=
  sumOver_erase (fun _ => f) m key

theorem weight_insert (m : AList fun _ : K => V) (key : K) (v : V) :
    weight f (m.insert key v) + weightAt f m key = weight f m + f v :=
  sumOver_insert (fun _ => f) m key v

theorem weightAt_le (m : AList fun _ : K => V) (key : K) : weightAt f m key ≤ weight f m := by
  have := weight_erase f m key
  omega

variable (p : V → Bool)

theorem lookup_keep (m : AList fun _ : K => V) (key : K) (v : V) :
    (keep p m).lookup key = some v ↔ m.lookup key = some v ∧ p v = true := by
  rw [keep, lookup_deleteWhere, Option.filter_eq_some_iff, Bool.not_not]

omit [DecidableEq K] in
theorem weight_keep_le (m : AList fun _ : K => V) : weight f (keep p m) ≤ weight f m :=
  List.Sublist.sum_le_sum (List.filter_sublist.map _) (by simp)

end Netqmon.Lib.AssocWeight
