import Netqmon.Storage.Traffic

/-! # Balance of the traffic tiers

What is in an hour row and in its queue together is what the minute rows of that hour add up to, and
so for days and hours. `gap` is the difference; every statement on the tiers leaves it as it is
(`gap_transfer`, `gap_aggregate`). After a roll-up nothing is queued for the hours and days that are
over, so their rows are the sums of their minutes (`rollUp_hour`, `rollUp_day`). -/

namespace Netqmon.Storage.Balance

open Lib.Keyed Traffic

variable {t : Tiers} {b k : Bucket} {m : Metrics}

/-! ### What a statement changes -/

variable (pending : Counters)

theorem value_enqueue (old : Option Metrics) (new : Metrics) :
    value (enqueue pending b old new) k =
      value pending k + if k = b then new - old.getD 0 else 0 := by
  unfold enqueue
  cases old with
  | none => simp [value_adjust]
  | some old => grind [value_adjust]

/-- The rows of a tier that an upper bucket adds up. -/
def belongs (tier : Tier) (b : Bucket) (row : Bucket) : Bool := row.truncate tier.size = b

/-- What is counted for a bucket of an upper tier besides the rows below. -/
def gap (t : Tiers) : Tier → Bucket → Metrics
  | .minute, _ => 0
  | .hour, b => value t.hour b + value t.hourPending b - total (belongs .hour b) t.minute
  | .day, b => value t.day b + value t.dayPending b - total (belongs .day b) t.hour

/-- A table and its queue changed alone. -/
def shift (tier upper : Tier) (b k : Bucket) (m : Metrics) : Metrics :=
  if upper = tier ∧ tier ≠ .minute ∧ k = b then m else 0

variable {table : Counters} {tier : Tier}

theorem value_queued :
    value (enqueue pending (b.truncate tier.size) (table.lookup b) (value (adjust table b m) b)) k =
      value pending k + if belongs tier k b then m else 0 := by
  have hwr : value (adjust table b m) b - (table.lookup b).getD 0 = m := by
    rw [value_adjust, if_pos rfl]
    exact add_sub_cancel_left _ _
  rw [value_enqueue, hwr]
  simp [belongs, @eq_comm _ k]

variable {upper : Tier}

theorem gap_adjustRollup :
    gap (adjustRollup tier b m t) upper k = gap t upper k + shift tier upper b k m := by
  cases tier <;> cases upper <;>
    simp [gap, adjustRollup, shift, value_queued, total_adjust]
  · abel
  · rw [value_adjust]
    abel
  · abel
  · rw [value_adjust]
    abel

theorem gap_adjustPending :
    gap (adjustPending tier b m t) upper k = gap t upper k + shift tier upper b k m := by
  cases tier <;> cases upper <;>
    simp [gap, adjustPending, Tiers.setPending, Tiers.pending, shift, value_adjust]
  all_goals abel

theorem gap_deleteRows {p : Bucket → Metrics → Bool} (hp : ∀ b v, p b v = true → v = 0) :
    gap (t.setTable tier (deleteWhere p (t.table tier))) upper k = gap t upper k := by
  have htot : ∀ (q : Bucket → Bool) (table : Counters),
      total q (deleteWhere p table) = total q table :=
    fun q table => total_congr fun b _ => value_deleteWhere hp table
  cases tier <;> cases upper <;>
    simp [gap, Tiers.setTable, Tiers.table, htot, value_deleteWhere hp]

theorem gap_transfer (old new : Bucket) :
    gap (transfer (tierTable tier) old new m t) upper k = gap t upper k := by
  unfold transfer
  split_ifs
  · rfl
  · split
    · rfl
    · have hz : ∀ b v, (decide (b = old) && decide (v = 0)) = true → v = (0 : Metrics) := by simp
      show gap (deleteZero tier old _) upper k = _
      rw [deleteZero, gap_deleteRows hz]
      show gap (adjustPending tier new (-m) (adjustPending tier old m
        (adjustRollup tier new m (adjustRollup tier old (-m) t)))) upper k = _
      grind [gap_adjustPending, gap_adjustRollup, shift]

/-! ### Aggregation -/

theorem gap_foldl_adjustRollup (tier upper : Tier) (k : Bucket) :
    ∀ (rows : List (Bucket × Metrics)) (t : Tiers),
      gap (rows.foldl (fun t row => adjustRollup tier row.1 row.2 t) t) upper k =
        gap t upper k + if upper = tier ∧ tier ≠ .minute then
          (rows.map fun row => if k = row.1 then row.2 else 0).sum else 0
  | [], t => by simp
  | row :: rows, t => by
    rw [List.foldl_cons, gap_foldl_adjustRollup tier upper k rows, gap_adjustRollup, add_assoc,
      List.map_cons, List.sum_cons]
    grind [shift]

/-- Rows of a tier are queued for the tier above, not for their own. -/
theorem pending_foldl_adjustRollup (tier : Tier) :
    ∀ (rows : List (Bucket × Metrics)) (t : Tiers),
      (rows.foldl (fun t row => adjustRollup tier row.1 row.2 t) t).pending tier = t.pending tier
  | [], _ => rfl
  | row :: rows, t => by
    rw [List.foldl_cons, pending_foldl_adjustRollup tier rows]
    cases tier <;> rfl

theorem pending_setTable : (t.setTable tier table).pending upper = t.pending upper := by
  cases tier <;> cases upper <;> rfl

theorem gap_setPending :
    gap (t.setPending tier table) upper k = gap t upper k +
      if upper = tier ∧ tier ≠ .minute then value table k - value (t.pending tier) k else 0 := by
  cases tier <;> cases upper <;>
    simp [gap, Tiers.setPending, Tiers.pending]
  all_goals abel

variable {dim : Dimension} {cut : ℤ}

theorem value_delete_due :
    value (deleteWhere (fun b _ => isDue dim cut b) table) k =
      if isDue dim cut k then 0 else value table k := by
  rw [value, lookup_deleteWhere]
  unfold value
  cases isDue dim cut k <;> cases table.lookup k <;> rfl

theorem gap_aggregate (target : Tier) :
    gap (aggregate dim target cut t) upper k = gap t upper k := by
  have hz : ∀ (q : Bucket → Bool) b v, (q b && v == 0) = true → v = (0 : Metrics) := by simp
  unfold aggregate
  rw [gap_setPending, gap_deleteRows (hz _), gap_foldl_adjustRollup, pending_setTable,
    pending_foldl_adjustRollup, sum_select, value_delete_due]
  split_ifs <;> abel

variable (now : ℤ)

theorem gap_rollUpTiers : gap (rollUpTiers now t) upper k = gap t upper k := by
  have hall : ∀ target (t : Tiers), gap (aggregateAll target now t) upper k = gap t upper k :=
    fun target t => foldl_fixed (g := fun t => gap t upper k)
      (fun _ dim => gap_aggregate target) dimensions t
  rw [rollUpTiers, hall, hall]

variable {target : Tier}

/-! ### After a roll-up -/

theorem value_pending_aggregate (htgt : target ≠ .minute) :
    value ((aggregate dim target cut t).pending target) k =
      if isDue dim cut k then 0 else value (t.pending target) k := by
  have hset : ∀ (u : Tiers) (table : Counters), (u.setPending target table).pending target = table := by
    intro u table
    cases target
    · exact absurd rfl htgt
    · rfl
    · rfl
  unfold aggregate
  rw [hset, value_delete_due, pending_setTable, pending_foldl_adjustRollup]

theorem foldl_aggregate_pending (htgt : target ≠ .minute) (cut : ℤ) (hk : k.timestamp < cut) :
    ∀ (l : List Dimension) (t : Tiers),
      k.key.dimension ∈ l ∨ value (t.pending target) k = 0 →
      value ((l.foldl (fun t dim => aggregate dim target cut t) t).pending target) k = 0
  | [], _, h => h.resolve_left List.not_mem_nil
  | dim :: l, t, h => by
    refine foldl_aggregate_pending htgt cut hk l _ ?_
    rw [value_pending_aggregate htgt]
    grind [isDue]

theorem foldl_aggregate_day_hourPending (cut : ℤ) :
    ∀ (l : List Dimension) (t : Tiers),
      (l.foldl (fun t dim => aggregate dim .day cut t) t).hourPending = t.hourPending
  | [], _ => rfl
  | dim :: l, t => by
    have hrs : ∀ (rows : List (Bucket × Metrics)) (u : Tiers),
        (rows.foldl (fun t row => adjustRollup .day row.1 row.2 t) u).hourPending =
          u.hourPending := by
      intro rows
      induction rows with
      | nil => intro u; rfl
      | cons row rows ih => intro u; exact ih _
    rw [List.foldl_cons, foldl_aggregate_day_hourPending cut l]
    exact hrs _ _

theorem mem_dimensions : dim ∈ dimensions := by
  cases dim <;> decide

theorem aggregateAll_pending (htgt : target ≠ .minute) (hk : k.timestamp < cutoff target now) :
    value ((aggregateAll target now t).pending target) k = 0 :=
  foldl_aggregate_pending htgt _ hk dimensions t (.inl (mem_dimensions))

theorem pending_hour : t.pending .hour = t.hourPending := rfl

theorem pending_day : t.pending .day = t.dayPending := rfl

variable {now : ℤ}

theorem rollUp_hourPending (hk : k.timestamp < cutoff .hour now) :
    value (rollUpTiers now t).hourPending k = 0 := by
  rw [rollUpTiers, aggregateAll, foldl_aggregate_day_hourPending, ← pending_hour]
  exact aggregateAll_pending now (by decide) hk

theorem rollUp_dayPending (hk : k.timestamp < cutoff .day now) :
    value (rollUpTiers now t).dayPending k = 0 := by
  rw [← pending_day]
  exact aggregateAll_pending now (by decide) hk

/-- Every upper row and its queue are what the rows below add up to. -/
def Balanced (t : Tiers) : Prop := ∀ upper b, gap t upper b = 0

theorem Balanced.hour (h : Balanced t) (b : Bucket) :
    value t.hour b + value t.hourPending b = total (belongs .hour b) t.minute :=
  sub_eq_zero.1 (h .hour b)

theorem Balanced.day (h : Balanced t) (b : Bucket) :
    value t.day b + value t.dayPending b = total (belongs .day b) t.hour :=
  sub_eq_zero.1 (h .day b)

theorem rollUp_hour (h : Balanced t) (hk : k.timestamp < cutoff .hour now) :
    value (rollUpTiers now t).hour k = total (belongs .hour k) (rollUpTiers now t).minute := by
  have hbal : Balanced (rollUpTiers now t) := fun upper b => (gap_rollUpTiers now).trans
    (h upper b)
  rw [← hbal.hour, rollUp_hourPending hk, add_zero]

theorem truncate_truncate :
    (b.truncate Tier.hour.size).truncate Tier.day.size = b.truncate Tier.day.size := by
  simp only [Bucket.truncate, Tier.size, hourMs, dayMs, minuteMs]
  congr 1
  omega

theorem rollUp_day (h : Balanced t) (hk : k.timestamp < cutoff .day now) :
    value (rollUpTiers now t).day k = total (belongs .day k) (rollUpTiers now t).minute := by
  have hbal : Balanced (rollUpTiers now t) := fun upper b => (gap_rollUpTiers now).trans
    (h upper b)
  rw [← add_zero (value _ k), ← rollUp_dayPending hk, hbal.day]
  refine (total_eq_total (g := Bucket.truncate Tier.hour.size) (u := (rollUpTiers now t).minute)
    fun row hrow => ?_).trans ?_
  · refine rollUp_hour h ?_
    have hrow : row.truncate Tier.day.size = k := of_decide_eq_true hrow
    rw [← hrow] at hk
    simp only [Bucket.truncate, cutoff, Tier.size, hourMs, dayMs, minuteMs] at hk ⊢
    omega
  · simp only [belongs, truncate_truncate]
    rfl

end Netqmon.Storage.Balance
