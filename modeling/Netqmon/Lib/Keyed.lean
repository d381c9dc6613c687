import Mathlib

/-! # Tables with a primary key

A table maps primary keys to rows. `upsert`, `deleteWhere`, `updateWhere` and `select` are the
statements that programs run on it; each has a lemma that says what `lookup` finds afterwards.
`sumOver f` adds up a function of the rows.

A table of counters maps keys to elements of a commutative group; an absent row counts as zero
(`value`). `adjust` adds to a row, and `total p` adds up the rows whose key satisfies `p`; both
only depend on the values (`total_congr`). -/

namespace Netqmon.Lib.Keyed

abbrev Rows (K V : Type) : Type := AList fun _ : K => V

/-- The order in which rows come out of a query without an `ORDER BY`, or entries out of a hash
map. -/
structure Scan where
  order : ∀ {α : Type}, List α → List α
  perm : ∀ {α : Type} (l : List α), (order l).Perm l

def Scan.asStored : Scan := ⟨fun l => l, fun l => .refl l⟩

variable {K V M : Type}

variable {α : Type}

theorem foldl_fixed {β γ : Type} {f : β → α → β} {g : β → γ} (h : ∀ b a, g (f b a) = g b) :
    ∀ (l : List α) (b : β), g (l.foldl f b) = g b
  | [], _ => rfl
  | a :: l, b => by rw [List.foldl_cons, foldl_fixed h l, h]

/-! ### Statements -/

variable {t : Rows K V} {key : K} {v : V} {p : K → V → Bool}

variable {l : List α}

section Statements

def deleteWhere (p : K → V → Bool) (t : Rows K V) : Rows K V :=
  ⟨t.entries.filter fun e => !p e.1 e.2, List.NodupKeys.sublist List.filter_sublist t.nodupKeys⟩

def updateWhere (p : K → V → Bool) (f : K → V → V) (t : Rows K V) : Rows K V :=
  ⟨t.entries.map fun e => ⟨e.1, if p e.1 e.2 then f e.1 e.2 else e.2⟩, by
    have h : (t.entries.map fun e => (⟨e.1, if p e.1 e.2 then f e.1 e.2 else e.2⟩ :
        Sigma fun _ : K => V)).keys = t.entries.keys := by simp [List.keys]
    rw [List.NodupKeys, h]
    exact t.nodupKeys⟩

/-- The same keys with a part of every row. -/
def mapRows {W : Type} (f : V → W) (t : Rows K V) : Rows K W :=
  ⟨t.entries.map fun e => ⟨e.1, f e.2⟩, by
    have h : (t.entries.map fun e => (⟨e.1, f e.2⟩ : Sigma fun _ : K => W)).keys =
        t.entries.keys := by simp [List.keys]
    rw [List.NodupKeys, h]
    exact t.nodupKeys⟩

def select (p : K → V → Bool) (t : Rows K V) : List (K × V) :=
  (t.entries.map fun e => (e.1, e.2)).filter fun e => p e.1 e.2

def anyRow (p : K → V → Bool) (t : Rows K V) : Bool := t.entries.any fun e => p e.1 e.2

variable [DecidableEq K]

def upsert (t : Rows K V) (key : K) (new : V) (conflict : V → V) : Rows K V :=
  match t.lookup key with
  | none => t.insert key new
  | some old => t.insert key (conflict old)

@[grind =] theorem lookup_insert_ite (other : K) :
    (t.insert key v).lookup other = if other = key then some v else t.lookup other := by
  split_ifs with h
  · rw [h, AList.lookup_insert]
  · rw [AList.lookup_insert_ne h]

@[grind =] theorem lookup_erase_ite (other : K) :
    (t.erase key).lookup other = if other = key then none else t.lookup other := by
  split_ifs with h
  · rw [h, AList.lookup_erase]
  · rw [AList.lookup_erase_ne h]

@[grind =] theorem lookup_upsert (t : Rows K V) (key other : K) (new : V) (conflict : V → V) :
    (upsert t key new conflict).lookup other =
      if other = key then some ((t.lookup key).elim new conflict) else t.lookup other := by
  unfold upsert
  cases h : t.lookup key <;> exact lookup_insert_ite _

theorem lookup_eq_some_iff :
    t.lookup key = some v ↔ (⟨key, v⟩ : Sigma fun _ : K => V) ∈ t.entries :=
  @AList.mem_lookup_iff _ _ _ key v t

@[grind =] theorem lookup_deleteWhere :
    (deleteWhere p t).lookup key = (t.lookup key).filter fun v => !p key v := by
  apply Option.ext
  intro v
  rw [Option.filter_eq_some_iff, lookup_eq_some_iff, lookup_eq_some_iff]
  simp [deleteWhere]

@[grind =] theorem lookup_updateWhere (f : K → V → V) :
    (updateWhere p f t).lookup key = (t.lookup key).map fun v => if p key v then f key v else v := by
  apply Option.ext
  intro v
  rw [Option.map_eq_some_iff]
  simp only [lookup_eq_some_iff, updateWhere]
  constructor
  · grind
  · grind

@[grind =] theorem lookup_mapRows {W : Type} (f : V → W) :
    (mapRows f t).lookup key = (t.lookup key).map f := by
  apply Option.ext
  intro w
  rw [Option.map_eq_some_iff]
  simp only [lookup_eq_some_iff, mapRows]
  constructor
  · grind
  · grind

@[grind =] theorem mem_select : (key, v) ∈ select p t ↔ t.lookup key = some v ∧ p key v = true := by
  rw [lookup_eq_some_iff]
  simp only [select]
  constructor
  · grind
  · grind

omit [DecidableEq K] in
theorem nodup_keys_select (p : K → V → Bool) (t : Rows K V) :
    ((select p t).map Prod.fst).Nodup := by
  have hks : ((t.entries.map fun e => (e.1, e.2)).map Prod.fst) = t.entries.keys := by
    simp [List.keys]
  have hnd : ((t.entries.map fun e => (e.1, e.2)).map Prod.fst).Nodup := by
    rw [hks]
    exact t.nodupKeys
  exact hnd.sublist (List.filter_sublist.map _)

@[grind =] theorem anyRow_eq_true :
    anyRow p t = true ↔ ∃ key v, t.lookup key = some v ∧ p key v = true := by
  simp only [anyRow, lookup_eq_some_iff]
  constructor
  · grind
  · grind

variable {k : α → K} {v : α → V}

theorem lookup_foldl_insert_cases {x : V}
    (h : (l.foldl (fun t e => t.insert (k e) (v e)) t).lookup key = some x) :
    (∃ e ∈ l, k e = key ∧ v e = x) ∨ t.lookup key = some x := by
  induction l generalizing t with
  | nil => exact .inr h
  | cons e l ih =>
    rcases ih h with ⟨other, ho, heq⟩ | hr
    · exact .inl ⟨other, List.mem_cons_of_mem _ ho, heq⟩
    · grind

theorem lookup_foldl_insert_of_mem {x : V} (hall : ∀ e ∈ l, k e = key → v e = x)
    (h : (∃ e ∈ l, k e = key) ∨ t.lookup key = some x) :
    (l.foldl (fun t e => t.insert (k e) (v e)) t).lookup key = some x := by
  induction l generalizing t with
  | nil => exact h.resolve_left (by simp)
  | cons e l ih =>
    refine ih (fun other ho => hall other (List.mem_cons_of_mem _ ho)) ?_
    grind

/-- Insert rows one after the other. -/
def insertAll (t : Rows K V) (rows : List (K × V)) : Rows K V :=
  rows.foldl (fun t row => t.insert row.1 row.2) t

theorem lookup_insertAll {t : Rows K V} {rows : List (K × V)} (hnd : (rows.map Prod.fst).Nodup)
    {key : K} {v : V} : (insertAll t rows).lookup key = some v ↔
      (key, v) ∈ rows ∨ key ∉ rows.map Prod.fst ∧ t.lookup key = some v := by
  induction rows generalizing t with
  | nil => simp [insertAll]
  | cons row rows ih =>
    obtain ⟨hfr, hnd⟩ := List.nodup_cons.1 hnd
    have hstp : insertAll t (row :: rows) = insertAll (t.insert row.1 row.2) rows := rfl
    rw [hstp, ih hnd]
    by_cases hkey : key = row.1
    · subst hkey
      have hnot : ∀ v, (row.1, v) ∉ rows := fun v hv => hfr (List.mem_map.2 ⟨(row.1, v), hv, rfl⟩)
      simp [hnot, Prod.ext_iff, eq_comm]
    · simp [hkey, Prod.ext_iff]

end Statements

/-! ### Sums over the rows -/

section Sums

variable [AddCommMonoid M]

variable (f : K → V → M)

def sumOver (t : Rows K V) : M := (t.entries.map fun e => f e.1 e.2).sum

theorem sumOver_add (f g : K → V → M) (t : Rows K V) :
    sumOver (fun k v => f k v + g k v) t = sumOver f t + sumOver g t :=
  List.sum_map_add

theorem map_sumOver {N : Type} [AddCommMonoid N] (g : M →+ N) (f : K → V → M) :
    g (sumOver f t) = sumOver (fun k v => g (f k v)) t := by
  unfold sumOver
  rw [map_list_sum, List.map_map]
  rfl

theorem sumOver_deleteWhere :
    sumOver f (deleteWhere p t) = sumOver (fun k v => if p k v then 0 else f k v) t := by
  show ((t.entries.filter fun e => !p e.1 e.2).map fun e => f e.1 e.2).sum =
    (t.entries.map fun e => if p e.1 e.2 then 0 else f e.1 e.2).sum
  induction t.entries with
  | nil => rfl
  | cons e l ih => cases h : p e.1 e.2 <;> simp [h, ih]

theorem sumOver_updateWhere (g : K → V → V) :
    sumOver f (updateWhere p g t) = sumOver (fun k v => f k (if p k v then g k v else v)) t := by
  unfold sumOver updateWhere
  rw [List.map_map]
  rfl

variable [DecidableEq K] {f : K → V → M}

theorem sumOver_congr {g : K → V → M}
    (h : ∀ k v, t.lookup k = some v → f k v = g k v) : sumOver f t = sumOver g t := by
  unfold sumOver
  congr 1
  exact List.map_congr_left fun e he => h e.1 e.2 (lookup_eq_some_iff.2 he)

theorem sum_kerase (f : K → V → M) (key : K) :
    ∀ (l : List (Sigma fun _ : K => V)),
      ((l.kerase key).map fun e => f e.1 e.2).sum + (l.dlookup key).elim 0 (f key) =
        (l.map fun e => f e.1 e.2).sum
  | [] => by simp
  | ⟨k, v⟩ :: l => by
    by_cases h : key = k
    · subst h
      simp [add_comm]
    · have ih := sum_kerase f key l
      have hl : (⟨k, v⟩ :: l : List (Sigma fun _ : K => V)).dlookup key = l.dlookup key :=
        List.dlookup_cons_ne _ _ h
      rw [List.kerase_cons_ne h, hl]
      simp only [List.map_cons, List.sum_cons, add_assoc, ih]

theorem sumOver_erase (f : K → V → M) (t : Rows K V) (key : K) :
    sumOver f (t.erase key) + (t.lookup key).elim 0 (f key) = sumOver f t :=
  sum_kerase f key t.entries

theorem sumOver_insert (f : K → V → M) (t : Rows K V) (key : K) (v : V) :
    sumOver f (t.insert key v) + (t.lookup key).elim 0 (f key) = sumOver f t + f key v := by
  have hins : sumOver f (t.insert key v) = f key v + sumOver f (t.erase key) := by
    simp [sumOver, AList.erase]
  rw [hins, add_assoc, sumOver_erase, add_comm]

theorem sumOver_updateKey {G : Type} [AddCommGroup G] (f : K → V → G) (g : K → V → V)
    (h : t.lookup key = some v) :
    sumOver f (updateWhere (fun k _ => k = key) g t) = sumOver f t + f key (g key v) - f key v := by
  have her := sumOver_erase f t key
  have herase' := sumOver_erase (fun k v => f k (if k = key then g k v else v)) t key
  have hr : sumOver (fun k v => f k (if k = key then g k v else v)) (t.erase key) =
      sumOver f (t.erase key) := by
    refine sumOver_congr fun k v hk => ?_
    rw [if_neg]
    rintro rfl
    rw [AList.lookup_erase] at hk
    exact absurd hk (Option.some_ne_none v).symm
  rw [h] at her herase'
  simp only [Option.elim_some] at her herase'
  rw [sumOver_updateWhere]
  simp only [decide_eq_true_eq]
  rw [← her, ← herase', hr]
  abel

theorem sumOver_nonneg [PartialOrder M] [IsOrderedAddMonoid M]
    (h : ∀ k v, t.lookup k = some v → 0 ≤ f k v) : 0 ≤ sumOver f t := by
  refine List.sum_nonneg fun m hm => ?_
  obtain ⟨e, he, rfl⟩ := List.mem_map.1 hm
  exact h e.1 e.2 (lookup_eq_some_iff.2 he)

theorem le_sumOver [PartialOrder M] [IsOrderedAddMonoid M]
    (h : ∀ k v, t.lookup k = some v → 0 ≤ f k v) (hkey : t.lookup key = some v) :
    f key v ≤ sumOver f t := by
  refine List.single_le_sum (fun m hm => ?_) _
    (List.mem_map_of_mem
      (lookup_eq_some_iff.1 hkey))
  obtain ⟨e, he, rfl⟩ := List.mem_map.1 hm
  exact h e.1 e.2 (lookup_eq_some_iff.2 he)

end Sums

/-! ### Counting rows -/

section Counts

def countRows (p : K → V → Bool) (t : Rows K V) : ℕ := t.entries.countP fun e => p e.1 e.2

theorem countRows_eq_zero : countRows p t = 0 ↔ anyRow p t = false := by
  simp [countRows, anyRow]

theorem countRows_eq_sumOver : countRows p t = sumOver (fun k v => if p k v then 1 else 0) t := by
  unfold countRows sumOver
  induction t.entries with
  | nil => rfl
  | cons e l ih => rw [List.countP_cons, ih, List.map_cons, List.sum_cons, add_comm]

theorem countRows_deleteWhere_le (r : K → V → Bool) :
    countRows p (deleteWhere r t) ≤ countRows p t :=
  List.filter_sublist.countP_le

variable {r : K → V → Bool} {f : K → V → V}

theorem countRows_updateWhere_le (h : ∀ k v, r k v = true → p k (f k v) = true → p k v = true) :
    countRows p (updateWhere r f t) ≤ countRows p t := by
  unfold countRows updateWhere
  rw [List.countP_map]
  refine List.countP_mono_left fun e _ => ?_
  dsimp only [Function.comp_apply]
  split_ifs with hr
  · exact h e.1 e.2 hr
  · exact id

variable [DecidableEq K]

theorem countRows_deleteWhere_lt (h : t.lookup key = some v) (hp : p key v = true)
    (hr : r key v = true) : countRows p (deleteWhere r t) < countRows p t := by
  unfold countRows deleteWhere
  have hsp := List.countP_eq_countP_filter_add t.entries (fun e => p e.1 e.2) fun e => r e.1 e.2
  have hpos : 0 < (t.entries.filter fun e => r e.1 e.2).countP fun e => p e.1 e.2 :=
    List.countP_pos_iff.2 ⟨⟨key, v⟩, List.mem_filter.2 ⟨lookup_eq_some_iff.1 h, hr⟩, hp⟩
  dsimp only at hsp ⊢
  omega

theorem countRows_updateWhere_lt (hf : ∀ k v, r k v = true → p k (f k v) = false)
    (h : t.lookup key = some v) (hp : p key v = true) (hr : r key v = true) :
    countRows p (updateWhere r f t) < countRows p t := by
  have hrest : countRows p (updateWhere r f t) ≤ countRows p (deleteWhere r t) := by
    unfold countRows updateWhere deleteWhere
    rw [List.countP_map, List.countP_filter]
    refine List.countP_mono_left fun e _ => ?_
    dsimp only [Function.comp_apply]
    split_ifs with hr
    · rw [hf e.1 e.2 hr]
      exact fun h => absurd h (by decide)
    · simp [hr]
  exact hrest.trans_lt (countRows_deleteWhere_lt h hp hr)

theorem countRows_insert_le (h : p key v = false) : countRows p (t.insert key v) ≤ countRows p t := by
  rw [countRows, AList.entries_insert, List.countP_cons_of_neg (by simp [h])]
  exact (List.kerase_sublist key t.entries).countP_le

theorem countRows_upsert_le {new : V} {conflict : V → V} (hnew : p key new = false)
    (hconf : ∀ old, p key (conflict old) = false) :
    countRows p (upsert t key new conflict) ≤ countRows p t := by
  unfold upsert
  split
  · exact countRows_insert_le hnew
  · exact countRows_insert_le (hconf _)

end Counts

/-! ### Counters -/

section Counters

variable [AddCommGroup M] [DecidableEq K]

/-- The counter at a key; an absent row counts as zero. -/
def value (t : Rows K M) (key : K) : M := (t.lookup key).getD 0

def adjust (t : Rows K M) (key : K) (m : M) : Rows K M := upsert t key m (· + m)

/-- The sum of the rows whose key satisfies `p`. -/
def total (p : K → Bool) (t : Rows K M) : M := sumOver (fun k v => if p k then v else 0) t

@[simp] theorem value_empty : value (∅ : Rows K M) key = 0 := rfl

variable (p : K → Bool)

omit [DecidableEq K] in
@[simp] theorem total_empty : total p (∅ : Rows K M) = 0 := rfl

variable (t : Rows K M)

theorem lookup_adjust (key other : K) (m : M) :
    (adjust t key m).lookup other =
      if other = key then some (value t key + m) else t.lookup other := by
  rw [adjust, lookup_upsert, value]
  cases t.lookup key <;> simp

theorem value_adjust (other : K) (m : M) :
    value (adjust t key m) other = value t other + if other = key then m else 0 := by
  rw [value, lookup_adjust]
  split_ifs with h
  · rw [h]; rfl
  · rw [add_zero]; rfl

theorem adjust_eq_insert (m : M) : adjust t key m = t.insert key (value t key + m) := by
  unfold adjust upsert value
  cases t.lookup key <;> simp

theorem total_adjust (t : Rows K M) (key : K) (m : M) :
    total p (adjust t key m) = total p t + if p key then m else 0 := by
  have hins : ∀ v, total p (t.insert key v) + (if p key then value t key else 0) =
      total p t + if p key then v else 0 := by
    intro v
    have h := sumOver_insert (fun k v => if p k then v else 0) t key v
    have hold : (t.lookup key).elim 0 (fun v => if p key then v else 0) =
        if p key then value t key else 0 := by
      unfold value
      cases t.lookup key <;> simp
    rwa [hold] at h
  rw [adjust_eq_insert]
  have h := hins (value t key + m)
  split_ifs at h ⊢ with hp
  · grind
  · simpa using h

theorem value_deleteWhere {p : K → M → Bool} (hp : ∀ k v, p k v = true → v = 0) (t : Rows K M) :
    value (deleteWhere p t) key = value t key := by
  rw [value, value, lookup_deleteWhere]
  cases h : t.lookup key with
  | none => rfl
  | some v => grind

/-- A sum over the rows is a sum over any set of keys that has all of them. -/
theorem total_eq_sum (t : Rows K M) {s : Finset K} (hs : ∀ k, t.lookup k ≠ none → k ∈ s) :
    total p t = ∑ k ∈ s, if p k then value t k else 0 := by
  have hsub : t.keys.toFinset ⊆ s := by
    intro k hk
    refine hs k fun hn => ?_
    rw [AList.lookup_eq_none] at hn
    exact hn (AList.mem_keys.1 (List.mem_toFinset.1 hk))
  have hz : ∀ k ∈ s, k ∉ t.keys.toFinset → (if p k then value t k else 0) = 0 := by
    intro k _ hk
    have hn : t.lookup k = none := by
      rw [AList.lookup_eq_none]
      exact fun h => hk (List.mem_toFinset.2 (AList.mem_keys.2 h))
    simp [value, hn]
  rw [← Finset.sum_subset hsub hz, List.sum_toFinset _ t.keys_nodup, AList.keys, List.keys,
    List.map_map]
  refine congrArg List.sum (List.map_congr_left fun e he => ?_)
  simp [value, lookup_eq_some_iff.2 he]

variable {p : K → Bool}

/-- Sums only depend on the values of the keys that are summed. -/
theorem total_congr {t t' : Rows K M} (h : ∀ k, p k = true → value t k = value t' k) :
    total p t = total p t' := by
  have hmem : ∀ (u u' : Rows K M) k, u.lookup k ≠ none → k ∈ u.keys.toFinset ∪ u'.keys.toFinset := by
    intro u u' k hk
    refine Finset.mem_union_left _ (List.mem_toFinset.2 (AList.mem_keys.2 ?_))
    by_contra hnot
    exact hk (AList.lookup_eq_none.2 hnot)
  rw [total_eq_sum p t (hmem t t'), Finset.union_comm, total_eq_sum p t' (hmem t' t)]
  refine Finset.sum_congr rfl fun k _ => ?_
  split_ifs with hp
  · exact h k hp
  · rfl

variable {t : Rows K M}

theorem total_eq_zero (h : countRows (fun k _ => p k) t = 0) : total p t = 0 := by
  suffices hem : total p t = total p ∅ from hem.trans (total_empty p)
  refine total_congr fun k hk => ?_
  have hn : t.lookup k = none := by
    by_contra hs
    obtain ⟨v, hv⟩ := Option.ne_none_iff_exists'.1 hs
    rw [countRows_eq_zero] at h
    exact absurd (anyRow_eq_true.2 ⟨k, v, hv, hk⟩) (by rw [h]; decide)
  rw [value, hn]
  rfl

theorem total_single (hp : ∀ k, p k = true ↔ k = key) (t : Rows K M) : total p t = value t key := by
  have hcongr : total p t = total p (adjust ∅ key (value t key)) := total_congr fun k hk => by
    rw [(hp k).1 hk, value_adjust, if_pos rfl, value_empty, zero_add]
  rw [hcongr, total_adjust, if_pos ((hp key).2 rfl), total_empty, zero_add]

/-- If every summed value is the sum of the weights of the elements that belong to its key, a sum
over the rows is the sum over the elements whose key is summed. -/
theorem total_eq_of_value {g : α → K} {w : α → M}
    (h : ∀ k, p k = true → value t k = (l.map fun e => if g e = k then w e else 0).sum) :
    total p t = (l.map fun e => if p (g e) then w e else 0).sum := by
  have hfo : ∀ (es : List α) (u : Rows K M),
      (∀ k, value (es.foldl (fun u e => adjust u (g e) (w e)) u) k =
        value u k + (es.map fun e => if g e = k then w e else 0).sum) ∧
      total p (es.foldl (fun u e => adjust u (g e) (w e)) u) =
        total p u + (es.map fun e => if p (g e) then w e else 0).sum := by
    intro es
    induction es with
    | nil => simp
    | cons e es ih =>
      intro u
      grind [value_adjust, total_adjust]
  obtain ⟨hv, htot⟩ := hfo l ∅
  rw [total_congr fun k hk => (h k hk).trans ((zero_add _).symm.trans (hv k).symm), htot,
    total_empty, zero_add]

/-- `total_eq_of_value` for the rows of another table. -/
theorem total_eq_total {L : Type} {u : Rows L M} {g : L → K}
    (h : ∀ k, p k = true → value t k = total (fun l => g l = k) u) :
    total p t = total (fun l => p (g l)) u := by
  refine (total_eq_of_value (l := u.entries)
    fun k hk => ?_).trans rfl
  rw [h k hk, total, sumOver]
  simp

/-- Picking one key out of a selection of rows. -/
theorem sum_select (t : Rows K M) :
    ((select (fun k _ => p k) t).map fun e => if key = e.1 then e.2 else 0).sum =
      if p key then value t key else 0 := by
  have h := total_eq_sum (fun k => p k && decide (key = k)) t
    (s := insert key t.keys.toFinset) fun k hk => Finset.mem_insert_of_mem
      (List.mem_toFinset.2 (AList.mem_keys.2 (by
        by_contra hnot
        exact hk (AList.lookup_eq_none.2 hnot))))
  have hone : (∑ k ∈ insert key t.keys.toFinset,
      if (p k && decide (key = k)) = true then value t k else 0) =
        if p key then value t key else 0 := by
    rw [Finset.sum_eq_single key]
    · simp
    · intro k _ hk
      simp [hk.symm]
    · simp
  rw [← hone, ← h, select, total, sumOver]
  induction t.entries with
  | nil => rfl
  | cons e l ih =>
    rw [List.map_cons, List.filter_cons, List.map_cons, List.sum_cons, ← ih]
    cases p e.1 <;> simp

end Counters

end Netqmon.Lib.Keyed
