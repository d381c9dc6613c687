import Mathlib

/-! # Key–value maps with failing operations

A map that a program shares with an environment: before every operation the environment may
delete keys, and the operation itself may report an error. A `Table` pairs the entries with the
faults still to come; `lookup`, `update`, `delete` use up one fault each. On top of them:

* `put` writes an optional value, `rollback` restores a list of earlier values, `transact` writes
  a list of staged values and rolls back on the first error, `overwrite` reads and writes in
  turn, `sweep` deletes a list of keys;
* `Holds P`: every stored entry satisfies `P`. Every operation whose written values satisfy `P`
  keeps it, whatever the faults are (`holds_transact`);
* `transact_ok_staged`: after a transaction without an error every staged key holds its staged
  value, or has been deleted by the environment; `transact_calm`: without faults the staged
  values are exactly what is written. -/

namespace Netqmon.Lib.FaultMap

variable {K V : Type} [DecidableEq K]

/-! ### The table and its operations -/

/-- What the environment does around one operation: the keys it deletes first, and the error the
operation reports, if any. -/
structure Fault (K : Type) where
  evicted : List K
  error : Option String

structure Table (K V : Type) where
  entries : AList fun _ : K => V
  faults : List (Fault K)

/-- Why a sequence of writes stopped: a read failed, or a write did, with the errors of undoing
the writes before it. -/
inductive OverwriteError
  | read (error : String)
  | write (error : String) (rollbackErrors : List String)

def eraseAll (entries : AList fun _ : K => V) (keys : List K) : AList fun _ : K => V :=
  keys.foldl (fun acc key => acc.erase key) entries

namespace Table

variable (m : Table K V)

def get (key : K) : Option V := m.entries.lookup key

/-- Use up one fault: its deletions happen, its error is returned. -/
def tick : Option String × Table K V :=
  match m.faults with
  | [] => (none, m)
  | fault :: rest => (fault.error, ⟨eraseAll m.entries fault.evicted, rest⟩)

def lookup (key : K) : Except String (Option V) × Table K V :=
  match m.tick with
  | (some error, m') => (.error error, m')
  | (none, m') => (.ok (m'.get key), m')

def update (key : K) (value : V) : Except String Unit × Table K V :=
  match m.tick with
  | (some error, m') => (.error error, m')
  | (none, m') => (.ok (), ⟨m'.entries.insert key value, m'.faults⟩)

/-- Deleting an absent key is an error. -/
def delete (key : K) : Except String Unit × Table K V :=
  match m.tick with
  | (some error, m') => (.error error, m')
  | (none, m') =>
    match m'.get key with
    | none => (.error "No such file or directory", m')
    | some _ => (.ok (), ⟨m'.entries.erase key, m'.faults⟩)

def put (key : K) : Option V → Except String Unit × Table K V
  | some value => m.update key value
  | none => m.delete key

/-- Write back earlier values, going on after errors, which are collected. -/
def rollback (m : Table K V) : List (K × Option V) → List String × Table K V
  | [] => ([], m)
  | (key, value) :: rest =>
    match m.put key value with
    | (.ok _, m') => m'.rollback rest
    | (.error error, m') => (error :: (m'.rollback rest).1, (m'.rollback rest).2)

/-- Write the staged values `(key, previous, next)` one by one. `applied` lists what has been
overwritten so far, the latest write first; on an error it is written back. -/
def transact [DecidableEq V] (m : Table K V) :
    List (K × Option V × Option V) → List (K × Option V) →
      Except (String × List String) Unit × Table K V
  | [], _ => (.ok (), m)
  | (key, previous, next) :: rest, applied =>
    if previous = next then m.transact rest applied
    else
      match m.put key next with
      | (.ok _, m') => m'.transact rest ((key, previous) :: applied)
      | (.error error, m') => (.error (error, (m'.rollback applied).1), (m'.rollback applied).2)

/-- Read and overwrite the keys one by one. `applied` lists what has been overwritten so far, the
latest write first; it is written back when a write fails, but not when a read does. -/
def overwrite (m : Table K V) :
    List (K × V) → List (K × Option V) → Except OverwriteError ℕ × Table K V
  | [], applied => (.ok applied.length, m)
  | (key, value) :: rest, applied =>
    match m.lookup key with
    | (.error error, m') => (.error (.read error), m')
    | (.ok previous, m') =>
      match m'.update key value with
      | (.error error, m'') =>
        (.error (.write error (m''.rollback applied).1), (m''.rollback applied).2)
      | (.ok _, m'') => m''.overwrite rest ((key, previous) :: applied)

/-- Delete the listed keys, going on after errors, which are collected. -/
def sweep (m : Table K V) : List K → List String × Table K V
  | [] => ([], m)
  | key :: rest =>
    match m.delete key with
    | (.ok _, m') => m'.sweep rest
    | (.error error, m') => (error :: (m'.sweep rest).1, (m'.sweep rest).2)

end Table

variable {key : K}

/-! ### Deletions by the environment -/

theorem lookup_eraseAll (keys : List K) (entries : AList fun _ : K => V) :
    (eraseAll entries keys).lookup key = if key ∈ keys then none else entries.lookup key := by
  induction keys generalizing entries with
  | nil => simp [eraseAll]
  | cons head rest ih =>
    have hstp : eraseAll entries (head :: rest) = eraseAll (entries.erase head) rest := rfl
    rw [hstp, ih]
    by_cases hr : key ∈ rest
    · simp [hr]
    · by_cases hhd : key = head
      · subst hhd; simp
      · simp [hhd]

/-- `m'` holds what `m` holds, except for deleted keys. -/
def Shrinks (m m' : Table K V) : Prop := ∀ key, m'.get key = m.get key ∨ m'.get key = none

theorem Shrinks.refl (m : Table K V) : Shrinks m m := fun _ => .inl rfl

variable {m : Table K V}

theorem Shrinks.trans {m' m'' : Table K V} (h : Shrinks m m') (h' : Shrinks m' m'') :
    Shrinks m m'' := by
  intro key
  rcases h' key with h2 | h2
  · rw [h2]; exact h key
  · exact .inr h2

theorem shrinks_tick (m : Table K V) : Shrinks m m.tick.2 := by
  intro key
  grind [Table.get, lookup_eraseAll, Table.tick]

/-! ### One lemma per operation -/

theorem shrinks_lookup (m : Table K V) (key : K) : Shrinks m (m.lookup key).2 := by
  have h := shrinks_tick m
  unfold Table.lookup
  split <;> simp_all

theorem lookup_ok {m : Table K V} {key : K} {value : Option V}
    (h : (m.lookup key).1 = .ok value) : (m.lookup key).2.get key = value := by
  unfold Table.lookup at h ⊢
  split at h
  · cases h
  · exact Except.ok.inj h

/-- The outcomes of a write: an error and deletions only, or the written value and deletions. -/
theorem put_cases (m : Table K V) (key : K) (v : Option V) :
    ((∃ error, (m.put key v).1 = .error error) ∧ Shrinks m (m.put key v).2) ∨
      ((m.put key v).1 = .ok () ∧ (m.put key v).2.get key = v ∧
        ∀ other, other ≠ key → (m.put key v).2.get other = m.get other ∨
          (m.put key v).2.get other = none) := by
  have hm := shrinks_tick m
  -- a write changes its own key only; the others are as the environment leaves them
  have ho : ∀ other, other ≠ key → (m.put key v).2.get other = m.tick.2.get other := by
    cases v <;>
      grind [Table.put, Table.update, Table.delete, Table.get, AList.lookup_insert_ne,
        AList.lookup_erase_ne]
  cases v <;>
    grind [Table.put, Table.update, Table.delete, Table.get, Shrinks, AList.lookup_insert,
      AList.lookup_erase]

/-! ### Properties of all entries -/

/-- Every stored entry satisfies `P`. -/
def Holds (P : K → V → Prop) (m : Table K V) : Prop := ∀ key v, m.get key = some v → P key v

variable {P : K → V → Prop}

theorem Shrinks.holds {m' : Table K V} (h : Shrinks m m') (hm : Holds P m) : Holds P m' := by
  intro key v hv
  rcases h key with h2 | h2
  · exact hm key v (h2 ▸ hv)
  · rw [h2] at hv; cases hv

theorem holds_put (hm : Holds P m) {value : Option V} (hv : ∀ v, value = some v → P key v) :
    Holds P (m.put key value).2 := by
  rcases put_cases m key value with ⟨-, hs⟩ | ⟨-, hk, ho⟩
  · exact hs.holds hm
  · intro other v h
    by_cases hne : other = key
    · grind
    · rcases ho other hne with h2 | h2
      · exact hm other v (h2 ▸ h)
      · rw [h2] at h; cases h

theorem holds_rollback :
    ∀ (applied : List (K × Option V)) (m : Table K V), Holds P m →
      (∀ key v, (key, some v) ∈ applied → P key v) → Holds P (m.rollback applied).2
  | [], _, hm, _ => hm
  | (key, value) :: rest, m, hm, ha => by
    have hput : Holds P (m.put key value).2 :=
      holds_put hm fun v hv => ha key v (by simp [hv])
    have hr := holds_rollback rest _ hput fun key' v h => ha key' v (List.mem_cons_of_mem _ h)
    grind [Table.rollback]

theorem holds_transact [DecidableEq V] :
    ∀ (updates : List (K × Option V × Option V)) (applied : List (K × Option V)) (m : Table K V),
      Holds P m → (∀ key v, (key, some v) ∈ applied → P key v) →
      (∀ key prev next, (key, prev, next) ∈ updates →
        (∀ v, prev = some v → P key v) ∧ ∀ v, next = some v → P key v) →
      Holds P (m.transact updates applied).2
  | [], _, _, hm, _, _ => hm
  | (key, prev, next) :: rest, applied, m, hm, ha, hu => by
    obtain ⟨hpr, hnx⟩ := hu key prev next (by simp)
    have hr : ∀ key' previous' next', (key', previous', next') ∈ rest →
        (∀ v, previous' = some v → P key' v) ∧ ∀ v, next' = some v → P key' v :=
      fun key' previous' next' h => hu key' previous' next' (List.mem_cons_of_mem _ h)
    have hput : Holds P (m.put key next).2 := holds_put hm hnx
    unfold Table.transact
    split_ifs
    · exact holds_transact rest applied m hm ha hr
    · split
      · rename_i m' h
        rw [h] at hput
        refine holds_transact rest _ m' hput (fun key' v hmem => ?_) hr
        grind
      · grind [holds_rollback]

theorem holds_overwrite :
    ∀ (writes : List (K × V)) (applied : List (K × Option V)) (m : Table K V), Holds P m →
      (∀ key v, (key, some v) ∈ applied → P key v) → (∀ key v, (key, v) ∈ writes → P key v) →
      Holds P (m.overwrite writes applied).2
  | [], _, _, hm, _, _ => hm
  | (key, value) :: rest, applied, m, hm, ha, hw => by
    have hlook : Holds P (m.lookup key).2 := (shrinks_lookup m key).holds hm
    unfold Table.overwrite
    rcases hl : m.lookup key with ⟨error | previous, m'⟩
    · rw [hl] at hlook; exact hlook
    · have hpr : m'.get key = previous := by
        have h := @lookup_ok _ _ _ m key previous
        rw [hl] at h; exact h rfl
      rw [hl] at hlook
      have hput : Holds P (m'.put key (some value)).2 :=
        holds_put hlook fun v hv => hw key v (by simp_all)
      simp only [Table.put] at hput
      rcases hu : m'.update key value with ⟨error | _, m''⟩ <;> rw [hu] at hput
      · grind [holds_rollback]
      · simp only [hu]
        refine holds_overwrite rest _ m'' hput (fun key' v hmem => ?_)
          fun key' v h => hw key' v (List.mem_cons_of_mem _ h)
        rcases List.mem_cons.1 hmem with heq | hmem
        · cases heq; exact hlook _ v hpr
        · exact ha key' v hmem

theorem holds_sweep : ∀ (keys : List K) (m : Table K V), Holds P m → Holds P (m.sweep keys).2
  | [], _, hm => hm
  | key :: rest, m, hm => by
    have hput : Holds P (m.put key none).2 := holds_put hm (by simp)
    have hr : Holds P ((m.delete key).2.sweep rest).2 := holds_sweep rest _ hput
    grind [Table.sweep]

theorem holds_eraseAll (hm : Holds P m) (keys : List K) :
    Holds P (⟨eraseAll m.entries keys, m.faults⟩ : Table K V) := by
  intro key v hv
  simp only [Table.get, lookup_eraseAll] at hv
  split_ifs at hv
  exact hm key v hv

/-! ### Transactions without an error -/

theorem transact_ok_staged [DecidableEq V] :
    ∀ (updates : List (K × Option V × Option V)) (applied : List (K × Option V)) (m : Table K V),
      (updates.map Prod.fst).Nodup → (m.transact updates applied).1 = .ok () →
      (∀ key prev next, (key, prev, next) ∈ updates →
        (m.get key = prev ∨ m.get key = none) →
        (m.transact updates applied).2.get key = next ∨
          (m.transact updates applied).2.get key = none) ∧
      ∀ key, key ∉ updates.map Prod.fst →
        (m.transact updates applied).2.get key = m.get key ∨
          (m.transact updates applied).2.get key = none
  | [], _, _, _, _ => ⟨by simp, fun _ _ => .inl rfl⟩
  | (key, prev, next) :: rest, applied, m, hnd, hok => by
    simp only [List.map_cons, List.nodup_cons] at hnd
    unfold Table.transact at hok ⊢
    split_ifs at hok ⊢ with heq
    · obtain ⟨hstg, ho⟩ := transact_ok_staged rest applied m hnd.2 hok
      grind
    · rcases hp : m.put key next with ⟨_ | _, m'⟩
      · simp [hp] at hok
      · simp only [hp] at hok ⊢
        obtain ⟨hstg, ho⟩ := transact_ok_staged rest _ m' hnd.2 hok
        have hput := put_cases m key next
        simp only [hp, reduceCtorEq, exists_false, false_and, true_and, false_or] at hput
        obtain ⟨hkey, hput⟩ := hput
        refine ⟨fun key' previous' next' hmem hcur => ?_, fun key' hnot => ?_⟩
        · rcases List.mem_cons.1 hmem with h | h
          · grind
          · refine hstg key' previous' next' h ?_
            grind
        · grind

/-- After a sequence of writes without an error every written key holds a value written to it, or
has been deleted by the environment; other keys are only deleted. -/
theorem overwrite_ok :
    ∀ (writes : List (K × V)) (applied : List (K × Option V)) (m : Table K V) (n : ℕ),
      (m.overwrite writes applied).1 = .ok n →
      (∀ key ∈ writes.map Prod.fst, (m.overwrite writes applied).2.get key = none ∨
        ∃ v, (key, v) ∈ writes ∧ (m.overwrite writes applied).2.get key = some v) ∧
      ∀ key, key ∉ writes.map Prod.fst →
        (m.overwrite writes applied).2.get key = m.get key ∨
          (m.overwrite writes applied).2.get key = none
  | [], _, _, _, _ => ⟨by simp, fun _ _ => .inl rfl⟩
  | (key, value) :: rest, applied, m, n, hok => by
    have hlook := shrinks_lookup m key
    unfold Table.overwrite at hok ⊢
    rcases hl : m.lookup key with ⟨error | prev, m'⟩ <;> rw [hl] at hlook
    · simp [hl] at hok
    · have hput := put_cases m' key (some value)
      simp only [Table.put] at hput
      rcases hu : m'.update key value with ⟨error | _, m''⟩ <;> simp only [hl, hu] at hok hput ⊢
      · cases hok
      · simp only [reduceCtorEq, exists_false, false_and, true_and, false_or] at hput
        obtain ⟨hwr, ho⟩ := overwrite_ok rest _ m'' n hok
        refine ⟨fun key' hmem => ?_, fun key' hnot => ?_⟩
        · by_cases hr : key' ∈ rest.map Prod.fst
          · grind
          · grind
        · simp only [List.map_cons, List.mem_cons, not_or] at hnot
          rcases ho key' hnot.2 with h | h
          · rw [h]
            rcases hput.2 key' hnot.1 with h2 | h2
            · rw [h2]; exact hlook key'
            · exact .inr h2
          · exact .inr h

/-! ### Tables the environment leaves alone -/

/-- No fault is to come. -/
def Calm (m : Table K V) : Prop := m.faults = []

theorem tick_calm (h : Calm m) : m.tick = (none, m) := by
  unfold Table.tick; rw [h]

theorem lookup_calm (h : Calm m) : m.lookup key = (.ok (m.get key), m) := by
  unfold Table.lookup; rw [tick_calm h]

/-- Without faults only the deletion of an absent key fails. -/
theorem put_calm (h : Calm m) {value : Option V} (hv : value = none → m.get key ≠ none) :
    (m.put key value).1 = .ok () ∧ Calm (m.put key value).2 ∧
      (m.put key value).2.get key = value ∧
      ∀ other, other ≠ key → (m.put key value).2.get other = m.get other := by
  cases value with
  | some v =>
    simp only [Table.put, Table.update, tick_calm h]
    exact ⟨trivial, h, AList.lookup_insert _, fun other hne => AList.lookup_insert_ne hne⟩
  | none =>
    obtain ⟨v, hget⟩ := Option.ne_none_iff_exists'.1 (hv rfl)
    simp only [Table.put, Table.delete, tick_calm h, hget]
    exact ⟨trivial, h, AList.lookup_erase _ _, fun other hne => AList.lookup_erase_ne hne⟩

theorem transact_calm [DecidableEq V] :
    ∀ (updates : List (K × Option V × Option V)) (applied : List (K × Option V)) (m : Table K V),
      Calm m → (updates.map Prod.fst).Nodup →
      (∀ key previous next, (key, previous, next) ∈ updates → m.get key = previous) →
      (m.transact updates applied).1 = .ok () ∧ Calm (m.transact updates applied).2 ∧
      (∀ key previous next, (key, previous, next) ∈ updates →
        (m.transact updates applied).2.get key = next) ∧
      ∀ key, key ∉ updates.map Prod.fst → (m.transact updates applied).2.get key = m.get key
  | [], _, _, hc, _, _ => ⟨rfl, hc, by simp, fun _ _ => rfl⟩
  | (key, previous, next) :: rest, applied, m, hc, hnd, hcur => by
    simp only [List.map_cons, List.nodup_cons] at hnd
    have hkey : m.get key = previous := hcur key previous next (by simp)
    have hr : ∀ key' previous' next', (key', previous', next') ∈ rest →
        m.get key' = previous' := fun k p n h => hcur k p n (List.mem_cons_of_mem _ h)
    unfold Table.transact
    split_ifs with heq
    · obtain ⟨hok, hcm, hstg, ho⟩ := transact_calm rest applied m hc hnd.2 hr
      grind
    · have hput : (m.put key next).1 = .ok () ∧ Calm (m.put key next).2 ∧ _ :=
        put_calm hc (by rintro rfl; rw [hkey]; exact heq)
      rcases hp : m.put key next with ⟨_ | _, m'⟩
      · simp [hp] at hput
      · simp only [hp, true_and] at hput ⊢
        obtain ⟨hc', hnx, hput⟩ := hput
        obtain ⟨hok, hcm, hstg, ho⟩ := transact_calm rest ((key, previous) :: applied) m'
          hc' hnd.2 fun key' previous' next' h => by grind
        grind

end Netqmon.Lib.FaultMap
