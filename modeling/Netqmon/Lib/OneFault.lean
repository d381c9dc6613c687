import Mathlib
import Netqmon.Lib.FaultMap

/-! # Tables of which one operation fails

`Fails n m`: the environment leaves the table alone, operation number `n` from now on reports an
error, and all operations before and after it work. For each sequence of operations it is said what
the table holds when the failing one has been met:

* `transact_fails`: a transaction has written back what it had written;
* `overwrite_fails`: a sequence of reads and writes has done so if a write failed, and has left its
  writes where they are if a read failed. -/

namespace Netqmon.Lib.OneFault

open FaultMap

variable {K V : Type}

/-- `n` operations work, the next one does not. -/
def failing (n : ℕ) (error : String) : List (Fault K) :=
  List.replicate n ⟨[], none⟩ ++ [⟨[], some error⟩]

def Fails (n : ℕ) (m : Table K V) : Prop := ∃ error, m.faults = failing n error

theorem Fails.not_calm {n : ℕ} {m : Table K V} (h : Fails n m) : ¬ Calm m := by
  obtain ⟨error, hfaults⟩ := h
  simp [Calm, hfaults, failing]

variable [DecidableEq K] {n : ℕ} {m : Table K V} {key : K} {value : Option V}

/-! ### One operation -/

theorem tick_fails_zero (h : Fails 0 m) :
    ∃ error m', m.tick = (some error, m') ∧ Calm m' ∧ m'.get = m.get := by
  obtain ⟨error, hfaults⟩ := h
  have hcons : m.faults = [⟨[], some error⟩] := hfaults
  refine ⟨error, ⟨m.entries, []⟩, ?_, rfl, rfl⟩
  simp [Table.tick, hcons, eraseAll]

theorem tick_fails_succ (h : Fails (n + 1) m) :
    ∃ m', m.tick = (none, m') ∧ Fails n m' ∧ m'.get = m.get := by
  obtain ⟨error, hfaults⟩ := h
  have hcons : m.faults = ⟨[], none⟩ :: failing n error := hfaults
  refine ⟨⟨m.entries, failing n error⟩, ?_, ⟨error, rfl⟩, rfl⟩
  simp [Table.tick, hcons, eraseAll]

theorem lookup_fails_zero (h : Fails 0 m) (key : K) :
    ∃ error m', m.lookup key = (.error error, m') ∧ Calm m' ∧ m'.get = m.get := by
  obtain ⟨error, m', htick, hm'⟩ := tick_fails_zero h
  exact ⟨error, m', by simp [Table.lookup, htick], hm'⟩

theorem lookup_fails_succ (h : Fails (n + 1) m) (key : K) :
    ∃ m', m.lookup key = (.ok (m.get key), m') ∧ Fails n m' ∧ m'.get = m.get := by
  obtain ⟨m', htick, hfl, hget⟩ := tick_fails_succ h
  exact ⟨m', by simp [Table.lookup, htick, hget], hfl, hget⟩

theorem put_fails_zero (h : Fails 0 m) (key : K) (value : Option V) :
    ∃ error m', m.put key value = (.error error, m') ∧ Calm m' ∧ m'.get = m.get := by
  obtain ⟨error, m', htick, hm'⟩ := tick_fails_zero h
  refine ⟨error, m', ?_, hm'⟩
  cases value with
  | some v => simp [Table.put, Table.update, htick]
  | none => simp [Table.put, Table.delete, htick]

variable {faults : List (Fault K)}

theorem get_insert (v : V) :
    Table.get ⟨m.entries.insert key v, faults⟩ = Function.update m.get key (some v) := by
  funext other
  by_cases hne : other = key
  · rw [hne, Function.update_self]
    exact AList.lookup_insert _
  · rw [Function.update_of_ne hne]
    exact AList.lookup_insert_ne hne

theorem get_erase : Table.get ⟨m.entries.erase key, faults⟩ = Function.update m.get key none := by
  funext other
  by_cases hne : other = key
  · rw [hne, Function.update_self]
    exact AList.lookup_erase _ _
  · rw [Function.update_of_ne hne]
    exact AList.lookup_erase_ne hne

theorem put_fails_succ (h : Fails (n + 1) m) (hv : value = none → m.get key ≠ none) :
    ∃ m', m.put key value = (.ok (), m') ∧ Fails n m' ∧
      m'.get = Function.update m.get key value := by
  obtain ⟨m', htick, hfl, hget⟩ := tick_fails_succ h
  cases value with
  | some v =>
    refine ⟨⟨m'.entries.insert key v, m'.faults⟩, ?_, hfl, ?_⟩
    · simp [Table.put, Table.update, htick]
    · rw [get_insert, hget]
  | none =>
    obtain ⟨v, hkey⟩ := Option.ne_none_iff_exists'.1 (hv rfl)
    refine ⟨⟨m'.entries.erase key, m'.faults⟩, ?_, hfl, ?_⟩
    · simp [Table.put, Table.delete, htick, hget, hkey]
    · rw [get_erase, hget]

/-- Without faults a write has its effect, also where it deletes an absent key. -/
theorem put_get_calm (h : Calm m) :
    Calm (m.put key value).2 ∧ (m.put key value).2.get = Function.update m.get key value := by
  cases value with
  | some v =>
    simp only [Table.put, Table.update, tick_calm h]
    exact ⟨h, get_insert v⟩
  | none =>
    cases hkey : m.get key with
    | none => grind [Table.put, Table.delete, tick_calm]
    | some v =>
      simp only [Table.put, Table.delete, tick_calm h, hkey]
      exact ⟨h, get_erase⟩

/-! ### Writing back -/

/-- What is held once the earlier values are written back. -/
def restored (held : K → Option V) : List (K × Option V) → K → Option V
  | [] => held
  | (key, value) :: rest => restored (Function.update held key value) rest

variable {applied : List (K × Option V)}

theorem rollback_get_calm (h : Calm m) :
    Calm (m.rollback applied).2 ∧ (m.rollback applied).2.get = restored m.get applied := by
  induction applied generalizing m with
  | nil => exact ⟨h, rfl⟩
  | cons a applied ih =>
    obtain ⟨key, value⟩ := a
    obtain ⟨hcm, hget⟩ := put_get_calm h
    obtain ⟨hcalm', hget'⟩ := ih hcm
    rw [hget] at hget'
    unfold Table.rollback
    rcases hput : m.put key value with ⟨error | _, m'⟩ <;> rw [hput] at hcalm' hget'
    · exact ⟨hcalm', hget'⟩
    · exact ⟨hcalm', hget'⟩

variable {held : K → Option V}

/-- Writing a key and then writing its earlier value back comes to nothing. -/
theorem restored_cons_update :
    restored (Function.update held key value) ((key, held key) :: applied) =
      restored held applied := by
  simp [restored]

/-- **A transaction that meets the failing operation is undone.** -/
theorem transact_fails [DecidableEq V] (updates : List (K × Option V × Option V))
    (applied : List (K × Option V)) (h : Fails n m) (hnd : (updates.map Prod.fst).Nodup)
    (hcur : ∀ key prev next, (key, prev, next) ∈ updates → m.get key = prev) :
    ((m.transact updates applied).1 = .ok () ∧ ∃ k, Fails k (m.transact updates applied).2) ∨
      ∃ error, (m.transact updates applied).1 = .error error ∧
        Calm (m.transact updates applied).2 ∧
        (m.transact updates applied).2.get = restored m.get applied := by
  induction updates generalizing m n applied with
  | nil => exact .inl ⟨rfl, n, h⟩
  | cons u updates ih =>
    obtain ⟨key, prev, next⟩ := u
    simp only [List.map_cons, List.nodup_cons] at hnd
    have hr : ∀ key' previous' next', (key', previous', next') ∈ updates →
        m.get key' = previous' := fun k p q hmem => hcur k p q (.tail _ hmem)
    unfold Table.transact
    by_cases heq : prev = next
    · rw [if_pos heq]
      exact ih applied h hnd.2 hr
    rw [if_neg heq]
    cases n with
    | zero =>
      obtain ⟨error, m', hput, hcm, hget⟩ := put_fails_zero h key next
      grind [rollback_get_calm]
    | succ n =>
      have hpres : next = none → m.get key ≠ none := by grind
      obtain ⟨m', hput, hfl, hget⟩ := put_fails_succ h hpres
      rw [hput]
      have ho : ∀ key' previous' next', (key', previous', next') ∈ updates →
          m'.get key' = previous' := by
        intro key' previous' next' hmem
        have hne : key' ≠ key := fun he => hnd.1 (he ▸ List.mem_map_of_mem hmem)
        rw [hget, Function.update_of_ne hne]
        exact hr key' previous' next' hmem
      obtain hok | ⟨error, herr, hcm, hget'⟩ :=
        ih ((key, prev) :: applied) hfl hnd.2 ho
      · exact .inl hok
      · grind [restored_cons_update]

/-! ### Reads and writes in turn -/

/-- What is held once the values are written. -/
def written (held : K → Option V) (writes : List (K × V)) : K → Option V :=
  writes.foldl (fun held w => Function.update held w.1 (some w.2)) held

/-- **Reads and writes that meet the failing operation** are undone if it is a write, operations
being counted from zero. -/
theorem overwrite_fails (writes : List (K × V)) (applied : List (K × Option V)) (h : Fails n m) :
    (∃ count k, (m.overwrite writes applied).1 = .ok count ∧
        Fails k (m.overwrite writes applied).2) ∨
      ∃ error, (m.overwrite writes applied).1 = .error error ∧
        Calm (m.overwrite writes applied).2 ∧
        (m.overwrite writes applied).2.get =
          if n % 2 = 0 then written m.get (writes.take (n / 2)) else restored m.get applied := by
  induction writes generalizing m n applied with
  | nil => exact .inl ⟨applied.length, n, rfl, h⟩
  | cons w writes ih =>
    obtain ⟨key, value⟩ := w
    unfold Table.overwrite
    obtain _ | _ | n := n
    · obtain ⟨error, m', hl, hcm, hget⟩ := lookup_fails_zero h key
      rw [hl]
      exact .inr ⟨_, rfl, hcm, hget⟩
    · obtain ⟨m', hl, hfl, hget⟩ := lookup_fails_succ h key
      obtain ⟨error, m'', hput, hcm, hget'⟩ := put_fails_zero hfl key (some value)
      have hup : m'.update key value = (.error error, m'') := hput
      grind [rollback_get_calm]
    · obtain ⟨m', hl, hfl, hget⟩ := lookup_fails_succ h key
      obtain ⟨m'', hput, hfails', hget'⟩ := @put_fails_succ K V _ n m' key (some value) hfl (by simp)
      have hup : m'.update key value = (.ok (), m'') := hput
      simp only [hl, hup]
      obtain hok | ⟨error, herr, hcm, hbk⟩ := ih ((key, m.get key) :: applied) hfails'
      · exact .inl hok
      · refine .inr ⟨error, herr, hcm, ?_⟩
        have hhalf : (n + 2) / 2 = n / 2 + 1 := by omega
        have hparity : (n + 2) % 2 = n % 2 := by omega
        rw [hbk, hget', hget, restored_cons_update, hhalf, hparity]
        rfl

/-- The values are functions of their keys. -/
def Consistent (writes : List (K × V)) : Prop :=
  ∀ w ∈ writes, ∀ w' ∈ writes, w.1 = w'.1 → w.2 = w'.2

variable {writes : List (K × V)}

theorem written_of_notMem (held : K → Option V) (h : key ∉ writes.map Prod.fst) :
    written held writes key = held key := by
  induction writes generalizing held with
  | nil => rfl
  | cons w writes ih =>
    simp only [List.map_cons, List.mem_cons, not_or] at h
    exact (ih _ h.2).trans (Function.update_of_ne h.1 _ _)

theorem written_of_mem (held : K → Option V) (h : Consistent writes) {w : K × V} (hw : w ∈ writes) :
    written held writes w.1 = some w.2 := by
  induction writes generalizing held w with
  | nil => cases hw
  | cons w' writes ih =>
    have htail : Consistent writes := fun a ha b hb => h a (.tail _ ha) b (.tail _ hb)
    by_cases hmem : w.1 ∈ writes.map Prod.fst
    · -- a later write of the key decides, and it writes the same value
      obtain ⟨w'', hw'', hkey⟩ := List.mem_map.1 hmem
      have hv : w.2 = w''.2 := h w hw w'' (.tail _ hw'') hkey.symm
      rw [hv, ← hkey]
      exact ih _ htail hw''
    · have hhd : w = w' := by grind
      have hla : written held (w' :: writes) w.1 = Function.update held w'.1 (some w'.2) w.1 :=
        written_of_notMem _ hmem
      rw [hla, hhd, Function.update_self]

/-- Writing what is held already changes nothing, and only that does. -/
theorem written_eq_iff (h : Consistent writes) :
    written held writes = held ↔ ∀ w ∈ writes, held w.1 = some w.2 := by
  constructor
  · intro heq w hw
    rw [← written_of_mem held h hw, heq]
  · intro hh
    funext key
    by_cases hmem : key ∈ writes.map Prod.fst
    · obtain ⟨w, hw, rfl⟩ := List.mem_map.1 hmem
      rw [written_of_mem held h hw, hh w hw]
    · exact written_of_notMem held hmem

/-- Reads and writes that met the failing operation changed nothing if it is a write, or if they
wrote what was held already. -/
theorem overwrite_get_iff (h : Fails n m) (hconsistent : Consistent writes)
    (hmet : Calm (m.overwrite writes []).2) : (m.overwrite writes []).2.get = m.get ↔
      (n % 2 = 0 → ∀ w ∈ writes.take (n / 2), m.get w.1 = some w.2) := by
  obtain ⟨count, k, -, hfl⟩ | ⟨error, -, -, hget⟩ := overwrite_fails writes [] h
  · exact absurd hmet hfl.not_calm
  have htake : Consistent (writes.take (n / 2)) := fun w hw w' hw' =>
    hconsistent w (List.mem_of_mem_take hw) w' (List.mem_of_mem_take hw')
  rw [hget]
  split_ifs with hev
  · rw [written_eq_iff htake, forall_prop_of_true hev]
  · exact iff_of_true rfl fun h => absurd h hev

end Netqmon.Lib.OneFault
