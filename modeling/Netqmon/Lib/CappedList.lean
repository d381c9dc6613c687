import Mathlib

/-! # Lists with a capacity

Elements are pushed onto a duplicate-free list of at most `cap` elements; a push onto a full list,
or of an element that is there, does nothing. `pushAll_mono` compares two runs of the same pushes,
the second from a larger start: the second run keeps everything the first one collected as long as
both together fit. -/

namespace Netqmon.Lib.CappedList

variable {α : Type}

/-- A duplicate-free list within the capacity. -/
structure Capped (cap : ℕ) (l : List α) : Prop where
  nodup : l.Nodup
  length_le : l.length ≤ cap

variable [DecidableEq α]

def push (cap : ℕ) (result : List α) (x : α) : List α :=
  if result.length < cap ∧ x ∉ result then result ++ [x] else result

def pushAll (cap : ℕ) (result : List α) (xs : List α) : List α :=
  xs.foldl (push cap) result

variable {l : List α} {cap : ℕ}

theorem Capped.push (hl : Capped cap l) (x : α) : Capped cap (push cap l x) := by
  unfold CappedList.push
  split_ifs with h
  · refine ⟨List.nodup_append.2 ⟨hl.nodup, List.nodup_singleton x, ?_⟩, ?_⟩
    · grind
    · grind
  · exact hl

theorem Capped.pushAll : ∀ {l : List α} (xs : List α), Capped cap l → Capped cap (pushAll cap l xs)
  | _, [], hl => hl
  | _, x :: xs, hl => Capped.pushAll xs (hl.push x)

theorem prefix_push (cap : ℕ) (l : List α) (x : α) : l <+: push cap l x := by
  grind [push]

theorem prefix_pushAll (cap : ℕ) : ∀ xs l : List α, l <+: pushAll cap l xs
  | [], l => List.prefix_refl l
  | x :: xs, l => (prefix_push cap l x).trans (prefix_pushAll cap xs (push cap l x))

variable {cap : ℕ}

theorem pushAll_append (l xs ys : List α) :
    pushAll cap l (xs ++ ys) = pushAll cap (pushAll cap l xs) ys :=
  List.foldl_append

theorem pushAll_eq_append : ∀ {xs l : List α}, Capped cap (l ++ xs) → pushAll cap l xs = l ++ xs
  | [], l, _ => (List.append_nil l).symm
  | x :: xs, l, h => by
    have hassoc : l ++ x :: xs = (l ++ [x]) ++ xs := by simp
    have hx : x ∉ l := fun hx => (List.nodup_append.1 h.nodup).2.2 x hx x List.mem_cons_self rfl
    have hlen : l.length < cap := by
      have := h.length_le
      grind
    have hstp : push cap l x = l ++ [x] := if_pos ⟨hlen, hx⟩
    show pushAll cap (push cap l x) xs = _
    rw [hstp, hassoc, pushAll_eq_append (hassoc ▸ h)]

theorem pushAll_full (hl : cap ≤ l.length) : ∀ xs : List α, pushAll cap l xs = l
  | [] => rfl
  | x :: xs => by
    have hstp : push cap l x = l := if_neg fun h => absurd h.1 (by omega)
    show pushAll cap (push cap l x) xs = l
    rw [hstp, pushAll_full hl xs]

/-- **Pushes from a larger start.** The second run keeps what the first one collected, if the two
starts and what was collected fit together. -/
theorem pushAll_mono :
    ∀ {xs small large : List α}, small ⊆ large → large.Nodup →
      (large.toFinset ∪ (pushAll cap small xs).toFinset).card ≤ cap →
      pushAll cap small xs ⊆ pushAll cap large xs
  | [], _, _, hsub, _, _ => hsub
  | x :: xs, small, large, hsub, hnd, hcard => by
    change (large.toFinset ∪ (pushAll cap (push cap small x) xs).toFinset).card ≤ cap at hcard
    show pushAll cap (push cap small x) xs ⊆ pushAll cap (push cap large x) xs
    by_cases hroom : small.length < cap ∨ x ∈ small
    · -- `x` and the larger start are both among what has to fit, so `x` has a place there too
      have hmem : x ∈ push cap small x := by grind [push]
      have hxmem := (prefix_pushAll cap xs _).subset hmem
      have hlg : x ∈ push cap large x := by
        by_contra hnot
        have hcap : cap ≤ large.length ∧ x ∉ large := by grind [push]
        have hle := (Finset.card_le_card (s := insert x large.toFinset)
          (by grind [List.mem_toFinset])).trans hcard
        rw [Finset.card_insert_of_notMem (by simpa using hcap.2),
          List.toFinset_card_of_nodup hnd] at hle
        omega
      have hsb : push cap small x ⊆ push cap large x := by grind [push]
      refine pushAll_mono hsb (by grind [push]) (le_trans (Finset.card_le_card ?_) hcard)
      grind [push, List.mem_toFinset]
    · have hsm : push cap small x = small := if_neg fun h => hroom (.inl h.1)
      grind [pushAll_full, prefix_push, prefix_pushAll]

end Netqmon.Lib.CappedList
