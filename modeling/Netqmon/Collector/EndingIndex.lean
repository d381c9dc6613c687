import Mathlib

/-! # The index of ending windows

A sample belongs to a flow that has ended if one of the flow's ending windows meets the time of the
sample. The index has the starts of the windows in order and beside each the largest end so far
(`prefixMaxEnds`): the windows that start in time are a prefix, and its largest end decides. -/

namespace Netqmon.Collector.EndingIndex

def u64Max : ℕ := 2 ^ 64 - 1

def saturatingSucc (n : ℕ) : ℕ := min (n + 1) u64Max

/-- The order in which an unstable sort by the start leaves windows. -/
structure SortByFirst where
  order : List (ℕ × ℕ) → List (ℕ × ℕ)
  perm : ∀ windows, (order windows).Perm windows
  sorted : ∀ windows, (order windows).Pairwise fun a b => a.1 ≤ b.1

/-- A stable sort is one. -/
def SortByFirst.stable : SortByFirst where
  order windows := windows.mergeSort fun a b => a.1 ≤ b.1
  perm windows := List.mergeSort_perm windows _
  sorted windows := by
    refine (List.pairwise_mergeSort (fun a b c => ?_) (fun a b => ?_) windows).imp of_decide_eq_true
    · simp only [decide_eq_true_eq]
      exact le_trans
    · simp only [Bool.or_eq_true, decide_eq_true_eq]
      exact le_total a.1 b.1

structure EndingIntervalIndex where
  (starts prefixMaxEnds : List ℕ)

/-- The largest ends that the loop pushes, from `maxEnd` on. -/
def prefixMaxEnds : ℕ → List (ℕ × ℕ) → List ℕ
  | _, [] => []
  | maxEnd, (_, last) :: windows => max maxEnd last :: prefixMaxEnds (max maxEnd last) windows

def EndingIntervalIndex.new (sort : SortByFirst) (windows : List (ℕ × ℕ)) :
    Option EndingIntervalIndex :=
  if windows.isEmpty then none
  else some ⟨(sort.order windows).map Prod.fst, EndingIndex.prefixMaxEnds 0 (sort.order windows)⟩

/-- `partition_point` counts the starts before the first one that is too late. -/
def EndingIntervalIndex.overlaps (index : EndingIntervalIndex)
    (sampleFirstSeenUnixMs sampleLastPacketMs : ℕ) : Bool :=
  let eligible := (index.starts.takeWhile (· ≤ saturatingSucc sampleLastPacketMs)).length
  0 < eligible && index.prefixMaxEnds[eligible - 1]?.any fun maxEnd =>
    sampleFirstSeenUnixMs ≤ saturatingSucc maxEnd

/-- The largest end of windows, if it is above `maxEnd`. -/
def largestEnd (maxEnd : ℕ) (windows : List (ℕ × ℕ)) : ℕ :=
  windows.foldl (fun maxEnd window => max maxEnd window.2) maxEnd

variable {windows : List (ℕ × ℕ)}

theorem getElem?_prefixMaxEnds {maxEnd k : ℕ} (h : k < windows.length) :
    (prefixMaxEnds maxEnd windows)[k]? = some (largestEnd maxEnd (windows.take (k + 1))) := by
  induction windows generalizing maxEnd k with
  | nil => cases h
  | cons window windows ih =>
    cases k with
    | zero => rfl
    | succ k => exact ih (Nat.lt_of_succ_lt_succ h)

theorem le_saturatingSucc_largestEnd {t maxEnd : ℕ} :
    t ≤ saturatingSucc (largestEnd maxEnd windows) ↔
      t ≤ saturatingSucc maxEnd ∨ ∃ window ∈ windows, t ≤ saturatingSucc window.2 := by
  induction windows generalizing maxEnd with
  | nil => simp [largestEnd]
  | cons window windows ih =>
    have hstp : largestEnd maxEnd (window :: windows) = largestEnd (max maxEnd window.2) windows :=
      rfl
    rw [hstp, ih, List.exists_mem_cons_iff, ← or_assoc]
    refine or_congr_left ?_
    unfold saturatingSucc
    omega

theorem takeWhile_eq_filter (t : ℕ) (h : windows.Pairwise fun a b => a.1 ≤ b.1) :
    windows.takeWhile (fun w => w.1 ≤ t) = windows.filter fun w => w.1 ≤ t := by
  induction windows with
  | nil => rfl
  | cons first windows ih =>
    obtain ⟨hfst, hr⟩ := List.pairwise_cons.1 h
    by_cases hle : first.1 ≤ t
    · rw [List.takeWhile_cons_of_pos (by simpa using hle), List.filter_cons_of_pos (by simpa using hle),
        ih hr]
    · rw [List.takeWhile_cons_of_neg (by simpa using hle), List.filter_cons_of_neg (by simpa using hle)]
      refine (List.filter_eq_nil_iff.2 fun window hwin => ?_).symm
      have hlt := hfst window hwin
      rw [decide_eq_true_eq]
      omega

/-- **The index answers the pairwise test.** -/
theorem overlaps_iff_exists (sort : SortByFirst) (windows : List (ℕ × ℕ))
    (sampleFirst sampleLast : ℕ) :
    (EndingIntervalIndex.new sort windows).any (·.overlaps sampleFirst sampleLast) = true ↔
      ∃ window ∈ windows, window.1 ≤ saturatingSucc sampleLast ∧
        sampleFirst ≤ saturatingSucc window.2 := by
  have hmem : ∀ window, window ∈ (sort.order windows).takeWhile
      (fun w => decide (w.1 ≤ saturatingSucc sampleLast)) ↔
        window ∈ windows ∧ window.1 ≤ saturatingSucc sampleLast := fun window => by
    rw [takeWhile_eq_filter _ (sort.sorted windows), List.mem_filter, (sort.perm windows).mem_iff,
      decide_eq_true_eq]
  unfold EndingIntervalIndex.new
  split_ifs with hempty
  · simp [List.isEmpty_iff.1 hempty]
  unfold EndingIntervalIndex.overlaps
  rw [Option.any_some, List.takeWhile_map, List.length_map, Function.comp_def, Bool.and_eq_true,
    decide_eq_true_eq]
  generalize heligible : (sort.order windows).takeWhile
    (fun w => decide (w.1 ≤ saturatingSucc sampleLast)) = eligible at hmem
  cases eligible with
  | nil =>
    refine ⟨fun h => absurd h.1 (lt_irrefl 0), fun ⟨window, hwindow, hstart, _⟩ => ?_⟩
    cases (hmem window).2 ⟨hwindow, hstart⟩
  | cons first rest =>
    have hprefix : first :: rest <+: sort.order windows := heligible ▸ List.takeWhile_prefix _
    have htake := List.prefix_iff_eq_take.1 hprefix
    rw [List.length_cons, Nat.add_sub_cancel,
      getElem?_prefixMaxEnds (Nat.lt_of_succ_le hprefix.length_le), ← List.length_cons, ← htake,
      Option.any_some, decide_eq_true_eq, le_saturatingSucc_largestEnd]
    constructor
    · rintro ⟨-, hzero | ⟨window, hwindow, hend⟩⟩
      · -- a sample that starts at time one or before meets every window
        obtain ⟨hfirst, hstart⟩ := (hmem first).1 List.mem_cons_self
        refine ⟨first, hfirst, hstart, hzero.trans ?_⟩
        unfold saturatingSucc
        omega
      · obtain ⟨hwindows, hstart⟩ := (hmem window).1 hwindow
        exact ⟨window, hwindows, hstart, hend⟩
    · rintro ⟨window, hwindows, hstart, hend⟩
      exact ⟨Nat.succ_pos _, .inr ⟨window, (hmem window).2 ⟨hwindows, hstart⟩, hend⟩⟩

/-- A sample that comes right after the later of two windows. -/
theorem overlaps_after_window :
    (EndingIntervalIndex.new .stable [(10, 20), (5, 8)]).any (·.overlaps 21 30) = true :=
  (overlaps_iff_exists .stable _ 21 30).2 ⟨(10, 20), by decide⟩

end Netqmon.Collector.EndingIndex
