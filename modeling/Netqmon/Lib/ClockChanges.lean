import Netqmon.Lib.CivilTime

/-! # Clock changes

A clock that is put back shows a stretch of local time twice, one that is put forward shows a stretch of
local time not at all. Here clock changes are at least two days apart and at full minutes (`Regular`), so
that they do not interfere: no local time is shown three times (`eq_or_eq_of_toLocal_eq`), and if the clock
shows the same time or an earlier one later on, it was put back once in between (`turned_back`). Zones
that are like a regular one only between two instants (`RegularBetween`) look up local times of that
stretch as it does.

`Started x t` and `Unfinished x t` say of a period of local time that begins or ends at `x` whether it has
begun, and whether it has not yet ended, as seen at the instant `t`. -/

namespace Netqmon.Lib.ClockChanges

open CivilTime CivilTime.TimeZone

variable (zone : TimeZone)

/-- The offset changes at the instant. -/
def IsChange (utc : ℤ) : Prop := zone.offsetAt utc ≠ zone.offsetAt (utc - 1)

/-- The clock is put back at the instant. The local times from `toLocal utc` to `toLocal (utc - 1)` are
shown twice. -/
def TurnsBack (utc : ℤ) : Prop := zone.toLocal utc ≤ zone.toLocal (utc - 1)

structure Regular (zone : TimeZone) : Prop where
  wholeMinutes : ∀ utc, zone.offsetAt utc % 60 = 0
  onTheMinute : ∀ utc, IsChange zone utc → utc % minuteMs = 0
  apart : ∀ earlier later, IsChange zone earlier → IsChange zone later → earlier < later →
    earlier + 2 * dayMs ≤ later

/-- The clocks of two zones show the same between two instants. -/
def Agree (zone zone' : TimeZone) (low high : ℤ) : Prop :=
  ∀ utc, low ≤ utc → utc ≤ high → zone.toLocal utc = zone'.toLocal utc

/-- Between the two instants the zone is like a regular one. -/
def RegularBetween (zone : TimeZone) (low high : ℤ) : Prop :=
  ∃ regular, Regular regular ∧ Agree zone regular low high

/-- Something that begins at a local time has begun. -/
def Started (localTime t : ℤ) : Prop := ∃ u ≤ t, localTime ≤ zone.toLocal u

/-- Something that ends at a local time has not ended for good. -/
def Unfinished (localTime t : ℤ) : Prop :=
  ∃ v ≥ t, zone.toLocal v < localTime ∨ t < v ∧ zone.toLocal v = localTime

variable {zone : TimeZone} {r t u v x : ℤ}

theorem TurnsBack.isChange (h : TurnsBack zone t) : IsChange zone t := by
  intro heq
  unfold TurnsBack toLocal at h
  rw [heq] at h
  omega

/-! ### Between changes -/

theorem exists_change (huv : u ≤ v) (hne : zone.offsetAt u ≠ zone.offsetAt v) :
    ∃ change, u < change ∧ change ≤ v ∧ IsChange zone change := by
  induction v, huv using Int.leInduction with
  | base => exact absurd rfl hne
  | succ v huv ih =>
    by_cases hsm : zone.offsetAt u = zone.offsetAt v
    · refine ⟨v + 1, by omega, le_refl _, ?_⟩
      grind [IsChange]
    · obtain ⟨change, hu, hv, hchange⟩ := ih hsm
      exact ⟨change, hu, by omega, hchange⟩

namespace Regular

theorem offsetAt_before (h : Regular zone) (hchange : IsChange zone v) (hfar : v - 2 * dayMs ≤ u)
    (huv : u < v) : zone.offsetAt u = zone.offsetAt (v - 1) := by
  by_contra hne
  obtain ⟨other, hu, hv, ho⟩ := exists_change (by omega) hne
  have hapart := h.apart other v ho hchange (by omega)
  omega

theorem offsetAt_after (h : Regular zone) (hchange : IsChange zone u) (huv : u ≤ v)
    (hfar : v < u + 2 * dayMs) : zone.offsetAt v = zone.offsetAt u := by
  by_contra hne
  obtain ⟨other, hu, hv, ho⟩ := exists_change huv (Ne.symm hne)
  have hapart := h.apart u other hchange ho hu
  omega

end Regular

theorem toLocal_lt_of_far (h : u + 2 * dayMs ≤ v) : zone.toLocal u < zone.toLocal v := by
  have hu := zone.offsetAt_bounded u
  have hv := zone.offsetAt_bounded v
  unfold toLocal dayMs minuteMs secondMs at *
  omega

namespace Regular

section

variable (h : Regular zone)
include h

/-- If the clock does not show a later time later on, it was put back once in between. -/
theorem turned_back (huv : u < v) (hle : zone.toLocal v ≤ zone.toLocal u) :
    ∃ change, TurnsBack zone change ∧ u < change ∧ change ≤ v ∧
      zone.toLocal change ≤ zone.toLocal v ∧ zone.toLocal u ≤ zone.toLocal (change - 1) := by
  have hnear : v < u + 2 * dayMs := by
    by_contra hfar
    exact absurd (toLocal_lt_of_far (by omega)) (not_lt.2 hle)
  have hne : zone.offsetAt u ≠ zone.offsetAt v := by grind [toLocal]
  obtain ⟨change, hu, hv, hchange⟩ := exists_change huv.le hne
  have hbef := h.offsetAt_before hchange (by omega) hu
  have haf := h.offsetAt_after hchange hv (by omega)
  refine ⟨change, ?_, hu, hv, ?_, ?_⟩
  · grind [TurnsBack, toLocal]
  · unfold toLocal
    rw [haf]
    omega
  · unfold toLocal
    rw [hbef]
    omega

/-- A time that is shown for the second time after one change is not shown for the first time before
another. -/
theorem not_both {earlier later : ℤ} (hearlier : TurnsBack zone earlier)
    (hpast : earlier ≤ t) (hsnd : zone.toLocal t ≤ zone.toLocal (earlier - 1))
    (hlt : TurnsBack zone later) (hfut : t < later)
    (hfst : zone.toLocal later ≤ zone.toLocal t) : False := by
  have hapart := h.apart earlier later hearlier.isChange hlt.isChange (by omega)
  have ho := zone.offsetAt_bounded (earlier - 1)
  have hl := zone.offsetAt_bounded later
  unfold toLocal dayMs minuteMs secondMs at *
  omega

variable {change : ℤ} (hchange : TurnsBack zone change)
include hchange

theorem toLocal_le_of_lt (hu : u < change) : zone.toLocal u ≤ zone.toLocal (change - 1) := by
  by_contra hlt
  have hne : u ≠ change - 1 := fun heq => hlt (by rw [heq])
  obtain ⟨other, ho, -, hle, hbk, hforth⟩ :=
    h.turned_back (by omega) (not_le.1 hlt).le
  exact h.not_both ho hle (by omega) hchange (by omega) hchange

theorem le_toLocal_of_le (hv : change ≤ v) : zone.toLocal change ≤ zone.toLocal v := by
  by_contra hlt
  have hne : change ≠ v := fun heq => hlt (by rw [heq])
  obtain ⟨other, ho, hlt', -, hbk, -⟩ :=
    h.turned_back (lt_of_le_of_ne hv hne) (not_le.1 hlt).le
  exact h.not_both hchange (le_refl _) hchange ho hlt' (by omega)

/-! ### The two instants of a local time -/

theorem toLocal_first (hlow : zone.toLocal change ≤ x) (hhi : x ≤ zone.toLocal (change - 1)) :
    zone.toLocal (change - 1 - (zone.toLocal (change - 1) - x)) = x ∧
      zone.toLocal (change - 1 - (zone.toLocal (change - 1) - x) - 1) = x - 1 := by
  have hb := zone.offsetAt_bounded (change - 1)
  have hc := zone.offsetAt_bounded change
  have hnear : change - 2 * dayMs ≤ change - 1 - (zone.toLocal (change - 1) - x) - 1 := by
    unfold TurnsBack toLocal dayMs minuteMs secondMs at *
    omega
  have hfst := h.offsetAt_before hchange.isChange (u := change - 1 -
    (zone.toLocal (change - 1) - x)) (by omega) (by omega)
  have hpred := h.offsetAt_before hchange.isChange hnear (by omega)
  constructor
  · rw [toLocal, hfst]
    unfold toLocal
    omega
  · rw [toLocal, hpred]
    unfold toLocal
    omega

theorem toLocal_second (hlow : zone.toLocal change ≤ x) (hhi : x ≤ zone.toLocal (change - 1)) :
    zone.toLocal (change + (x - zone.toLocal change)) = x := by
  have hb := zone.offsetAt_bounded (change - 1)
  have hc := zone.offsetAt_bounded change
  have hsnd := h.offsetAt_after hchange.isChange (v := change + (x - zone.toLocal change))
    (by omega) (by unfold toLocal dayMs minuteMs secondMs at *; omega)
  rw [toLocal, hsnd]
  unfold toLocal
  omega

/-- An instant before a change at which the clock shows a time that will come again. -/
theorem eq_first (hfut : t < change) (hlow : zone.toLocal change ≤ zone.toLocal t) :
    t = change - 1 - (zone.toLocal (change - 1) - zone.toLocal t) := by
  have hb := zone.offsetAt_bounded t
  have hc := zone.offsetAt_bounded change
  have hbef := h.offsetAt_before hchange.isChange
    (by unfold toLocal dayMs minuteMs secondMs at *; omega) hfut
  unfold toLocal
  rw [hbef]
  omega

/-- An instant after a change at which the clock shows a time that has been before. -/
theorem eq_second (hpast : change ≤ t) (hhi : zone.toLocal t ≤ zone.toLocal (change - 1)) :
    t = change + (zone.toLocal t - zone.toLocal change) := by
  have hb := zone.offsetAt_bounded t
  have hc := zone.offsetAt_bounded (change - 1)
  have haf := h.offsetAt_after hchange.isChange hpast
    (by unfold toLocal dayMs minuteMs secondMs at *; omega)
  unfold toLocal
  rw [haf]
  omega

end

/-! ### Periods of local time -/

section Periods

variable (h : Regular zone) {change : ℤ} (hchange : TurnsBack zone change)

include h hchange

theorem started_first (hfut : t < change) (hlow : zone.toLocal change ≤ zone.toLocal t) :
    Started zone x t ↔ x ≤ zone.toLocal t := by
  refine ⟨fun ⟨u, hu, hx⟩ => hx.trans ?_, fun hx => ⟨t, le_refl _, hx⟩⟩
  by_contra hlt
  have hne : u ≠ t := fun heq => hlt (by rw [heq])
  obtain ⟨other, ho, -, hle, -, hbk⟩ :=
    h.turned_back (lt_of_le_of_ne hu hne) (not_le.1 hlt).le
  exact h.not_both ho hle (by omega) hchange hfut hlow

theorem unfinished_first (hfut : t < change) (hlow : zone.toLocal change ≤ zone.toLocal t) :
    Unfinished zone x t ↔ zone.toLocal change ≤ x := by
  constructor
  · rintro ⟨v, hv, hx⟩
    have hle : zone.toLocal change ≤ zone.toLocal v := by
      rcases le_or_gt change v with hpast | hbef
      · exact h.le_toLocal_of_le hchange hpast
      · by_contra hlt
        have hne : t ≠ v := fun heq => hlt (by rwa [← heq])
        obtain ⟨other, ho, hlt', hle', -, -⟩ :=
          h.turned_back (lt_of_le_of_ne hv hne) (by omega)
        have hnear := h.eq_first hchange hfut hlow
        have hb := zone.offsetAt_bounded (change - 1)
        have hc := zone.offsetAt_bounded change
        have hapart := h.apart other change ho.isChange hchange.isChange (by omega)
        unfold toLocal dayMs minuteMs secondMs at *
        omega
    rcases hx with hx | ⟨-, hx⟩ <;> omega
  · intro hx
    rcases eq_or_lt_of_le hx with heq | hlt
    · exact ⟨change, hfut.le, .inr ⟨hfut, heq⟩⟩
    · exact ⟨change, hfut.le, .inl hlt⟩

theorem started_second (hpast : change ≤ t) (hhi : zone.toLocal t ≤ zone.toLocal (change - 1)) :
    Started zone x t ↔ x ≤ zone.toLocal (change - 1) := by
  constructor
  · rintro ⟨u, hu, hx⟩
    refine hx.trans ?_
    rcases lt_or_ge u change with hbef | haf
    · exact h.toLocal_le_of_lt hchange hbef
    · have hsnd := h.eq_second hchange hpast hhi
      have hb := zone.offsetAt_bounded (change - 1)
      have hc := zone.offsetAt_bounded change
      have hoffset := h.offsetAt_after hchange.isChange haf
        (by unfold toLocal dayMs minuteMs secondMs at *; omega)
      have hshown : zone.toLocal u = zone.toLocal change + (u - change) := by
        rw [toLocal, hoffset, toLocal]
        omega
      omega
  · intro hx
    exact ⟨change - 1, by omega, hx⟩

theorem unfinished_second (hpast : change ≤ t) (hhi : zone.toLocal t ≤ zone.toLocal (change - 1)) :
    Unfinished zone x t ↔ zone.toLocal t < x := by
  refine ⟨fun ⟨v, hv, hx⟩ => ?_, fun hx => ⟨t, le_refl _, .inl hx⟩⟩
  by_contra hle
  have hlt : t < v := by grind
  obtain ⟨other, ho, hlt', -, hbk, -⟩ := h.turned_back hlt (by omega)
  exact h.not_both hchange hpast hhi ho hlt' (by omega)

end Periods

theorem started_iff_first_le (h : Regular zone) (hr : zone.toLocal r = x)
    (hfst : ∀ u, zone.toLocal u = x → r ≤ u) : Started zone x t ↔ r ≤ t := by
  refine ⟨fun ⟨u, hu, hshown⟩ => ?_, fun hle => ⟨r, hle, hr.ge⟩⟩
  by_contra hlt
  obtain ⟨change, hch, -, hle, hbk, hforth⟩ :=
    h.turned_back (u := u) (v := r) (by omega) (by omega)
  have hbd := hfst _ (h.toLocal_first hch (x := x) (by omega) (by omega)).1
  omega

theorem unfinished_iff_lt_last (h : Regular zone) (hr : zone.toLocal r = x)
    (hlast : ∀ v, zone.toLocal v = x → v ≤ r) : Unfinished zone x t ↔ t < r := by
  refine ⟨fun ⟨v, hv, hshown⟩ => ?_, fun hlt => ⟨r, hlt.le, .inr ⟨hlt, hr⟩⟩⟩
  by_contra hle
  rcases hshown with hearlier | ⟨hlt, heq⟩
  · have hne : r ≠ v := fun heq => by rw [heq] at hr; omega
    obtain ⟨change, hch, hlt, -, hbk, hforth⟩ :=
      h.turned_back (u := r) (v := v) (by omega) (by omega)
    have hbd := hlast _ (h.toLocal_second hch (x := x) (by omega) (by omega))
    omega
  · have hbd := hlast v heq
    omega

/-- An instant is before a change, after one, or unaffected by any. -/
theorem passes (h : Regular zone) (t : ℤ) :
    (∃ change, TurnsBack zone change ∧ t < change ∧ zone.toLocal change ≤ zone.toLocal t) ∨
      (∃ change, TurnsBack zone change ∧ change ≤ t ∧
        zone.toLocal t ≤ zone.toLocal (change - 1)) ∨
      (∀ u < t, zone.toLocal u < zone.toLocal t) ∧ ∀ v > t, zone.toLocal t < zone.toLocal v := by
  by_cases hfst : ∃ v > t, zone.toLocal v ≤ zone.toLocal t
  · obtain ⟨v, hv, hle⟩ := hfst
    obtain ⟨change, hchange, hlt, -, hbk, -⟩ := h.turned_back hv hle
    exact .inl ⟨change, hchange, hlt, hbk.trans hle⟩
  by_cases hsnd : ∃ u < t, zone.toLocal t ≤ zone.toLocal u
  · obtain ⟨u, hu, hle⟩ := hsnd
    obtain ⟨change, hchange, -, hpast, -, hforth⟩ := h.turned_back hu hle
    grind
  push Not at hfst hsnd
  exact .inr (.inr ⟨hsnd, hfst⟩)

end Regular

theorem started_plain (h : ∀ u < t, zone.toLocal u < zone.toLocal t) :
    Started zone x t ↔ x ≤ zone.toLocal t := by
  refine ⟨fun ⟨u, hu, hx⟩ => ?_, fun hx => ⟨t, le_refl _, hx⟩⟩
  rcases eq_or_lt_of_le hu with rfl | hlt
  · exact hx
  · exact hx.trans (h u hlt).le

theorem unfinished_plain (h : ∀ v > t, zone.toLocal t < zone.toLocal v) :
    Unfinished zone x t ↔ zone.toLocal t < x := by
  refine ⟨fun ⟨v, hv, hx⟩ => ?_, fun hx => ⟨t, le_refl _, .inl hx⟩⟩
  rcases eq_or_lt_of_le hv with rfl | hlt
  · omega
  · have hlater := h v hlt
    omega

/-! ### Looking up local times -/

theorem mem_instantsOf : u ∈ zone.instantsOf x ↔ zone.toLocal u = x := by
  unfold instantsOf
  rw [List.mem_dedup, List.mem_filter, List.mem_map, decide_eq_true_eq]
  refine ⟨And.right, fun h => ⟨⟨_, zone.offsetAt_mem u, ?_⟩, h⟩⟩
  rw [← h, toLocal]
  omega

variable {regular : TimeZone}

/-- A local time well within the stretch belongs to the same instants. -/
theorem Agree.toLocal_eq_iff {low high : ℤ} (h : Agree zone regular low high)
    (hlow : low + dayMs ≤ x) (hhigh : x + dayMs ≤ high) :
    zone.toLocal u = x ↔ regular.toLocal u = x := by
  have hz := zone.offsetAt_bounded u
  have hr := regular.offsetAt_bounded u
  have hsame : low ≤ u → u ≤ high → zone.toLocal u = regular.toLocal u := h u
  unfold toLocal dayMs minuteMs secondMs at *
  omega

theorem ne_of_fromLocal_none (h : zone.fromLocal x = .none) : zone.toLocal u ≠ x := by
  unfold fromLocal at h
  split at h
  · rename_i hnil
    rw [Ne, ← mem_instantsOf, hnil]
    exact List.not_mem_nil
  · cases h
  · cases h

theorem eq_of_fromLocal_single (h : zone.fromLocal x = .single u) :
    zone.toLocal u = x ∧ ∀ v, zone.toLocal v = x → v = u := by
  unfold fromLocal at h
  split at h
  · cases h
  · rename_i hsingle
    cases h
    simp [← mem_instantsOf, hsingle]
  · cases h

namespace Regular

theorem eq_or_eq_of_toLocal_eq (h : Regular zone) {a b c : ℤ} (hab : zone.toLocal a = zone.toLocal b)
    (hbc : zone.toLocal b = zone.toLocal c) : a = b ∨ a = c ∨ b = c := by
  have hso : ∀ a b c, zone.toLocal a = zone.toLocal b → zone.toLocal b = zone.toLocal c →
      a < b → b < c → False := by
    intro a b c hab hbc hlt hlt'
    obtain ⟨earlier, hearlier, -, hpast, -, hforth⟩ := h.turned_back hlt hab.ge
    obtain ⟨later, hlater, hfut, -, hbk, -⟩ := h.turned_back hlt' hbc.ge
    exact h.not_both hearlier hpast (by omega) hlater hfut (by omega)
  have hac := hab.trans hbc
  by_contra hne
  simp only [not_or] at hne
  obtain ⟨hne, hne', hne''⟩ := hne
  rcases lt_or_gt_of_ne hne with h1 | h1 <;> rcases lt_or_gt_of_ne hne' with h2 | h2 <;>
    rcases lt_or_gt_of_ne hne'' with h3 | h3
  · exact hso a b c hab hbc h1 h3
  · exact hso a c b hac hbc.symm h2 h3
  · omega
  · exact hso c a b hac.symm hab h2 h1
  · exact hso b a c hab.symm hac h1 h2
  · omega
  · exact hso b c a hbc hac.symm h3 h2
  · exact hso c b a hbc.symm hab.symm h3 h1

theorem eq_of_fromLocal_ambiguous (h : Regular regular)
    (hsame : ∀ w, zone.toLocal w = x ↔ regular.toLocal w = x)
    (hres : zone.fromLocal x = .ambiguous u v) :
    regular.toLocal u = x ∧ regular.toLocal v = x ∧
      ∀ w, regular.toLocal w = x → w = u ∨ w = v := by
  unfold fromLocal at hres
  split at hres
  · cases hres
  · cases hres
  · rename_i first second rest hli
    cases hres
    have hu : regular.toLocal u = x := (hsame u).1 (mem_instantsOf.1 (by simp [hli]))
    have hv : regular.toLocal v = x := (hsame v).1 (mem_instantsOf.1 (by simp [hli]))
    have hnd : (zone.instantsOf x).Nodup := List.nodup_dedup _
    have hne : u ≠ v := by
      rintro rfl
      simp [hli] at hnd
    refine ⟨hu, hv, fun w hw => ?_⟩
    rcases h.eq_or_eq_of_toLocal_eq (hw.trans hu.symm) (hu.trans hv.symm) with heq | heq | heq
    · exact .inl heq
    · exact .inr heq
    · exact absurd heq hne

theorem shows_minute (h : Regular zone) (hx : x % minuteMs = 0) (hlow : x ≤ zone.toLocal u)
    (hhi : zone.toLocal u < x + minuteMs) : ∃ w, zone.toLocal w = x := by
  have hoffset : zone.offsetAt (u - (zone.toLocal u - x)) = zone.offsetAt u := by
    by_contra hne
    obtain ⟨change, hlt, hle, hchange⟩ := exists_change (by omega) hne
    have hmin := h.onTheMinute change hchange
    have hwhole := h.wholeMinutes u
    unfold toLocal minuteMs secondMs at *
    omega
  refine ⟨u - (zone.toLocal u - x), ?_⟩
  rw [toLocal, hoffset, toLocal]
  omega

/-! ### A minute that is left out -/

section Unshown

variable (h : Regular zone) (hx : x % minuteMs = 0) (hnone : ∀ w, zone.toLocal w ≠ x)
include h hx hnone

theorem toLocal_unshown (u : ℤ) : zone.toLocal u < x ∨ x + minuteMs ≤ zone.toLocal u := by
  by_contra hnot
  obtain ⟨w, hw⟩ := h.shows_minute (u := u) hx (by omega) (by omega)
  exact hnone w hw

theorem started_unshown : Started zone (x + minuteMs) t ↔ Started zone x t := by
  have hminute : 0 < minuteMs := by decide
  refine ⟨fun ⟨u, hu, hle⟩ => ⟨u, hu, by omega⟩, fun ⟨u, hu, hle⟩ => ⟨u, hu, ?_⟩⟩
  exact (h.toLocal_unshown hx hnone u).resolve_left (not_lt.2 hle)

theorem unfinished_unshown : Unfinished zone (x + minuteMs) t ↔ Unfinished zone x t := by
  have hminute : 1 < minuteMs := by decide
  constructor
  · rintro ⟨v, hv, hearlier | ⟨hlt, heq⟩⟩
    · exact ⟨v, hv, .inl ((h.toLocal_unshown hx hnone v).resolve_right (by omega))⟩
    · refine ⟨v - 1, by omega, .inl ?_⟩
      -- a clock that was put back at `v` would have shown the end of the minute before that
      rcases h.toLocal_unshown hx hnone (v - 1) with hbef | hhi
      · exact hbef
      · have hbk : TurnsBack zone v := by
          unfold TurnsBack
          omega
        have hpred := (h.toLocal_first hbk heq.le hhi).2
        have hshown := h.toLocal_unshown hx hnone
          (v - 1 - (zone.toLocal (v - 1) - (x + minuteMs)) - 1)
        omega
  · rintro ⟨v, hv, hearlier | ⟨-, heq⟩⟩
    · exact ⟨v, hv, .inl (by omega)⟩
    · exact absurd heq (hnone v)

end Unshown

end Regular

end Netqmon.Lib.ClockChanges
