import Netqmon.Collector.Policy.Compiler
import Netqmon.Collector.Policy.Evaluator
import Netqmon.Lib.ClockChanges

/-! # Two readings of a schedule

The collector asks whether the local time lies in a window of the schedule (`scheduleActive`). The agent
gets the windows as intervals, from the first instant of their start to the last instant of their end
(`expandSchedule`). Around a clock that is put back the two are not the same: an interval goes on until its
end is shown for the last time, also while the clock shows times that lie in no window. `FoldsFit` says
when this makes no difference. -/

namespace Netqmon.Collector.Policy.Schedules

open Lib.Checks Lib.CivilTime Lib.CivilTime.TimeZone Lib.ClockChanges Lib.RustStr Protocol.Policy
open Protocol.Snapshot Validation Compiler Evaluator

/-! ### Windows in local time -/

/-- Start and end of a window on a date. -/
def opening (date : ℤ) (window : PolicyScheduleWindow) : Option (ℤ × ℤ) := do
  let start ← parseTime window.start
  let stop ← parseTime window.stop
  return (date * dayMs + start * minuteMs, date * dayMs + stop * minuteMs)

variable (schedule : PolicySchedule)

/-- The windows on a date. -/
def openings (date : ℤ) : List (ℤ × ℤ) :=
  (windowsOn schedule (weekday date)).filterMap (opening date)

/-- The local time lies in a window. -/
def InWindows (localTime : ℤ) : Prop :=
  ∃ o ∈ openings schedule (localTime / dayMs), o.1 ≤ localTime ∧ localTime < o.2

/-- A window that the agent is told about meets a condition. -/
def SomeOpening (zone : TimeZone) (schedule : PolicySchedule) (fromMs untilMs : ℤ)
    (P : ℤ × ℤ → Prop) : Prop :=
  ∃ date, zone.localDate fromMs ≤ date ∧ date ≤ zone.localDate untilMs ∧
    ∃ o ∈ openings schedule date, P o

/-- Every time that is shown twice because the clock is put back at `change` lies in a window if and only
if a window has begun by then and does not end before the stretch that is repeated (when the time is shown
first), or has begun within it and has not ended (when it is shown again). -/
structure FoldsFit (zone : TimeZone) (schedule : PolicySchedule) (fromMs untilMs : ℤ) : Prop where
  first : ∀ change localTime, TurnsBack zone change → zone.toLocal change ≤ localTime →
    localTime ≤ zone.toLocal (change - 1) →
    fromMs ≤ change - 1 - (zone.toLocal (change - 1) - localTime) →
    change - 1 - (zone.toLocal (change - 1) - localTime) < untilMs →
    (InWindows schedule localTime ↔ SomeOpening zone schedule fromMs untilMs fun o =>
      o.1 ≤ localTime ∧ zone.toLocal change ≤ o.2)
  second : ∀ change localTime, TurnsBack zone change → zone.toLocal change ≤ localTime →
    localTime ≤ zone.toLocal (change - 1) →
    fromMs ≤ change + (localTime - zone.toLocal change) →
    change + (localTime - zone.toLocal change) < untilMs →
    (InWindows schedule localTime ↔ SomeOpening zone schedule fromMs untilMs fun o =>
      o.1 ≤ zone.toLocal (change - 1) ∧ localTime < o.2)

/-! ### Times of day -/

theorem digit_ne {c d : Char} (hc : isAsciiDigit c = true) (hd : isAsciiDigit d = false) :
    c ≠ d := by
  rintro rfl
  rw [hc] at hd
  cases hd

theorem parseUnsigned_pair {a b : Char} (ha : isAsciiDigit a = true) (hb : isAsciiDigit b = true)
    {bound : ℕ} (hbd : digit a * 10 + digit b < bound) :
    parseUnsigned bound (String.ofList [a, b]) = some (digit a * 10 + digit b) := by
  have hplus : a ≠ '+' := digit_ne ha (by decide)
  unfold parseUnsigned
  rw [String.toList_ofList]
  split
  · grind
  · grind [digit]

/-- A time that passed the validation is read the same by the evaluator. -/
theorem parseMinute_of_parseTime {v : String} {minute : ℕ} (h : parseTime v = some minute) :
    parseMinute v = some minute ∧ minute < 1440 := by
  unfold parseTime at h
  split at h
  · rename_i a b c d hv
    split_ifs at h with hdigits
    dsimp only at h
    split_ifs at h with hrange
    simp only [List.all_cons, List.all_nil, Bool.and_eq_true] at hdigits
    simp only [Bool.and_eq_true, decide_eq_true_eq] at hrange
    obtain ⟨ha, hb, hc, hd⟩ := hdigits
    cases h
    have hsp : splitOnce ":" v = some (String.ofList [a, b], String.ofList [c, d]) := by
      have ha' : a ≠ ':' := digit_ne ha (by decide)
      have hb' : b ≠ ':' := digit_ne hb (by decide)
      unfold splitOnce
      rw [hv]
      simp [splitOnce.go, ha'.symm, hb'.symm]
    unfold parseMinute
    grind [parseUnsigned_pair]
  · cases h

/-- The times of a window are valid and in order. -/
def TimesOk (window : PolicyScheduleWindow) : Prop :=
  ∃ start stop, parseTime window.start = some start ∧ parseTime window.stop = some stop ∧
    start < stop

variable {zones : Zones}

theorem timesOk_of_accepted {submitted : PolicySchedule}
    (h : (validateSchedule zones submitted).2 = []) :
    ∀ window ∈ (validateSchedule zones submitted).1.windows, TimesOk window := by
  intro window hwin
  unfold validateSchedule at h hwin
  rw [(List.perm_insertionSort _ _).mem_iff, List.map_map, List.mem_map] at hwin
  obtain ⟨⟨original, index⟩, hmem, rfl⟩ := hwin
  obtain ⟨-, hissues⟩ := List.append_eq_nil_iff.1 h
  rw [List.flatMap_map, List.flatMap_eq_nil_iff] at hissues
  have hwin := hissues (original, index) hmem
  obtain ⟨-, htm⟩ := List.append_eq_nil_iff.1 hwin
  change TimesOk { original with days := _ }
  unfold TimesOk
  split at htm
  · grind [issueIf]
  · cases htm

/-! ### The collector's reading -/

variable {schedule : PolicySchedule} {date : ℤ} {o : ℤ × ℤ}

theorem mem_openings :
    o ∈ openings schedule date ↔
      ∃ window ∈ windowsOn schedule (weekday date), opening date window = some o :=
  List.mem_filterMap

variable {window : PolicyScheduleWindow}

theorem opening_of_times {start stop : ℕ} (date : ℤ)
    (hst : parseTime window.start = some start) (hstop : parseTime window.stop = some stop) :
    opening date window = some (date * dayMs + start * minuteMs, date * dayMs + stop * minuteMs) := by
  unfold opening
  rw [hst, hstop]
  rfl

/-- Windows do not reach beyond their date. -/
theorem date_of_opening (htm : ∀ window ∈ schedule.windows, TimesOk window) {x : ℤ}
    (ho : o ∈ openings schedule date) (hlow : o.1 ≤ x) (hhi : x < o.2) : x / dayMs = date := by
  obtain ⟨window, hwin, hop⟩ := mem_openings.1 ho
  obtain ⟨start, stop, hst, hstop, -⟩ := htm window (List.mem_filter.1 hwin).1
  rw [opening_of_times date hst hstop] at hop
  cases hop
  have hlt := (parseMinute_of_parseTime hstop).2
  unfold dayMs minuteMs secondMs at *
  omega

theorem windowOpen_iff {x : ℤ} (htm : TimesOk window) :
    windowOpen window (weekday (x / dayMs)) (x % dayMs / minuteMs).toNat = true ↔
      (window.days.any fun day => day.mondayIndex = weekday (x / dayMs)) = true ∧
        ∃ o, opening (x / dayMs) window = some o ∧ o.1 ≤ x ∧ x < o.2 := by
  obtain ⟨start, stop, hst, hstop, -⟩ := htm
  unfold windowOpen
  rw [(parseMinute_of_parseTime hst).1, (parseMinute_of_parseTime hstop).1,
    opening_of_times _ hst hstop]
  simp only [Option.any_some, Bool.and_eq_true, decide_eq_true_eq, Option.some.injEq,
    exists_eq_left', and_assoc]
  refine and_congr_right fun _ => and_congr ?_ ?_
  · unfold dayMs minuteMs secondMs
    omega
  · unfold dayMs minuteMs secondMs
    omega

variable {zone : TimeZone} {t : ℤ}

theorem scheduleActive_iff {p : PolicySnapshotEntry}
    (hsc : p.spec.schedule = some schedule) (hzone : zones schedule.timezone = some zone)
    (htm : ∀ window ∈ schedule.windows, TimesOk window) (hdate : hasDate t = true) :
    scheduleActive zones p t = true ↔ InWindows schedule (zone.toLocal t) := by
  unfold scheduleActive
  rw [hsc]
  dsimp only
  rw [hdate, hzone, Bool.true_and, Option.any_some, List.any_eq_true]
  constructor
  · rintro ⟨window, hwin, hop⟩
    obtain ⟨hday, o, ho, hbounds⟩ := (windowOpen_iff (htm window hwin)).1 hop
    exact ⟨o, mem_openings.2 ⟨window, List.mem_filter.2 ⟨hwin, hday⟩, ho⟩, hbounds⟩
  · rintro ⟨o, ho, hbounds⟩
    obtain ⟨window, hwin, hopening⟩ := mem_openings.1 ho
    obtain ⟨hwin, hday⟩ := List.mem_filter.1 hwin
    exact ⟨window, hwin,
      (windowOpen_iff (htm window hwin)).2 ⟨hday, o, hopening, hbounds⟩⟩

/-! ### The agent's reading

The zone is compared with a regular one that agrees with it around the range. -/

variable {attempts : ℕ} {x r low high : ℤ} {regular : TimeZone}

/-- The zones agree around the range. -/
abbrev AgreeAround (zone regular : TimeZone) (fromMs untilMs : ℤ) : Prop :=
  Agree zone regular (fromMs - 4 * dayMs) (untilMs + 4 * dayMs)

/-- One more minute stays within the stretch in which the zones agree. -/
theorem next_minute (hagree : Agree zone regular low high) (hlow : low + dayMs ≤ x)
    (hhigh : x + (attempts + 1 : ℕ) * minuteMs + dayMs ≤ high) :
    (∀ u, zone.toLocal u = x ↔ regular.toLocal u = x) ∧ low + dayMs ≤ x + minuteMs ∧
      x + minuteMs + attempts * minuteMs + dayMs ≤ high := by
  have hnext : (attempts + 1 : ℕ) * minuteMs = attempts * minuteMs + minuteMs := by grind
  have hminute : 0 < minuteMs := by decide
  have hattempts := mul_nonneg (Int.natCast_nonneg attempts) hminute.le
  exact ⟨fun u => hagree.toLocal_eq_iff hlow (by omega), by omega, by omega⟩

section Resolve

variable (h : Regular regular) (hagree : Agree zone regular low high) (t : ℤ)
  (hx : x % minuteMs = 0) (hlow : low + dayMs ≤ x) (hhigh : x + attempts * minuteMs + dayMs ≤ high)
include h hagree hx hlow hhigh

theorem resolveLocal_start (hres : resolveLocal zone true attempts x = .ok r) :
    r ≤ t ↔ Started regular x t := by
  induction attempts generalizing x with
  | zero => cases hres
  | succ attempts ih =>
    obtain ⟨hsame, hlow', hhigh'⟩ := next_minute hagree hlow hhigh
    unfold resolveLocal at hres
    split at hres
    · rename_i hresult
      cases hres
      obtain ⟨hr, honly⟩ := eq_of_fromLocal_single hresult
      refine (h.started_iff_first_le ((hsame r).1 hr) fun u hu => ?_).symm
      exact (honly u ((hsame u).2 hu)).ge
    · rename_i a b hresult
      cases hres
      obtain ⟨ha, hb, honly⟩ := h.eq_of_fromLocal_ambiguous hsame hresult
      refine (h.started_iff_first_le ?_ ?_).symm <;> grind
    · rename_i hresult
      split_ifs at hres
      rw [ih (by unfold minuteMs secondMs at *; omega) hlow' hhigh' hres]
      exact h.started_unshown hx fun w hw => ne_of_fromLocal_none hresult ((hsame w).2 hw)

theorem resolveLocal_stop (hres : resolveLocal zone false attempts x = .ok r) :
    t < r ↔ Unfinished regular x t := by
  induction attempts generalizing x with
  | zero => cases hres
  | succ attempts ih =>
    obtain ⟨hsame, hlow', hhigh'⟩ := next_minute hagree hlow hhigh
    unfold resolveLocal at hres
    split at hres
    · rename_i hresult
      cases hres
      obtain ⟨hr, honly⟩ := eq_of_fromLocal_single hresult
      refine (h.unfinished_iff_lt_last ((hsame r).1 hr) fun u hu => ?_).symm
      exact (honly u ((hsame u).2 hu)).le
    · rename_i a b hresult
      cases hres
      obtain ⟨ha, hb, honly⟩ := h.eq_of_fromLocal_ambiguous hsame hresult
      refine (h.unfinished_iff_lt_last ?_ ?_).symm <;> grind
    · rename_i hresult
      split_ifs at hres
      rw [ih (by unfold minuteMs secondMs at *; omega) hlow' hhigh' hres]
      exact h.unfinished_unshown hx fun w hw => ne_of_fromLocal_none hresult ((hsame w).2 hw)

end Resolve

/-- The window is running, according to the intervals. -/
def Runs (zone : TimeZone) (t : ℤ) (o : ℤ × ℤ) : Prop :=
  Started zone o.1 t ∧ Unfinished zone o.2 t

variable {chrono : Chrono} {fromMs untilMs : ℤ}

/-- The windows of a date are looked up within the stretch in which the zones agree. -/
def DateWithin (low high date : ℤ) : Prop :=
  low + dayMs ≤ date * dayMs ∧ date * dayMs + 3 * dayMs ≤ high

section Expand

variable (h : Regular regular) (hagree : Agree zone regular low high) (hfrom : fromMs ≤ t)
  (huntil : t < untilMs)
include h hagree hfrom huntil

theorem expandWindow_contains (htm : TimesOk window) (hdate : DateWithin low high date)
    {res : Option PolicyScheduleInterval}
    (hx : expandWindow chrono zone fromMs untilMs date window = .ok res) :
    (∃ interval ∈ res, Contains interval t) ↔
      ∃ o, opening date window = some o ∧ Runs regular t o := by
  obtain ⟨start, stop, hstart, hstop, hlt⟩ := htm
  rw [opening_of_times date hstart hstop]
  unfold expandWindow at hx
  rw [chrono.parse_strict _ _ hstart, chrono.parse_strict _ _ hstop] at hx
  obtain ⟨_, hv, hx⟩ := bind_eq_ok.1 hx
  cases hv
  obtain ⟨_, hv, hx⟩ := bind_eq_ok.1 hx
  cases hv
  rw [if_neg (not_le.2 hlt)] at hx
  obtain ⟨first, hfst, hx⟩ := bind_eq_ok.1 hx
  obtain ⟨last, hla, hx⟩ := bind_eq_ok.1 hx
  have hlate := (parseMinute_of_parseTime hstop).2
  obtain ⟨hlow, hhigh⟩ := hdate
  unfold resolveAttempts at hfst hla
  have hst := resolveLocal_start h hagree t (by unfold dayMs minuteMs secondMs; omega)
    (by unfold dayMs minuteMs secondMs at *; omega)
    (by unfold dayMs minuteMs secondMs at *; omega) hfst
  have hunfinished := resolveLocal_stop h hagree t (by unfold dayMs minuteMs secondMs; omega)
    (by unfold dayMs minuteMs secondMs at *; omega)
    (by unfold dayMs minuteMs secondMs at *; omega) hla
  simp only [Option.some.injEq, exists_eq_left', Runs, ← hst, ← hunfinished]
  cases hx
  split_ifs with hproper
  · simp only [Option.mem_def, Option.some.injEq, exists_eq_left', Contains]
    omega
  · grind

theorem expandWindows_contains :
    ∀ {windows : List (ℤ × PolicyScheduleWindow)} {intervals : List PolicyScheduleInterval},
      (∀ dated ∈ windows, TimesOk dated.2 ∧ DateWithin low high dated.1) →
      expandWindows chrono zone fromMs untilMs windows = .ok intervals →
        ((∃ interval ∈ intervals, Contains interval t) ↔
          ∃ dated ∈ windows, ∃ o, opening dated.1 dated.2 = some o ∧ Runs regular t o)
  | [], intervals, _, hx => by
    cases hx
    simp
  | (date, window) :: rest, intervals, htm, hx => by
    obtain ⟨htime, htm⟩ := List.forall_mem_cons.1 htm
    obtain ⟨res, hres, hx⟩ := bind_eq_ok.1 hx
    obtain ⟨others, hoth, hx⟩ := bind_eq_ok.1 hx
    cases hx
    have hhd := expandWindow_contains h hagree hfrom huntil htime.1 htime.2 hres
    have htail := expandWindows_contains htm hoth
    simp only [List.mem_append, Option.mem_toList, Option.mem_def, or_and_right, exists_or,
      List.mem_cons, exists_eq_left] at hhd htail ⊢
    rw [hhd, htail]

end Expand

/-! ### Merging -/

theorem mergeInto_contains {t : ℤ} : ∀ {rest : List PolicyScheduleInterval}
    {prev : PolicyScheduleInterval}, (prev :: rest).Pairwise (·.startMs ≤ ·.startMs) →
      ((∃ interval ∈ mergeInto prev rest, Contains interval t) ↔
        ∃ interval ∈ prev :: rest, Contains interval t)
  | [], _, _ => by rw [mergeInto]
  | interval :: rest, prev, hso => by
    obtain ⟨hfst, hso⟩ := List.pairwise_cons.1 hso
    obtain ⟨hle, hfst⟩ := List.forall_mem_cons.1 hfst
    obtain ⟨hnx, hr⟩ := List.pairwise_cons.1 hso
    unfold mergeInto
    split_ifs with htouch
    · rw [@mergeInto_contains t rest { prev with endMs := max prev.endMs interval.endMs }
        (List.pairwise_cons.2 ⟨hfst, hr⟩)]
      have hunion : Contains { prev with endMs := max prev.endMs interval.endMs } t ↔
          Contains prev t ∨ Contains interval t := by
        unfold Contains
        dsimp only
        omega
      grind
    · simp only [List.mem_cons, or_and_right, exists_or, exists_eq_left]
      rw [mergeInto_contains hso]
      grind

variable {intervals : List PolicyScheduleInterval}

theorem mergeIntervals_contains :
    (∃ interval ∈ mergeIntervals (sortIntervals intervals), Contains interval t) ↔
      ∃ interval ∈ intervals, Contains interval t := by
  have hso := sorted_sortIntervals intervals
  have hmem : ∀ interval, interval ∈ sortIntervals intervals ↔ interval ∈ intervals := fun _ =>
    (List.perm_insertionSort _ _).mem_iff
  simp only [← hmem]
  cases hcase : sortIntervals intervals with
  | nil => rw [mergeIntervals]
  | cons first rest =>
    rw [hcase] at hso
    exact mergeInto_contains hso

theorem mem_datedWindows {first last : ℤ} : (date, window) ∈ datedWindows schedule first last ↔
      first ≤ date ∧ date ≤ last ∧ window ∈ windowsOn schedule (weekday date) := by
  unfold datedWindows
  constructor
  · grind
  · rintro ⟨hfst, hla, hwin⟩
    have hdate : first + ((date - first).toNat : ℤ) = date := by omega
    grind

theorem expandSchedule_contains {spec : PolicySpecV1} (h : Regular regular)
    (hagree : AgreeAround zone regular fromMs untilMs)
    (hsc : spec.schedule = some schedule) (hzone : chrono.zones schedule.timezone = some zone)
    (htm : ∀ window ∈ schedule.windows, TimesOk window) (hfrom : fromMs ≤ t)
    (huntil : t < untilMs) (hx : expandSchedule chrono spec fromMs untilMs = .ok intervals) :
    hasDate t = true ∧ ((∃ interval ∈ intervals, Contains interval t) ↔
      SomeOpening zone schedule fromMs untilMs (Runs regular t)) := by
  unfold expandSchedule at hx
  rw [hsc] at hx
  dsimp only at hx
  rw [hzone] at hx
  split_ifs at hx with hfst hla
  constructor
  · simp only [hasDate, Bool.not_eq_true', Bool.and_eq_false_iff, decide_eq_false_iff_not,
      Bool.and_eq_true, decide_eq_true_eq] at hfst hla ⊢
    omega
  · obtain ⟨expanded, hexpanded, hx⟩ := bind_eq_ok.1 hx
    obtain ⟨-, hmerged⟩ := seq_eq_ok.1 hx
    cases hmerged
    rw [mergeIntervals_contains, expandWindows_contains h hagree hfrom huntil ?_ hexpanded]
    · constructor
      · rintro ⟨⟨date, window⟩, hdated, o, ho, hru⟩
        obtain ⟨hlow, hhi, hwin⟩ := mem_datedWindows.1 hdated
        exact ⟨date, hlow, hhi, o, mem_openings.2 ⟨window, hwin, ho⟩, hru⟩
      · rintro ⟨date, hlow, hhi, o, ho, hru⟩
        obtain ⟨window, hwin, hop⟩ := mem_openings.1 ho
        exact ⟨(date, window), mem_datedWindows.2 ⟨hlow, hhi, hwin⟩, o, hop, hru⟩
    · rintro ⟨date, window⟩ hdated
      obtain ⟨hlow, hhi, hwin⟩ := mem_datedWindows.1 hdated
      refine ⟨htm window (List.mem_filter.1 hwin).1, ?_⟩
      have hfst := zone.offsetAt_bounded fromMs
      have hla := zone.offsetAt_bounded untilMs
      unfold DateWithin localDate toLocal dayMs minuteMs secondMs at *
      omega

/-! ### Agreement -/

theorem SomeOpening.congr {P Q : ℤ × ℤ → Prop} (h : ∀ o, P o ↔ Q o) :
    SomeOpening zone schedule fromMs untilMs P ↔ SomeOpening zone schedule fromMs untilMs Q := by
  simp [SomeOpening, h]

section Folds

variable {change : ℤ} (h : Regular zone) (hchange : TurnsBack zone change)
include h hchange

theorem SomeOpening.first (hfut : t < change) (hlow : zone.toLocal change ≤ zone.toLocal t) :
    SomeOpening zone schedule fromMs untilMs (Runs zone t) ↔
      SomeOpening zone schedule fromMs untilMs fun o =>
        o.1 ≤ zone.toLocal t ∧ zone.toLocal change ≤ o.2 :=
  SomeOpening.congr fun _ => and_congr (h.started_first hchange hfut hlow)
    (h.unfinished_first hchange hfut hlow)

theorem SomeOpening.second (hpast : change ≤ t) (hhi : zone.toLocal t ≤ zone.toLocal (change - 1)) :
    SomeOpening zone schedule fromMs untilMs (Runs zone t) ↔
      SomeOpening zone schedule fromMs untilMs fun o =>
        o.1 ≤ zone.toLocal (change - 1) ∧ zone.toLocal t < o.2 :=
  SomeOpening.congr fun _ => and_congr (h.started_second hchange hpast hhi)
    (h.unfinished_second hchange hpast hhi)

end Folds

theorem SomeOpening.agree (hagree : AgreeAround zone regular fromMs untilMs)
    (hlt : fromMs < untilMs) {P : ℤ × ℤ → Prop} :
    SomeOpening zone schedule fromMs untilMs P ↔ SomeOpening regular schedule fromMs untilMs P := by
  have hday : 0 < dayMs := by decide
  unfold SomeOpening localDate
  rw [hagree fromMs (by omega) (by omega), hagree untilMs (by omega) (by omega)]

/-- Only clocks that are put back around the range matter. -/
theorem FoldsFit.agree (hagree : AgreeAround zone regular fromMs untilMs)
    (h : FoldsFit zone schedule fromMs untilMs) : FoldsFit regular schedule fromMs untilMs := by
  have hnear : ∀ change x utc, regular.toLocal change ≤ x → x ≤ regular.toLocal (change - 1) →
      (utc = change - 1 - (regular.toLocal (change - 1) - x) ∨
        utc = change + (x - regular.toLocal change)) → fromMs ≤ utc → utc < untilMs →
      regular.toLocal change = zone.toLocal change ∧
        regular.toLocal (change - 1) = zone.toLocal (change - 1) := by
    intro change x utc hlow hhigh hutc hfrom huntil
    have hc := regular.offsetAt_bounded change
    have hp := regular.offsetAt_bounded (change - 1)
    have hclose : utc - 2 * dayMs ≤ change ∧ change ≤ utc + 2 * dayMs := by
      unfold toLocal dayMs minuteMs secondMs at *
      omega
    have hday : 1 < dayMs := by decide
    exact ⟨(hagree _ (by omega) (by omega)).symm, (hagree _ (by omega) (by omega)).symm⟩
  constructor
  · intro change x hback hlow hhigh hfrom huntil
    obtain ⟨hchange, hpred⟩ := hnear change x _ hlow hhigh (.inl rfl) hfrom huntil
    rw [TurnsBack, hchange, hpred] at hback
    rw [hpred] at hhigh hfrom huntil
    rw [hchange] at hlow ⊢
    rw [← SomeOpening.agree hagree (by omega)]
    exact h.first change x hback hlow hhigh hfrom huntil
  · intro change x hback hlow hhigh hfrom huntil
    obtain ⟨hchange, hpred⟩ := hnear change x _ hlow hhigh (.inr rfl) hfrom huntil
    rw [TurnsBack, hchange, hpred] at hback
    rw [hchange] at hlow hfrom huntil
    rw [hpred] at hhigh ⊢
    rw [← SomeOpening.agree hagree (by omega)]
    exact h.second change x hback hlow hhigh hfrom huntil

/-- Away from clocks that are put back both readings agree. -/
theorem plain_agrees (htm : ∀ window ∈ schedule.windows, TimesOk window)
    (hfrom : fromMs ≤ t) (huntil : t < untilMs) (hpast : ∀ u < t, zone.toLocal u < zone.toLocal t)
    (hfut : ∀ v > t, zone.toLocal t < zone.toLocal v) :
    InWindows schedule (zone.toLocal t) ↔
      SomeOpening zone schedule fromMs untilMs (Runs zone t) := by
  have hru : ∀ o : ℤ × ℤ, Runs zone t o ↔ o.1 ≤ zone.toLocal t ∧ zone.toLocal t < o.2 := fun o =>
    and_congr (started_plain hpast) (unfinished_plain hfut)
  have hlow : zone.localDate fromMs ≤ zone.toLocal t / dayMs := by
    rcases eq_or_lt_of_le hfrom with rfl | hlt
    · exact le_refl _
    · exact Int.ediv_le_ediv (by decide) (hpast fromMs hlt).le
  have hhi : zone.toLocal t / dayMs ≤ zone.localDate untilMs :=
    Int.ediv_le_ediv (by decide) (hfut untilMs huntil).le
  constructor
  · rintro ⟨o, ho, hbounds⟩
    exact ⟨_, hlow, hhi, o, ho, (hru o).2 hbounds⟩
  · rintro ⟨date, -, -, o, ho, hbounds⟩
    obtain ⟨hst, hstop⟩ := (hru o).1 hbounds
    exact ⟨o, (date_of_opening htm ho hst hstop).symm ▸ ho, hst, hstop⟩

/-- **Both sides read a schedule the same way** if and only if no clock that is put back gets in the way of
its windows. The zone is to be regular from four days before the range to four days after it. -/
theorem schedules_agree_iff (chrono : Chrono) (submitted : PolicySchedule)
    (haccepted : (validateSchedule chrono.zones submitted).2 = []) (zone : TimeZone)
    (hzone : chrono.zones submitted.timezone = some zone) (policy : PolicySnapshotEntry)
    (hschedule : policy.spec.schedule = some (validateSchedule chrono.zones submitted).1)
    (generatedAtMs validUntilMs : ℤ)
    (hregular : RegularBetween zone (generatedAtMs - 4 * dayMs) (validUntilMs + 4 * dayMs))
    (intervals : List PolicyScheduleInterval)
    (hexpand : expandSchedule chrono policy.spec generatedAtMs validUntilMs = .ok intervals) :
    (∀ t, generatedAtMs ≤ t → t < validUntilMs →
      (scheduleActive chrono.zones policy t = true ↔
        ∃ interval ∈ intervals, Contains interval t)) ↔
      FoldsFit zone (validateSchedule chrono.zones submitted).1 generatedAtMs validUntilMs := by
  set schedule := (validateSchedule chrono.zones submitted).1 with hnormal
  have htimes : ∀ window ∈ schedule.windows, TimesOk window := timesOk_of_accepted haccepted
  have hzone' : chrono.zones schedule.timezone = some zone := hzone
  obtain ⟨regular, hregular, hagree⟩ := hregular
  have hreadings : ∀ t, generatedAtMs ≤ t → t < validUntilMs →
      ((scheduleActive chrono.zones policy t = true ↔
          ∃ interval ∈ intervals, Contains interval t) ↔
        (InWindows schedule (regular.toLocal t) ↔
          SomeOpening regular schedule generatedAtMs validUntilMs (Runs regular t))) := by
    intro t hfrom huntil
    obtain ⟨hdate, hcontains⟩ := expandSchedule_contains hregular hagree hschedule hzone' htimes
      hfrom huntil hexpand
    have hday : 0 < dayMs := by decide
    rw [hcontains, scheduleActive_iff hschedule hzone' htimes hdate,
      hagree t (by omega) (by omega), SomeOpening.agree hagree (by omega)]
  constructor
  · intro hagrees
    refine FoldsFit.agree (fun utc hlow hhigh => (hagree utc hlow hhigh).symm) ⟨?_, ?_⟩
    · intro change x hchange hlow hhigh hfrom huntil
      have hshown := (hregular.toLocal_first hchange hlow hhigh).1
      have heq := (hreadings _ hfrom huntil).1 (hagrees _ hfrom huntil)
      rw [SomeOpening.first hregular hchange (by omega) (by omega), hshown] at heq
      exact heq
    · intro change x hchange hlow hhigh hfrom huntil
      have hshown := hregular.toLocal_second hchange hlow hhigh
      have heq := (hreadings _ hfrom huntil).1 (hagrees _ hfrom huntil)
      rw [SomeOpening.second hregular hchange (by omega) (by omega), hshown] at heq
      exact heq
  · intro hfit t hfrom huntil
    replace hfit := hfit.agree hagree
    rw [hreadings t hfrom huntil]
    rcases hregular.passes t with ⟨change, hchange, hfuture, hlow⟩ | ⟨change, hchange, hpast, hhigh⟩ |
      ⟨hpast, hfuture⟩
    · have heq := hregular.eq_first hchange hfuture hlow
      rw [SomeOpening.first hregular hchange hfuture hlow]
      exact hfit.first change _ hchange hlow (hregular.toLocal_le_of_lt hchange hfuture)
        (by omega) (by omega)
    · have heq := hregular.eq_second hchange hpast hhigh
      rw [SomeOpening.second hregular hchange hpast hhigh]
      exact hfit.second change _ hchange (hregular.le_toLocal_of_le hchange hpast) hhigh (by omega)
        (by omega)
    · exact plain_agrees htimes hfrom huntil hpast hfuture

/-! ### A sample zone -/

/-- Central European Time in 2024: the clock is put forward on the last Sunday of March, and back on that
of October. -/
def centralEurope : TimeZone where
  initial := 3600
  transitions := [(1711846800000, 7200), (1729990800000, 3600)]
  ordered := by decide
  bounded := by decide

/-- Berlin had its local mean time until 1893. -/
def berlin : TimeZone where
  initial := 3208
  transitions := [(-2422054408000, 3600), (1711846800000, 7200), (1729990800000, 3600)]
  ordered := by decide
  bounded := by decide

def berlinChrono : Chrono :=
  .strict fun name => if name = "Europe/Berlin" then some berlin else none

theorem zones_berlin : berlinChrono.zones "Europe/Berlin" = some berlin := by
  simp [berlinChrono, Chrono.strict]

theorem offsetAt_centralEurope (utc : ℤ) :
    centralEurope.offsetAt utc =
      if 1729990800000 ≤ utc then 3600 else if 1711846800000 ≤ utc then 7200 else 3600 := rfl

theorem offsetAt_berlin (utc : ℤ) : berlin.offsetAt utc =
    if -2422054408000 ≤ utc then centralEurope.offsetAt utc else 3208 := by
  rw [offsetAt_centralEurope]
  simp only [berlin, offsetAt, List.foldl_cons, List.foldl_nil]
  split_ifs <;> omega

theorem regular_centralEurope : Regular centralEurope where
  wholeMinutes utc := by
    rw [offsetAt_centralEurope]
    split_ifs <;> rfl
  onTheMinute utc h := by grind [offsetAt_centralEurope, IsChange, minuteMs, secondMs]
  apart earlier later hearlier hlater hlt := by
    have hch : ∀ utc, IsChange centralEurope utc → utc = 1711846800000 ∨ utc = 1729990800000 := by
      grind [offsetAt_centralEurope, IsChange]
    grind [dayMs, minuteMs, secondMs]

theorem regularBetween_berlin {low high : ℤ} (h : -2422054408000 ≤ low) :
    RegularBetween berlin low high := by
  refine ⟨centralEurope, regular_centralEurope, fun utc hlow _ => ?_⟩
  rw [toLocal, offsetAt_berlin, if_pos (h.trans hlow), toLocal]

theorem turnsBack_berlin {utc : ℤ} (h : TurnsBack berlin utc) : utc = 1729990800000 := by
  grind [offsetAt_berlin, offsetAt_centralEurope, TurnsBack, toLocal, secondMs]

/-- A policy for Sunday nights. -/
def sundays (start stop : String) : PolicySchedule := ⟨"Europe/Berlin", [⟨[.sun], start, stop⟩]⟩

def sundayPolicy (start stop : String) : PolicySnapshotEntry :=
  ⟨"policy-1",
    { plainSpec with
      gatewayId := "gateway-1"
      name := "nights"
      selectors := ⟨["02:00:00:00:00:01"], [], [], 85 / 100⟩
      schedule := some (validateSchedule berlinChrono.zones (sundays start stop)).1 }⟩

/-- The fourth of October. -/
def octoberMs : ℤ := 1728000000000

theorem eq_ok_of_toOption {ε α : Type} {x : Except ε α} {p : α → Bool}
    (h : x.toOption.any p = true) : ∃ a, x = .ok a ∧ p a = true := by
  cases x with
  | error e => cases h
  | ok a => exact ⟨a, rfl, h⟩

theorem foldsFit_sundays :
    FoldsFit berlin (validateSchedule berlinChrono.zones (sundays "01:00" "04:00")).1 octoberMs
      (octoberMs + scheduleHorizonMs) := by
  have hop : openings (validateSchedule berlinChrono.zones (sundays "01:00" "04:00")).1 20023 =
      [(1729990800000, 1730001600000)] := by decide +kernel
  have hlocal : berlin.toLocal 1729990800000 = 1729994400000 := by decide
  have hlocal' : berlin.toLocal (1729990800000 - 1) = 1729997999999 := by decide
  have hin : ∀ x : ℤ, 1729994400000 ≤ x → x ≤ 1729997999999 →
      InWindows (validateSchedule berlinChrono.zones (sundays "01:00" "04:00")).1 x := by
    intro x hlow hhi
    have hdate : x / dayMs = 20023 := by
      unfold dayMs minuteMs secondMs
      omega
    refine ⟨(1729990800000, 1730001600000), ?_, by dsimp only; omega, by dsimp only; omega⟩
    rw [hdate]
    exact List.mem_singleton_self _
  have hs : ∀ P : ℤ × ℤ → Prop, P (1729990800000, 1730001600000) →
      SomeOpening berlin (validateSchedule berlinChrono.zones (sundays "01:00" "04:00")).1 octoberMs
        (octoberMs + scheduleHorizonMs) P := fun P hP =>
    ⟨20023, by decide, by decide, _, hop ▸ List.mem_singleton_self _, hP⟩
  constructor
  · intro change x hch hlow hhi hfrom huntil
    rw [turnsBack_berlin hch] at hlow
    rw [turnsBack_berlin hch] at hhi
    refine iff_of_true (hin x hlow hhi) (hs _ ⟨by dsimp only; omega, ?_⟩)
    rw [turnsBack_berlin hch]
    decide
  · intro change x hch hlow hhi hfrom huntil
    rw [turnsBack_berlin hch] at hlow
    rw [turnsBack_berlin hch] at hhi
    refine iff_of_true (hin x hlow hhi) (hs _ ⟨?_, by dsimp only; omega⟩)
    rw [turnsBack_berlin hch]
    decide

/-- A window around the hour that is repeated means the same on both sides. -/
theorem sundays_agree :
    ∃ intervals, expandSchedule berlinChrono (sundayPolicy "01:00" "04:00").spec octoberMs
        (octoberMs + scheduleHorizonMs) = .ok intervals ∧ intervals.length = 4 ∧
      ∀ t, octoberMs ≤ t → t < octoberMs + scheduleHorizonMs →
        (scheduleActive berlinChrono.zones (sundayPolicy "01:00" "04:00") t = true ↔
          ∃ interval ∈ intervals, Contains interval t) := by
  have hcheck : (expandSchedule berlinChrono (sundayPolicy "01:00" "04:00").spec octoberMs
      (octoberMs + scheduleHorizonMs)).toOption.any (·.length == 4) = true := by decide +kernel
  obtain ⟨intervals, hexpand, hlength⟩ := eq_ok_of_toOption hcheck
  refine ⟨intervals, hexpand, beq_iff_eq.1 hlength, ?_⟩
  exact (schedules_agree_iff berlinChrono (sundays "01:00" "04:00") (by decide +kernel) berlin
    zones_berlin (sundayPolicy "01:00" "04:00") rfl octoberMs _ (regularBetween_berlin (by decide))
    intervals hexpand).2 foldsFit_sundays

/-- A quarter past two, after the clock was put back: the window from half past two is not open, and the
interval has begun three quarters of an hour before. -/
theorem fold_disagrees :
    (validateSchedule berlinChrono.zones (sundays "02:30" "04:00")).2 = [] ∧
      ∃ intervals, expandSchedule berlinChrono (sundayPolicy "02:30" "04:00").spec octoberMs
          (octoberMs + scheduleHorizonMs) = .ok intervals ∧
        scheduleActive berlinChrono.zones (sundayPolicy "02:30" "04:00") 1729991700000 = false ∧
        ∃ interval ∈ intervals, Contains interval 1729991700000 := by
  have hcheck : (expandSchedule berlinChrono (sundayPolicy "02:30" "04:00").spec octoberMs
      (octoberMs + scheduleHorizonMs)).toOption.any (fun intervals =>
        intervals.contains ⟨1729989000000, 1729998000000⟩) = true := by decide +kernel
  obtain ⟨intervals, hexpand, hmem⟩ := eq_ok_of_toOption hcheck
  exact ⟨by decide +kernel, intervals, hexpand, by decide +kernel,
    ⟨1729989000000, 1729998000000⟩, List.contains_iff_mem.1 hmem, by unfold Contains; decide⟩

end Netqmon.Collector.Policy.Schedules
