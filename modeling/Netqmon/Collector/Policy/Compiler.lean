import Netqmon.Collector.Policy.Validation
import Netqmon.Protocol.Snapshot

/-! # Compiling snapshots

The collector sends the schedules of its policies as intervals of the next thirty days
(`expandSchedule`), so that the agent needs no time zones. -/

namespace Netqmon.Collector.Policy.Compiler

open Lib.Checks Lib.CivilTime Lib.CivilTime.TimeZone Protocol.Policy Protocol.Snapshot
open Protocol.Validate Validation

def scheduleHorizonMs : ℤ := 30 * 24 * 60 * 60 * 1000
def i64Max : ℤ := 2 ^ 63 - 1

/-- What the date library knows: the zones, and how it reads times. -/
structure Chrono where
  zones : Zones
  parseTimeOfDay : String → Except String ℕ
  parse_strict : ∀ value minute, parseTime value = some minute →
    parseTimeOfDay value = .ok minute

/-- A date library that reads times in the form `HH:mm` only. -/
def Chrono.strict (zones : Zones) : Chrono where
  zones
  parseTimeOfDay value :=
    match parseTime value with
    | some minute => .ok minute
    | none => .error "input contains invalid characters"
  parse_strict value minute h := by simp only [h]

/-! ### Windows -/

/-- The instant of a local time. Times that the clock skips are put off minute by minute. -/
def resolveLocal (zone : TimeZone) (isStart : Bool) : ℕ → ℤ → Except String ℤ
  | 0, _ => .error "schedule local time is not valid within three hours"
  | attempts + 1, candidate =>
    match zone.fromLocal candidate with
    | .single utc => .ok utc
    | .ambiguous first second => .ok (if isStart then min first second else max first second)
    | .none =>
      if hasDate (candidate + minuteMs) then
        resolveLocal zone isStart attempts (candidate + minuteMs)
      else .error "schedule local time overflow"

def resolveAttempts : ℕ := 181

variable (chrono : Chrono)

/-- A window on a date, as far as it lies between two instants. -/
def expandWindow (zone : TimeZone) (fromMs untilMs : ℤ) (date : ℤ)
    (window : PolicyScheduleWindow) : Except String (Option PolicyScheduleInterval) := do
  let start ← (chrono.parseTimeOfDay window.start).mapError ("invalid schedule start: " ++ ·)
  let stop ← (chrono.parseTimeOfDay window.stop).mapError ("invalid schedule end: " ++ ·)
  if stop ≤ start then throw "schedule windows must end after they start"
  let start ← resolveLocal zone true resolveAttempts (date * dayMs + start * minuteMs)
  let stop ← resolveLocal zone false resolveAttempts (date * dayMs + stop * minuteMs)
  let startMs := max start fromMs
  let endMs := min stop untilMs
  return if start < stop ∧ startMs < endMs then some ⟨startMs, endMs⟩ else none

def expandWindows (chrono : Chrono) (zone : TimeZone) (fromMs untilMs : ℤ) :
    List (ℤ × PolicyScheduleWindow) → Except String (List PolicyScheduleInterval)
  | [] => .ok []
  | (date, window) :: rest => do
    let interval ← expandWindow chrono zone fromMs untilMs date window
    let intervals ← expandWindows chrono zone fromMs untilMs rest
    return interval.toList ++ intervals

/-- The windows of all days from one date to another. -/
def datedWindows (schedule : PolicySchedule) (first last : ℤ) : List (ℤ × PolicyScheduleWindow) :=
  (List.range (last - first + 1).toNat).flatMap fun offset : ℕ =>
    (windowsOn schedule (weekday (first + offset))).map (first + offset, ·)

/-! ### Intervals -/

/-- Extend the interval as long as the next one touches it. -/
def mergeInto : PolicyScheduleInterval → List PolicyScheduleInterval → List PolicyScheduleInterval
  | previous, [] => [previous]
  | previous, interval :: rest =>
    if interval.startMs ≤ previous.endMs then
      mergeInto { previous with endMs := max previous.endMs interval.endMs } rest
    else previous :: mergeInto interval rest

def mergeIntervals : List PolicyScheduleInterval → List PolicyScheduleInterval
  | [] => []
  | first :: rest => mergeInto first rest

def expandSchedule (spec : PolicySpecV1) (fromMs untilMs : ℤ) :
    Except String (List PolicyScheduleInterval) :=
  match spec.schedule with
  | none => .error "scheduled policy is missing its schedule"
  | some schedule =>
    match chrono.zones schedule.timezone with
    | none => .error ("unknown IANA timezone " ++ schedule.timezone)
    | some zone =>
      if !hasDate fromMs then .error "invalid schedule start timestamp"
      else if !hasDate untilMs then .error "invalid schedule end timestamp"
      else do
        let first := zone.localDate fromMs
        let last := zone.localDate untilMs
        let intervals ← expandWindows chrono zone fromMs untilMs (datedWindows schedule first last)
        -- The loop goes on to the day after the last one.
        ensure (last < first || hasDate ((last + 1) * dayMs)) "schedule date overflow"
        return mergeIntervals (sortIntervals intervals)

/-- The intervals of all policies with a schedule. -/
def expandSchedules (chrono : Chrono) (fromMs untilMs : ℤ) :
    List PolicySnapshotEntry → Except String (List PolicyScheduleIntervals)
  | [] => .ok []
  | policy :: policies =>
    if policy.spec.schedule.isSome then do
      let intervals ← expandSchedule chrono policy.spec fromMs untilMs
      let rest ← expandSchedules chrono fromMs untilMs policies
      return ⟨policy.id, intervals⟩ :: rest
    else expandSchedules chrono fromMs untilMs policies

/-! ### Snapshots -/

/-- The libraries that a snapshot is compiled with. -/
structure Toolkit where
  chrono : Chrono
  codec : Codec

def compileSnapshot (codec : Codec) (gatewayId controllerEpoch : String)
    (bundleGeneration : ℕ) (generatedAtMs : ℤ) (configRevision : ℕ)
    (policies : List PolicySnapshotEntry) : Except String PolicySnapshot :=
  if i64Max < generatedAtMs + scheduleHorizonMs then .error "schedule horizon timestamp overflow"
  else do
    let validUntilMs := generatedAtMs + scheduleHorizonMs
    let intervals ← expandSchedules chrono generatedAtMs validUntilMs policies
    snapshot codec gatewayId controllerEpoch configRevision bundleGeneration generatedAtMs
      validUntilMs policies intervals

/-- The frame that `compileSnapshot` checks. -/
def buildFrame (codec : Codec) (gatewayId controllerEpoch : String)
    (bundleGeneration : ℕ) (generatedAtMs : ℤ) (configRevision : ℕ)
    (policies : List PolicySnapshotEntry) : Except String PolicySnapshot :=
  if i64Max < generatedAtMs + scheduleHorizonMs then .error "schedule horizon timestamp overflow"
  else do
    let validUntilMs := generatedAtMs + scheduleHorizonMs
    let intervals ← expandSchedules chrono generatedAtMs validUntilMs policies
    return arrange codec gatewayId controllerEpoch configRevision bundleGeneration generatedAtMs
      validUntilMs policies intervals

variable {policies : List PolicySnapshotEntry} {generatedAtMs : ℤ}

theorem compileSnapshot_eq (codec : Codec) (gw epoch : String)
    (bundleGeneration : ℕ) (configRevision : ℕ) :
    compileSnapshot chrono codec gw epoch bundleGeneration generatedAtMs
        configRevision policies =
      (do
        let frame ← buildFrame chrono codec gw epoch bundleGeneration
          generatedAtMs configRevision policies
        checkFrame codec frame
        return frame) := by
  unfold compileSnapshot buildFrame snapshot
  split_ifs
  · rfl
  · cases hexpanded : expandSchedules chrono generatedAtMs (generatedAtMs + scheduleHorizonMs)
      policies with
    | error message => simp only [hexpanded]; rfl
    | ok intervals => simp only [hexpanded]; rfl

theorem compileSnapshot_eq_ok {chrono : Chrono} {codec : Codec} {gw epoch : String}
    {gen rev : ℕ} {s : PolicySnapshot}
    (h : compileSnapshot chrono codec gw epoch gen generatedAtMs rev policies = .ok s) :
    checkFrame codec s = .ok () ∧ ∃ intervals, expandSchedules chrono generatedAtMs
        (generatedAtMs + scheduleHorizonMs) policies = .ok intervals ∧
      s = arrange codec gw epoch rev gen generatedAtMs
        (generatedAtMs + scheduleHorizonMs) policies intervals := by
  rw [compileSnapshot_eq] at h
  obtain ⟨f, hf, h⟩ := bind_eq_ok.1 h
  obtain ⟨hcheck, hs⟩ := seq_eq_ok.1 h
  cases hs
  unfold buildFrame at hf
  split_ifs at hf
  obtain ⟨intervals, hivs, hf⟩ := bind_eq_ok.1 hf
  cases hf
  exact ⟨hcheck, intervals, hivs, rfl⟩

/-! ### What merging does -/

/-- The instant lies in the interval. -/
def Contains (interval : PolicyScheduleInterval) (ms : ℤ) : Prop :=
  interval.startMs ≤ ms ∧ ms < interval.endMs

variable (intervals : List PolicyScheduleInterval)

/-- No instant lies in two intervals. -/
def Exclusive : Prop :=
  ∀ a ∈ intervals, ∀ b ∈ intervals, ∀ ms, Contains a ms → Contains b ms → a = b

theorem le_startMs_of_mem_mergeInto {ms : ℤ} {b : PolicyScheduleInterval} :
    ∀ {rest : List PolicyScheduleInterval} {prev : PolicyScheduleInterval},
      ms ≤ prev.startMs → (∀ interval ∈ rest, ms ≤ interval.startMs) →
        b ∈ mergeInto prev rest → ms ≤ b.startMs
  | [], _, hpr, _, hb => by
    rw [List.mem_singleton.1 hb]
    exact hpr
  | interval :: rest, prev, hpr, hr, hb => by
    obtain ⟨hiv, hr⟩ := List.forall_mem_cons.1 hr
    unfold mergeInto at hb
    split_ifs at hb
    · exact le_startMs_of_mem_mergeInto (by exact hpr) hr hb
    · rcases List.mem_cons.1 hb with rfl | hb
      · exact hpr
      · exact le_startMs_of_mem_mergeInto hiv hr hb

theorem pairwise_mergeInto : ∀ {rest : List PolicyScheduleInterval},
    rest.Pairwise (·.startMs ≤ ·.startMs) → ∀ prev : PolicyScheduleInterval,
      (mergeInto prev rest).Pairwise (·.endMs < ·.startMs)
  | [], _, _ => List.pairwise_singleton _ _
  | interval :: rest, hso, prev => by
    obtain ⟨hfst, hso⟩ := List.pairwise_cons.1 hso
    unfold mergeInto
    split_ifs with htouch
    · exact pairwise_mergeInto hso _
    · refine List.pairwise_cons.2 ⟨fun b hb => ?_, pairwise_mergeInto hso interval⟩
      have hst := le_startMs_of_mem_mergeInto (le_refl _) hfst hb
      omega

theorem sorted_sortIntervals : (sortIntervals intervals).Pairwise (·.startMs ≤ ·.startMs) := by
  have htot : Std.Total PolicyScheduleInterval.notAfter := ⟨fun a b => by
    unfold PolicyScheduleInterval.notAfter
    omega⟩
  have htrans : IsTrans PolicyScheduleInterval PolicyScheduleInterval.notAfter := ⟨fun a b c => by
    unfold PolicyScheduleInterval.notAfter
    omega⟩
  refine (List.pairwise_insertionSort _ intervals).imp fun h => ?_
  unfold PolicyScheduleInterval.notAfter at h
  omega

theorem exclusive_mergeIntervals {intervals : List PolicyScheduleInterval}
    (h : intervals.Pairwise (·.startMs ≤ ·.startMs)) : Exclusive (mergeIntervals intervals) := by
  cases intervals with
  | nil => exact fun a ha => absurd ha List.not_mem_nil
  | cons first rest =>
    have hapart := pairwise_mergeInto (List.pairwise_cons.1 h).2 first
    refine (hapart.imp
      fun hlt ms ha hb => ?_).forall_of_forall_of_flip (fun a _ _ _ _ => rfl) ?_
    · unfold Contains at ha hb
      omega
    · refine hapart.imp fun hlt ms hb ha => ?_
      unfold Contains at ha hb
      omega

end Netqmon.Collector.Policy.Compiler
