import Mathlib

/-! # Civil time

Instants are milliseconds since the first of January 1970 in universal time, and days are counted from
that day. A time zone is a piecewise constant offset from universal time. A local time belongs to no
instant if the clock was put forward over it, and to two if the clock was put back over it. -/

namespace Netqmon.Lib.CivilTime

def secondMs : ℤ := 1000
def minuteMs : ℤ := 60 * secondMs
def dayMs : ℤ := 24 * 60 * minuteMs

/-- Dates are limited to years of six digits. -/
def hasDate (ms : ℤ) : Bool := -8334601228800000 ≤ ms && ms ≤ 8210266876799999

/-- The day of the week, Monday first. The first of January 1970 was a Thursday. -/
def weekday (day : ℤ) : ℕ := ((day + 3) % 7).toNat

/-- A zone with its first offset in seconds, and the instants at which it changes. -/
structure TimeZone where
  initial : ℤ
  transitions : List (ℤ × ℤ)
  ordered : (transitions.map Prod.fst).Pairwise (· < ·)
  bounded : ∀ seconds ∈ initial :: transitions.map Prod.snd, -86400 < seconds ∧ seconds < 86400

namespace TimeZone

variable (zone : TimeZone)

def offsetAt (utc : ℤ) : ℤ :=
  zone.transitions.foldl (fun offset transition =>
    if transition.1 ≤ utc then transition.2 else offset) zone.initial

def toLocal (utc : ℤ) : ℤ := utc + zone.offsetAt utc * secondMs

def localDate (utc : ℤ) : ℤ := zone.toLocal utc / dayMs

def localMinute (utc : ℤ) : ℕ := (zone.toLocal utc % dayMs / minuteMs).toNat

inductive LocalResult
  | none
  | single (utc : ℤ)
  | ambiguous (first second : ℤ)
deriving DecidableEq

/-- The instants at which the clock shows a local time. -/
def instantsOf (localTime : ℤ) : List ℤ :=
  (((zone.initial :: zone.transitions.map Prod.snd).map fun offset =>
    localTime - offset * secondMs).filter fun utc => zone.toLocal utc = localTime).dedup

def fromLocal (localTime : ℤ) : LocalResult :=
  match zone.instantsOf localTime with
  | [] => .none
  | [utc] => .single utc
  | first :: second :: _ => .ambiguous first second

def utc : TimeZone := ⟨0, [], List.Pairwise.nil, by decide⟩

variable (utc : ℤ)

theorem offsetAt_mem : zone.offsetAt utc ∈ zone.initial :: zone.transitions.map Prod.snd := by
  unfold offsetAt
  generalize zone.initial = initial
  induction zone.transitions generalizing initial with
  | nil => exact List.mem_singleton_self initial
  | cons transition transitions ih =>
    rw [List.foldl_cons]
    have hr := List.mem_cons.1 (ih (if transition.1 ≤ utc then transition.2 else initial))
    rcases hr with heq | hmem
    · rw [heq]
      split_ifs <;> simp
    · exact List.mem_cons_of_mem _ (List.mem_cons_of_mem _ hmem)

theorem offsetAt_bounded : -86400 < zone.offsetAt utc ∧ zone.offsetAt utc < 86400 :=
  zone.bounded _ (zone.offsetAt_mem utc)

end TimeZone

/-! ### Sums over days -/

/-- The sum over `count` days from `day` on of what depends on the day of the week only. -/
def sumDays (g : ℕ → ℕ) (day : ℤ) (count : ℕ) : ℕ :=
  ((List.range count).map fun offset : ℕ => g (weekday (day + offset))).sum

end Netqmon.Lib.CivilTime
