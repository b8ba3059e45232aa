/-
  TimedTrials/Clock/Calendar.lean
  ===============================
  **Instants as dates**: the proleptic Gregorian calendar in UTC, written in the ISO form
  with milliseconds, such as `2024-05-01T12:00:00.123Z`.

  An instant is a number of nanoseconds since the start of 1970, which may be negative. Years
  from 0 to 9999 have four digits; any other year has a sign and at least four digits.
-/
import TimedTrials.Number.Integer

namespace TimedTrials.Calendar

structure Date where
  year : Int
  month : Nat
  day : Nat
deriving DecidableEq, Repr

/-- The date of a day counted from the start of 1970. Years are taken to begin in March, so
    that the day that leap years add is the last one of its year; the days are then grouped
    into cycles of 400 years. -/
def Date.ofDays (days : Int) : Date :=
  let shifted := days + 719468
  let cycle := shifted.fdiv 146097
  let ofCycle := (shifted - cycle * 146097).toNat
  let yearOfCycle :=
    (ofCycle - ofCycle / 1460 + ofCycle / 36524 - ofCycle / 146096) / 365
  let dayOfYear := ofCycle - (365 * yearOfCycle + yearOfCycle / 4 - yearOfCycle / 100)
  let month := (5 * dayOfYear + 2) / 153
  let day := dayOfYear - (153 * month + 2) / 5 + 1
  let calendarMonth := if month < 10 then month + 3 else month - 9
  let year := (yearOfCycle : Int) + cycle * 400 + (if calendarMonth ≤ 2 then 1 else 0)
  ⟨year, calendarMonth, day⟩

def yearChars (year : Int) : List Char :=
  if 0 ≤ year ∧ year ≤ 9999 then Number.padded 4 year.toNat
  else (if year < 0 then '-' else '+') :: Number.padded 4 year.natAbs

def perMilli : Nat := 1000000

def milliPerDay : Nat := 86400000

/-- The milliseconds of an instant, rounded down. -/
def millisOf (instant : Int) : Int := instant.fdiv perMilli

def iso (instant : Int) : String :=
  let ms := millisOf instant
  let days := ms.fdiv milliPerDay
  let rest := (ms - days * milliPerDay).toNat
  let date := Date.ofDays days
  let two := Number.padded 2
  String.ofList (yearChars date.year ++ '-' :: two date.month ++ '-' :: two date.day
    ++ 'T' :: two (rest / 3600000) ++ ':' :: two (rest / 60000 % 60)
    ++ ':' :: two (rest / 1000 % 60) ++ '.' :: Number.padded 3 (rest % 1000) ++ ['Z'])

end TimedTrials.Calendar
