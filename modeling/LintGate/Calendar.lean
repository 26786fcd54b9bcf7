/-
Points in time as text.

Days are counted from the start of 1970. A year is taken to begin in March, so that the
day which a leap year has more is its last one; then the lengths of the months and
years follow from divisions.
-/

set_option autoImplicit false

namespace LintGate.Calendar

/-- A day of the calendar. -/
structure Date where
  year : Nat
  month : Nat
  day : Nat
deriving DecidableEq, Repr

/-- The days from the first of March of year 0 to the start of 1970. -/
def daysBefore1970 : Nat := 719468

/-- The days of four hundred years. -/
def daysOfCycle : Nat := 146097

/-- The day that is a number of days after the start of 1970. -/
def dateOf (days : Nat) : Date :=
  let count := days + daysBefore1970
  let cycle := count / daysOfCycle
  let inCycle := count % daysOfCycle
  let year := (inCycle - inCycle / 1460 + inCycle / 36524 - inCycle / 146096) / 365
  let inYear := inCycle - (365 * year + year / 4 - year / 100)
  let month := (5 * inYear + 2) / 153
  let day := inYear - (153 * month + 2) / 5 + 1
  if month < 10 then ⟨year + 400 * cycle, month + 3, day⟩ else ⟨year + 400 * cycle + 1, month - 9, day⟩

/-- A number with zeros in front. -/
def padded (width n : Nat) : String :=
  let digits := toString n
  String.ofList (List.replicate (width - digits.length) '0') ++ digits

/-- The text of a point in time: the seconds since the start of 1970, and the millionths of a second. -/
def stamp (seconds micros : Nat) : String :=
  let date := dateOf (seconds / 86400)
  let inDay := seconds % 86400
  padded 4 date.year ++ "-" ++ padded 2 date.month ++ "-" ++ padded 2 date.day ++ " "
    ++ padded 2 (inDay / 3600) ++ ":" ++ padded 2 (inDay / 60 % 60) ++ ":" ++ padded 2 (inDay % 60)
    ++ "." ++ padded 6 micros

end LintGate.Calendar
