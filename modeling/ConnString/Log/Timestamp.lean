import ConnString.Text.Quoted

/-!
# Timestamps

A moment is shown as its date and time of day in the local time of the process, which is assumed to
be Coordinated Universal Time: no other zone, and no change of its offset, is taken into account.
The date is found from the number of days since 1970 in the calendar of eras of 400 years, whose
years start in March, so that a leap day is the last day of its year. A year has a written form only
if it fits in a signed word of 32 bits, both as it is and counted from 1900
(`timestamp?_eq_none_iff`).
-/

namespace ConnString.Log

open Text

/-- A year, a month and a day of the month. -/
structure Date where
  year : Int
  month : Nat
  day : Nat
deriving DecidableEq, Repr

/-- The days in an era of 400 years. -/
def eraDays : Nat := 146097

/-- The year of an era, counted from March, that a day of the era lies in. -/
def yearOfEra (day : Nat) : Nat :=
  (day - day / 1460 + day / 36524 - day / (eraDays - 1)) / 365

/-- The date that is some days after the first of January 1970. -/
def dateOfDays (days : Int) : Date :=
  -- The first of March of the year 0 lies 719468 days before.
  let shifted := days + 719468
  let dayOfEra := (shifted % eraDays).toNat
  let year := yearOfEra dayOfEra
  let dayOfYear := dayOfEra - (365 * year + year / 4 - year / 100)
  let marchMonth := (5 * dayOfYear + 2) / 153
  let month := if marchMonth < 10 then marchMonth + 3 else marchMonth - 9
  { year := shifted / eraDays * 400 + year + if month ≤ 2 then 1 else 0
    month := month
    day := dayOfYear - (153 * marchMonth + 2) / 5 + 1 }

/-- An integer in a field; a minus sign takes one place of the width. -/
def signedField (width : Nat) : Int → String
  | .ofNat number => decimalField width number
  | .negSucc before => "-" ++ decimalField (width - 1) (before + 1)

/-- Whether a year has a written form. -/
def YearShown (year : Int) : Prop := -2147483648 ≤ year - 1900 ∧ year < 2147483648

instance (year : Int) : Decidable (YearShown year) := inferInstanceAs (Decidable (_ ∧ _))

/-- The date of some seconds after the start of 1970. -/
def dateOfSeconds (seconds : Int) : Date := dateOfDays (seconds / 86400)

/-- The date and time of day of some seconds after the start of 1970. -/
def timestamp (seconds : Int) : String :=
  let date := dateOfSeconds seconds
  let time := (seconds % 86400).toNat
  toString date.year ++ "-" ++ decimalField 2 date.month ++ "-" ++ decimalField 2 date.day ++ " " ++
    decimalField 2 (time / 3600) ++ ":" ++ decimalField 2 (time / 60 % 60) ++ ":" ++
    decimalField 2 (time % 60)

/-- The date and time of day of some seconds after the start of 1970, if the year is shown. -/
def timestamp? (seconds : Int) : Option String :=
  if YearShown (dateOfSeconds seconds).year then some (timestamp seconds) else none

/-- A moment is shown exactly if its year is. -/
theorem timestamp?_eq_none_iff {seconds : Int} :
    timestamp? seconds = none ↔ ¬YearShown (dateOfSeconds seconds).year := by
  simp [timestamp?]

end ConnString.Log
