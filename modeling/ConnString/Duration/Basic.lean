/-!
# Durations

A duration counts whole microseconds, of either sign, within a fixed range: less than a thousand
million days. The bounds belong to the type, so every duration at hand lies between them
(`least_le`, `le_greatest`).

The canonical form is `0s` for nothing, whole microseconds below a millisecond, milliseconds below a
second, and otherwise seconds after the minutes and hours they have filled: `1m30s`, `1h0m0s`.
A fraction has no zeros at its end and takes its point with it when it is empty.
-/

namespace ConnString

/-- The least number of microseconds a duration holds. -/
def Duration.least : Int := -86399999913600000000

/-- The greatest number of microseconds a duration holds. -/
def Duration.greatest : Int := 86399999999999999999

/-- A number of microseconds within the range of durations. -/
structure Duration where
  /-- The microseconds. -/
  micros : Int
  least_le : Duration.least ≤ micros := by decide
  le_greatest : micros ≤ Duration.greatest := by decide
deriving DecidableEq

namespace Duration

/-- The empty duration. -/
def zero : Duration := ⟨0, by decide, by decide⟩

/-- One hour. -/
def hour : Duration := ⟨3600000000, by decide, by decide⟩

instance : Inhabited Duration := ⟨zero⟩

/-- The duration of some microseconds, if the range holds it. -/
def ofMicros? (micros : Int) : Option Duration :=
  if inside : least ≤ micros ∧ micros ≤ greatest then some ⟨micros, inside.1, inside.2⟩ else none

theorem ext {left right : Duration} (same : left.micros = right.micros) : left = right := by
  cases left
  cases right
  cases same
  rfl

theorem ofMicros?_micros (duration : Duration) : ofMicros? duration.micros = some duration := by
  rw [ofMicros?, dif_pos ⟨duration.least_le, duration.le_greatest⟩]

/-- Only a number of microseconds beyond the range is no duration. -/
theorem ofMicros?_eq_none_iff {micros : Int} :
    ofMicros? micros = none ↔ micros < least ∨ greatest < micros := by
  unfold ofMicros?
  split
  · next inside =>
    simp only [reduceCtorEq, false_iff]
    omega
  · next outside =>
    simp only [true_iff]
    omega

end Duration

/-- The units in which durations are written. -/
inductive TimeUnit
  | nanosecond | microsecond | millisecond | second | minute | hour
deriving DecidableEq, Repr

/-- The nanoseconds in a unit. -/
def TimeUnit.nanos : TimeUnit → Nat
  | nanosecond => 1
  | microsecond => 1000
  | millisecond => 1000000
  | second => 1000000000
  | minute => 60000000000
  | hour => 3600000000000

namespace Duration

/-! ### The canonical form -/

/-- The digits after the point of a part of `10 ^ places`, without zeros at the end. -/
def fractionDigits : (places part : Nat) → List Char
  | 0, _ => []
  | places + 1, part =>
    if part = 0 then []
    else Nat.digitChar (part / Nat.pow 10 places) ::
      fractionDigits places (part % Nat.pow 10 places)

/-- The decimal number `amount / 10 ^ places`. -/
def decimal (amount places : Nat) : List Char :=
  let part := amount % Nat.pow 10 places
  Nat.toDigits 10 (amount / Nat.pow 10 places) ++
    if part = 0 then [] else '.' :: fractionDigits places part

/-- Some microseconds in canonical form. -/
def writeMicros (micros : Nat) : List Char :=
  if micros = 0 then ['0', 's']
  else if micros < 1000 then Nat.toDigits 10 micros ++ ['\u00B5', 's']
  else if micros < 1000000 then decimal micros 3 ++ ['m', 's']
  else
    let minutes := micros / 60000000
    let seconds := decimal (micros % 60000000) 6 ++ ['s']
    if minutes = 0 then seconds
    else if minutes < 60 then Nat.toDigits 10 minutes ++ 'm' :: seconds
    else Nat.toDigits 10 (minutes / 60) ++ 'h' :: Nat.toDigits 10 (minutes % 60) ++ 'm' :: seconds

/-- A duration in canonical form. -/
def write (duration : Duration) : List Char :=
  let digits := writeMicros duration.micros.natAbs
  if duration.micros < 0 then '-' :: digits else digits

/-- A duration in canonical form. -/
def format (duration : Duration) : String := String.ofList duration.write

end Duration

end ConnString
