import ConnString.Duration.Basic
import ConnString.Text.Quoted

/-!
# Reading durations

A duration is an optional sign before `0` or before components such as `1h`, `30m` or `2.5s`, whose
nanoseconds are added up. Each component has digits, or a point and digits, or both, and a unit.
The sum is rounded to the nearest microsecond, halves away from zero, before the sign is applied.
A component leaves a shorter text (`length_scan?_lt`), so the sum is found by recursion on length.
-/

namespace ConnString

/-- The unit at the head of a text and the text after it; `ms` is tried before `m`. -/
def TimeUnit.scan? : List Char → Option (TimeUnit × List Char)
  | 'n' :: 's' :: rest => some (nanosecond, rest)
  | 'u' :: 's' :: rest => some (microsecond, rest)
  | '\u00B5' :: 's' :: rest => some (microsecond, rest)
  | '\u03BC' :: 's' :: rest => some (microsecond, rest)
  | 'm' :: 's' :: rest => some (millisecond, rest)
  | 's' :: rest => some (second, rest)
  | 'm' :: rest => some (minute, rest)
  | 'h' :: rest => some (hour, rest)
  | _ => none

/-- A unit takes up at least one character. -/
theorem TimeUnit.length_scan?_lt {text rest : List Char} {unit : TimeUnit}
    (scanned : TimeUnit.scan? text = some (unit, rest)) : rest.length < text.length := by
  unfold TimeUnit.scan? at scanned
  split at scanned <;> cases scanned <;> simp only [List.length_cons] <;> omega

namespace Duration

/-- Why a text is no duration. -/
inductive Fault
  /-- The text does not follow the grammar. -/
  | malformed
  /-- The value is past the range of durations. -/
  | outOfRange
  /-- A run of digits is longer than a number may be. -/
  | tooManyDigits (count : Nat)
deriving DecidableEq, Repr

/-- The longest run of digits that is read as a number. -/
def digitLimit : Nat := 4300

/-- The words for a fault of a text. -/
def Fault.message (text : String) : Fault → String
  | malformed => "invalid duration " ++ Text.quoted text
  | outOfRange => "invalid duration " ++ Text.quoted text ++ ": out of range"
  | tooManyDigits count =>
    s!"Exceeds the limit ({digitLimit} digits) for integer string conversion: value has {count} " ++
      "digits; use sys.set_int_max_str_digits() to increase the limit"

/-- The number that digits write, zero without digits. -/
def number (digits : List Char) : Except Fault Nat :=
  if digitLimit < digits.length then .error (.tooManyDigits digits.length)
  else .ok (Nat.ofDigitChars 10 digits 0)

/-- A number with a unit, as it is written. -/
structure Component where
  /-- The digits before the point. -/
  whole : List Char
  /-- The digits after the point. -/
  fraction : List Char
  /-- The unit. -/
  unit : TimeUnit
deriving DecidableEq, Repr

namespace Component

/-- The nanoseconds of a component; a part of a nanosecond is dropped. -/
def nanos (component : Component) : Except Fault Nat := do
  let whole ← number component.whole
  let fraction ← number component.fraction
  return whole * component.unit.nanos +
    fraction * component.unit.nanos / Nat.pow 10 component.fraction.length

/-- The digits after a point at the head of a text, and the text after them. -/
def scanFraction : List Char → List Char × List Char
  | '.' :: rest => (rest.takeWhile Char.isDigit, rest.dropWhile Char.isDigit)
  | text => ([], text)

/-- The component at the head of a text and the text after it. -/
def scan? (text : List Char) : Option (Component × List Char) :=
  let whole := text.takeWhile Char.isDigit
  let fraction := scanFraction (text.dropWhile Char.isDigit)
  match TimeUnit.scan? fraction.2 with
  | some (unit, rest) =>
    if whole.isEmpty && fraction.1.isEmpty then none else some (⟨whole, fraction.1, unit⟩, rest)
  | none => none

theorem length_scanFraction_le (text : List Char) : (scanFraction text).2.length ≤ text.length := by
  unfold scanFraction
  split
  · next rest =>
    have shorter := (List.dropWhile_suffix Char.isDigit (l := rest)).length_le
    simp only [List.length_cons]
    omega
  · exact Nat.le_refl _

/-- A component takes up at least one character, so that reading a sum comes to an end. -/
theorem length_scan?_lt {text rest : List Char} {component : Component}
    (scanned : scan? text = some (component, rest)) : rest.length < text.length := by
  simp only [scan?] at scanned
  split at scanned
  · next unit remains found =>
    split at scanned
    · cases scanned
    · cases scanned
      have below := TimeUnit.length_scan?_lt found
      have kept := length_scanFraction_le (text.dropWhile Char.isDigit)
      have shorter := (List.dropWhile_suffix Char.isDigit (l := text)).length_le
      omega
  · cases scanned

end Component

/-- The nanoseconds of components up to the end of the text. -/
def total (text : List Char) : Except Fault Nat :=
  if text.isEmpty then .ok 0
  else
    match scanned : Component.scan? text with
    | none => .error .malformed
    | some (component, rest) =>
      have := Component.length_scan?_lt scanned
      do
        let first ← component.nanos
        let others ← total rest
        return first + others
termination_by text.length

/-- Whether a text starts with a minus sign, and the text after its sign. -/
def scanSign : List Char → Bool × List Char
  | '-' :: rest => (true, rest)
  | '+' :: rest => (false, rest)
  | text => (false, text)

/-- Nanoseconds in microseconds, rounded to the nearest, halves up. -/
def roundToMicros (nanos : Nat) : Nat := (nanos + 500) / 1000

/-- The duration that a text writes. -/
def read (text : List Char) : Except Fault Duration :=
  let signed := scanSign text
  if signed.2 = ['0'] then .ok zero
  else if signed.2 = [] then .error .malformed
  else do
    let nanos ← total signed.2
    let micros : Int := roundToMicros nanos
    match ofMicros? (if signed.1 then -micros else micros) with
    | some duration => return duration
    | none => throw .outOfRange

/-- The duration that a text writes. -/
def parse (text : String) : Except Fault Duration := read text.toList

end Duration

end ConnString
