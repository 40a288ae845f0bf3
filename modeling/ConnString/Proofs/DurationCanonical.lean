import ConnString.Proofs.DurationRounding
import Mathlib.Data.List.Induction

/-!
# Durations in canonical form

A canonical text is written in one of five layouts, chosen by size, with numbers that have no zeros
at the front and fractions that have none at the end (`Canonical`). Such numbers and fractions are
determined by what they are worth (`Numeral.toDigits_value`, `Fraction.fractionDigits_parts`), so
writing gives the canonical texts and no others (`format_canonical`). A canonical text leaves
nothing to round: its components add up to its microseconds (`Amount.exactSum_components`), and so a
written duration is read exactly (`parse_format_exact`).
-/

namespace ConnString.Duration

/-! ### Numbers without zeros at the front -/

/-- Digits that write a number; the first is a zero only if there is no other. -/
structure Numeral where
  digits : List Char
  numeric : ∀ digit ∈ digits, digit.isDigit
  present : digits ≠ []
  plain : digits.head? = some '0' → digits = ['0']

/-- A digit is the character of a number below ten. -/
theorem exists_digitChar_eq {char : Char} (numeric : char.isDigit) :
    ∃ digit < 10, Nat.digitChar digit = char := by
  simp only [Char.isDigit, Bool.and_eq_true, decide_eq_true_eq, UInt32.le_iff_toNat_le] at numeric
  have bounds : 48 ≤ char.toNat ∧ char.toNat ≤ 57 := numeric
  refine ⟨char.toNat - 48, by omega, Char.toNat_inj.mp ?_⟩
  rw [Nat.toNat_digitChar_of_lt_ten (by omega)]
  omega

namespace Numeral

/-- The number that the digits write. -/
def value (numeral : Numeral) : Nat := Nat.ofDigitChars 10 numeral.digits 0

/-- Digits without a zero at the front are those of the number that they write. -/
theorem toDigits_ofDigitChars {digits : List Char} (numeric : ∀ digit ∈ digits, digit.isDigit)
    (present : digits ≠ []) (plain : digits.head? = some '0' → digits = ['0']) :
    Nat.toDigits 10 (Nat.ofDigitChars 10 digits 0) = digits := by
  induction digits using List.reverseRecOn with
  | nil => exact absurd rfl present
  | append_singleton front last ih =>
      obtain ⟨digit, small, rfl⟩ := exists_digitChar_eq (numeric last (by simp))
      rw [Nat.ofDigitChars_append, Nat.ofDigitChars_cons_digitChar_of_lt_ten small,
        Nat.ofDigitChars_nil]
      by_cases alone : front = []
      · rw [alone, Nat.ofDigitChars_nil, Nat.mul_zero, Nat.zero_add,
          Nat.toDigits_of_lt_base small, List.nil_append]
      · have other : front.head? ≠ some '0' := by
          intro zero
          have short := congrArg List.length
            (plain (by rw [List.head?_append_of_ne_nil front alone, zero]))
          rw [List.length_append, List.length_singleton, List.length_singleton] at short
          exact alone (List.length_eq_zero_iff.mp (by omega))
        have same := ih (fun char member => numeric char (List.mem_append_left _ member)) alone
          fun zero => absurd zero other
        have positive : 0 < Nat.ofDigitChars 10 front 0 := by
          rw [Nat.pos_iff_ne_zero]
          intro nothing
          rw [nothing, Nat.toDigits_zero] at same
          rw [← same] at other
          exact other rfl
        rw [← Nat.toDigits_append_toDigits (by decide) positive small, same,
          Nat.toDigits_of_lt_base small]

theorem toDigits_value (numeral : Numeral) : Nat.toDigits 10 numeral.value = numeral.digits :=
  toDigits_ofDigitChars numeral.numeric numeral.present numeral.plain

/-- Only zero is written with a zero at the front. -/
theorem toDigits_eq_zero_of_head? {number : Nat}
    (zero : (Nat.toDigits 10 number).head? = some '0') : Nat.toDigits 10 number = ['0'] := by
  induction number using Nat.strongRecOn with
  | ind number ih =>
      rw [Nat.toDigits_eq_if (by decide)] at zero ⊢
      split
      · next small =>
        rw [if_pos small] at zero
        rw [Option.some.inj zero]
      · next large =>
        rw [if_neg large, List.head?_append_of_ne_nil _ Nat.toDigits_ne_nil] at zero
        have front := ih (number / 10) (by omega) zero
        have nothing := congrArg (Nat.ofDigitChars 10 · 0) front
        simp only [Nat.ofDigitChars_ten_toDigits] at nothing
        have none : number / 10 = 0 := nothing
        omega

/-- The digits of a number. -/
def ofNat (number : Nat) : Numeral where
  digits := Nat.toDigits 10 number
  numeric _ := isDigit_of_mem_toDigits
  present := Nat.toDigits_ne_nil
  plain := toDigits_eq_zero_of_head?

theorem value_ofNat (number : Nat) : (ofNat number).value = number :=
  Nat.ofDigitChars_ten_toDigits

end Numeral

/-! ### Fractions without zeros at the end -/

/-- At most so many digits after a point, the last of them no zero. -/
structure Fraction (places : Nat) where
  digits : List Char
  numeric : ∀ digit ∈ digits, digit.isDigit
  short : digits.length ≤ places
  trimmed : digits.getLast? ≠ some '0'

/-- So many digits are worth less than that power of ten. -/
theorem ofDigitChars_lt {digits : List Char} (numeric : ∀ digit ∈ digits, digit.isDigit) :
    Nat.ofDigitChars 10 digits 0 < 10 ^ digits.length := by
  induction digits with
  | nil => decide
  | cons first rest ih =>
      obtain ⟨digit, small, rfl⟩ := exists_digitChar_eq (numeric first List.mem_cons_self)
      have below := ih fun char member => numeric char (List.mem_cons_of_mem _ member)
      rw [Nat.ofDigitChars_cons_digitChar_of_lt_ten small, Nat.ofDigitChars_eq_ofDigitChars_zero,
        List.length_cons, Nat.pow_succ, Nat.mul_zero, Nat.zero_add]
      calc 10 ^ rest.length * digit + Nat.ofDigitChars 10 rest 0
          < 10 ^ rest.length * digit + 10 ^ rest.length := Nat.add_lt_add_left below _
        _ = 10 ^ rest.length * (digit + 1) := (Nat.mul_succ _ _).symm
        _ ≤ 10 ^ rest.length * 10 := Nat.mul_le_mul_left _ small

namespace Fraction

variable {places : Nat}

/-- The parts of `10 ^ places` that the digits write. -/
def parts (fraction : Fraction places) : Nat :=
  Nat.ofDigitChars 10 fraction.digits 0 * 10 ^ (places - fraction.digits.length)

/-- The digits after their point, or nothing without digits. -/
def text (fraction : Fraction places) : List Char := pointed fraction.digits

theorem parts_lt (fraction : Fraction places) : fraction.parts < 10 ^ places := by
  have below := ofDigitChars_lt fraction.numeric
  calc fraction.parts
      < 10 ^ fraction.digits.length * 10 ^ (places - fraction.digits.length) :=
        Nat.mul_lt_mul_of_pos_right below (Nat.pow_pos (by decide))
    _ = 10 ^ places := by rw [← Nat.pow_add, Nat.add_sub_cancel' fraction.short]

theorem fractionDigits_zero (places : Nat) : fractionDigits places 0 = [] := by
  cases places with
  | zero => rfl
  | succ places => rw [fractionDigits_succ, if_pos rfl]

/-- The digits of a fraction are those of the parts that they write. -/
theorem fractionDigits_ofDigitChars {digits : List Char}
    (numeric : ∀ digit ∈ digits, digit.isDigit) (short : digits.length ≤ places)
    (trimmed : digits.getLast? ≠ some '0') :
    fractionDigits places
      (Nat.ofDigitChars 10 digits 0 * 10 ^ (places - digits.length)) = digits := by
  induction places generalizing digits with
  | zero =>
      obtain rfl := List.length_eq_zero_iff.mp (Nat.le_zero.mp short)
      rfl
  | succ places ih =>
      cases digits with
      | nil =>
          rw [Nat.ofDigitChars_nil, Nat.zero_mul, fractionDigits_succ, if_pos rfl]
      | cons first rest =>
          obtain ⟨digit, small, rfl⟩ := exists_digitChar_eq (numeric first List.mem_cons_self)
          have numericRest : ∀ char ∈ rest, char.isDigit := fun char member =>
            numeric char (List.mem_cons_of_mem _ member)
          have shortRest : rest.length ≤ places := Nat.le_of_succ_le_succ short
          have trimmedRest : rest.getLast? ≠ some '0' := by
            intro zero
            refine trimmed ?_
            rw [List.getLast?_cons, zero, Option.getD_some]
          have later := ih numericRest shortRest trimmedRest
          have below := parts_lt ⟨rest, numericRest, shortRest, trimmedRest⟩
          have worth : Nat.ofDigitChars 10 (Nat.digitChar digit :: rest) 0 *
                10 ^ (places + 1 - (Nat.digitChar digit :: rest).length) =
              10 ^ places * digit +
                Nat.ofDigitChars 10 rest 0 * 10 ^ (places - rest.length) := by
            rw [Nat.ofDigitChars_cons_digitChar_of_lt_ten small,
              Nat.ofDigitChars_eq_ofDigitChars_zero, List.length_cons, Nat.mul_zero, Nat.zero_add,
              Nat.add_sub_add_right, Nat.add_mul, Nat.mul_right_comm, ← Nat.pow_add,
              Nat.add_sub_cancel' shortRest]
          rw [parts] at below
          generalize Nat.ofDigitChars 10 rest 0 * 10 ^ (places - rest.length) = others
            at later below worth
          have positive : 10 ^ places * digit + others ≠ 0 := by
            -- A fraction that is worth nothing would be a zero, which does not stand at its end.
            intro nothing
            obtain ⟨leading, rfl⟩ := Nat.add_eq_zero_iff.mp nothing
            obtain rfl := (Nat.mul_eq_zero.mp leading).resolve_left (Nat.pow_pos (by decide)).ne'
            rw [fractionDigits_zero] at later
            rw [← later] at trimmed
            exact trimmed rfl
          rw [worth, fractionDigits_succ, if_neg positive,
            Nat.mul_add_div (Nat.pow_pos (by decide)), Nat.div_eq_of_lt below, Nat.add_zero,
            Nat.mul_add_mod, Nat.mod_eq_of_lt below, later]

/-- A fraction has the digits that are written for its parts. -/
theorem fractionDigits_parts (fraction : Fraction places) :
    fractionDigits places fraction.parts = fraction.digits :=
  fractionDigits_ofDigitChars fraction.numeric fraction.short fraction.trimmed

/-- No fraction is written with a zero at the end. -/
theorem getLast?_fractionDigits_ne {part : Nat} (small : part < 10 ^ places) :
    (fractionDigits places part).getLast? ≠ some '0' := by
  induction places generalizing part with
  | zero => exact Option.some_ne_none _ |>.symm
  | succ places ih =>
      rw [fractionDigits_succ]
      split
      · exact Option.some_ne_none _ |>.symm
      · next something =>
        have later := ih (Nat.mod_lt part (Nat.pow_pos (by decide)))
        rw [List.getLast?_cons]
        cases rest : (fractionDigits places (part % 10 ^ places)).getLast? with
        | some last =>
            rw [rest] at later
            exact later
        | none =>
            rw [List.getLast?_eq_none_iff] at rest
            have worth := ofDigitChars_fractionDigits
              (Nat.mod_lt part (Nat.pow_pos (by decide) : 0 < 10 ^ places))
            rw [rest, Nat.ofDigitChars_nil, Nat.zero_mul, List.length_nil, Nat.pow_zero,
              Nat.mul_one] at worth
            rw [Option.getD_none]
            intro zero
            have leading := Nat.digitChar_eq_zero.mp (Option.some.inj zero)
            have whole := Nat.div_add_mod part (10 ^ places)
            rw [leading, ← worth] at whole
            exact something (by simpa using whole.symm)

/-- The digits of some parts of `10 ^ places`. -/
def ofParts (places part : Nat) (small : part < 10 ^ places) : Fraction places where
  digits := fractionDigits places part
  numeric _ := isDigit_of_mem_fractionDigits small
  short := length_fractionDigits_le places part
  trimmed := getLast?_fractionDigits_ne small

theorem parts_ofParts {part : Nat} (small : part < 10 ^ places) :
    (ofParts places part small).parts = part := by
  have worth := ofDigitChars_fractionDigits small
  have short := length_fractionDigits_le places part
  rw [parts, ofParts]
  refine Nat.eq_of_mul_eq_mul_right (Nat.pow_pos (by decide) :
    0 < 10 ^ (fractionDigits places part).length) ?_
  rw [Nat.mul_assoc, ← Nat.pow_add, Nat.sub_add_cancel short, worth]

end Fraction

/-- A written number with a fraction has the layout of a decimal. -/
theorem decimal_value_parts {places : Nat} (whole : Numeral) (fraction : Fraction places) :
    decimal (whole.value * 10 ^ places + fraction.parts) places =
      whole.digits ++ fraction.text := by
  have below := fraction.parts_lt
  have amount : (whole.value * 10 ^ places + fraction.parts) / 10 ^ places = whole.value := by
    rw [Nat.mul_comm, Nat.mul_add_div (Nat.pow_pos (by decide)), Nat.div_eq_of_lt below,
      Nat.add_zero]
  have part : (whole.value * 10 ^ places + fraction.parts) % 10 ^ places = fraction.parts := by
    rw [Nat.mul_comm, Nat.mul_add_mod, Nat.mod_eq_of_lt below]
  rw [decimal_eq, amount, part, whole.toDigits_value, fraction.fractionDigits_parts, Fraction.text]

/-! ### Layouts -/

section

variable {micros hours minutes rest : Nat}

/-- Below a millisecond the microseconds are written as a whole number. -/
theorem writeMicros_of_lt_milli (least : 1 ≤ micros) (most : micros < 1000) :
    writeMicros micros = Nat.toDigits 10 micros ++ ['\u00B5', 's'] := by
  rw [writeMicros, if_neg (by omega), if_pos most]

/-- From one millisecond and below a second the milliseconds are written, with up to three places.
-/
theorem writeMicros_of_lt_second (least : 1000 ≤ micros) (most : micros < 1000000) :
    writeMicros micros = decimal micros 3 ++ ['m', 's'] := by
  rw [writeMicros, if_neg (by omega), if_neg (by omega), if_pos most]

/-- From one second and below a minute the seconds are written, with up to six places. -/
theorem writeMicros_of_lt_minute (least : 1000000 ≤ micros) (most : micros < 60000000) :
    writeMicros micros = decimal micros 6 ++ ['s'] := by
  simp only [writeMicros]
  rw [if_neg (by omega), if_neg (by omega), if_neg (by omega), if_pos (by omega),
    Nat.mod_eq_of_lt most]

/-- From one minute and below an hour the minutes come before the seconds, which are written even if
zero. -/
theorem writeMicros_minutes (least : 1 ≤ minutes) (most : minutes < 60)
    (below : rest < 60000000) :
    writeMicros (minutes * 60000000 + rest) =
      Nat.toDigits 10 minutes ++ 'm' :: (decimal rest 6 ++ ['s']) := by
  have whole : (minutes * 60000000 + rest) / 60000000 = minutes := by omega
  have remains : (minutes * 60000000 + rest) % 60000000 = rest := by omega
  simp only [writeMicros, whole, remains]
  rw [if_neg (by omega), if_neg (by omega), if_neg (by omega), if_neg (by omega), if_pos most]

/-- From one hour the hours come before the minutes and the seconds, which are written even if zero.
-/
theorem writeMicros_hours (least : 1 ≤ hours) (most : minutes < 60) (below : rest < 60000000) :
    writeMicros (hours * 3600000000 + (minutes * 60000000 + rest)) =
      Nat.toDigits 10 hours ++ 'h' :: Nat.toDigits 10 minutes ++
        'm' :: (decimal rest 6 ++ ['s']) := by
  have whole : (hours * 3600000000 + (minutes * 60000000 + rest)) / 60000000 =
      hours * 60 + minutes := by omega
  have remains : (hours * 3600000000 + (minutes * 60000000 + rest)) % 60000000 = rest := by omega
  have full : (hours * 60 + minutes) / 60 = hours := by omega
  have remainder : (hours * 60 + minutes) % 60 = minutes := by omega
  simp only [writeMicros, whole, remains, full, remainder]
  rw [if_neg (by omega), if_neg (by omega), if_neg (by omega), if_neg (by omega),
    if_neg (by omega)]

end

/-- A time other than none, without its sign, in one of five layouts. -/
inductive Amount
  /-- Microseconds up to the first millisecond. -/
  | inMicros (micros : Numeral) (least : 1 ≤ micros.value) (most : micros.value ≤ 999)
  /-- Milliseconds up to the first second. -/
  | inMillis (millis : Numeral) (fraction : Fraction 3) (least : 1 ≤ millis.value)
    (most : millis.value ≤ 999)
  /-- Seconds up to the first minute. -/
  | inSeconds (seconds : Numeral) (fraction : Fraction 6) (least : 1 ≤ seconds.value)
    (most : seconds.value ≤ 59)
  /-- Minutes and seconds up to the first hour. -/
  | inMinutes (minutes seconds : Numeral) (fraction : Fraction 6) (least : 1 ≤ minutes.value)
    (most : minutes.value ≤ 59) (sexagesimal : seconds.value ≤ 59)
  /-- Hours, minutes and seconds. -/
  | inHours (hours minutes seconds : Numeral) (fraction : Fraction 6) (least : 1 ≤ hours.value)
    (most : minutes.value ≤ 59) (sexagesimal : seconds.value ≤ 59)

namespace Amount

/-- The text of an amount. -/
def text : Amount → List Char
  | inMicros micros _ _ => micros.digits ++ ['\u00B5', 's']
  | inMillis millis fraction _ _ => millis.digits ++ fraction.text ++ ['m', 's']
  | inSeconds seconds fraction _ _ => seconds.digits ++ fraction.text ++ ['s']
  | inMinutes minutes seconds fraction _ _ _ =>
    minutes.digits ++ 'm' :: (seconds.digits ++ fraction.text ++ ['s'])
  | inHours hours minutes seconds fraction _ _ _ =>
    hours.digits ++ 'h' :: minutes.digits ++ 'm' :: (seconds.digits ++ fraction.text ++ ['s'])

/-- The microseconds of an amount. -/
def micros : Amount → Nat
  | inMicros micros _ _ => micros.value
  | inMillis millis fraction _ _ => millis.value * 1000 + fraction.parts
  | inSeconds seconds fraction _ _ => seconds.value * 1000000 + fraction.parts
  | inMinutes minutes seconds fraction _ _ _ =>
    minutes.value * 60000000 + (seconds.value * 1000000 + fraction.parts)
  | inHours hours minutes seconds fraction _ _ _ =>
    hours.value * 3600000000 +
      (minutes.value * 60000000 + (seconds.value * 1000000 + fraction.parts))

theorem micros_pos (amount : Amount) : 0 < amount.micros := by
  cases amount <;> simp only [micros] <;> omega

/-- Writing the microseconds of an amount gives its text. -/
theorem writeMicros_micros (amount : Amount) : writeMicros amount.micros = amount.text := by
  cases amount with
  | inMicros micros least most =>
      rw [Amount.micros, text, writeMicros_of_lt_milli least (by omega), micros.toDigits_value]
  | inMillis millis fraction least most =>
      have below : fraction.parts < 1000 := fraction.parts_lt
      rw [Amount.micros, text, writeMicros_of_lt_second (by omega) (by omega)]
      exact congrArg (· ++ ['m', 's']) (decimal_value_parts millis fraction)
  | inSeconds seconds fraction least most =>
      have below : fraction.parts < 1000000 := fraction.parts_lt
      rw [Amount.micros, text, writeMicros_of_lt_minute (by omega) (by omega)]
      exact congrArg (· ++ ['s']) (decimal_value_parts seconds fraction)
  | inMinutes minutes seconds fraction least most sexagesimal =>
      have below : fraction.parts < 1000000 := fraction.parts_lt
      rw [Amount.micros, text, writeMicros_minutes least (by omega) (by omega),
        minutes.toDigits_value, ← decimal_value_parts seconds fraction]
      rfl
  | inHours hours minutes seconds fraction least most sexagesimal =>
      have below : fraction.parts < 1000000 := fraction.parts_lt
      rw [Amount.micros, text, writeMicros_hours least (by omega) (by omega),
        hours.toDigits_value, minutes.toDigits_value, ← decimal_value_parts seconds fraction]
      rfl

/-- Every number of microseconds but zero has a layout. -/
theorem exists_micros_eq {micros : Nat} (positive : 0 < micros) :
    ∃ amount : Amount, amount.micros = micros := by
  by_cases milli : micros < 1000
  · have worth := Numeral.value_ofNat micros
    exact ⟨.inMicros (.ofNat micros) (by omega) (by omega), worth⟩
  by_cases second : micros < 1000000
  · have worth := Numeral.value_ofNat (micros / 1000)
    have small : micros % 1000 < 10 ^ 3 := Nat.mod_lt _ (by decide)
    have parts := Fraction.parts_ofParts small
    refine ⟨.inMillis (.ofNat (micros / 1000)) (.ofParts 3 _ small) (by omega) (by omega), ?_⟩
    rw [Amount.micros, worth, parts]
    omega
  obtain ⟨minutes, rest, small, rfl⟩ : ∃ minutes rest, rest < 60000000 ∧
      minutes * 60000000 + rest = micros :=
    ⟨_, _, Nat.mod_lt micros (by decide), Nat.div_add_mod' micros 60000000⟩
  obtain ⟨seconds, fraction, sexagesimal, below, rfl⟩ :
      ∃ (seconds : Numeral) (fraction : Fraction 6), seconds.value ≤ 59 ∧
        fraction.parts < 1000000 ∧ seconds.value * 1000000 + fraction.parts = rest := by
    have worth := Numeral.value_ofNat (rest / 1000000)
    have part : rest % 1000000 < 10 ^ 6 := Nat.mod_lt _ (by decide)
    have parts := Fraction.parts_ofParts part
    exact ⟨.ofNat (rest / 1000000), .ofParts 6 _ part, by omega,
      (Fraction.ofParts 6 _ part).parts_lt, by omega⟩
  by_cases none : minutes = 0
  · refine ⟨.inSeconds seconds fraction (by omega) sexagesimal, ?_⟩
    rw [Amount.micros, none, Nat.zero_mul, Nat.zero_add]
  by_cases hour : minutes < 60
  · have worth := Numeral.value_ofNat minutes
    refine ⟨.inMinutes (.ofNat minutes) seconds fraction (by omega) (by omega) sexagesimal, ?_⟩
    rw [Amount.micros, worth]
  · have hours := Numeral.value_ofNat (minutes / 60)
    have remainder := Numeral.value_ofNat (minutes % 60)
    refine ⟨.inHours (.ofNat (minutes / 60)) (.ofNat (minutes % 60)) seconds fraction (by omega)
      (by omega) sexagesimal, ?_⟩
    rw [Amount.micros, hours, remainder]
    omega

end Amount

/-! ### Canonical texts -/

/-- The canonical ways to write a duration. -/
inductive Canonical
  | zero
  | positive (amount : Amount)
  | negative (amount : Amount)

namespace Canonical

/-- The text in canonical form. -/
def text : Canonical → List Char
  | zero => ['0', 's']
  | positive amount => amount.text
  | negative amount => '-' :: amount.text

/-- The microseconds that the text is worth. -/
def micros : Canonical → Int
  | zero => 0
  | positive amount => amount.micros
  | negative amount => -amount.micros

/-- Every number of microseconds has a canonical text. -/
theorem exists_micros_eq (micros : Int) : ∃ canonical : Canonical, canonical.micros = micros := by
  by_cases none : micros = 0
  · exact ⟨zero, none.symm⟩
  · obtain ⟨amount, same⟩ := Amount.exists_micros_eq (Int.natAbs_pos.mpr none)
    by_cases sign : 0 < micros
    · refine ⟨positive amount, ?_⟩
      rw [Canonical.micros]
      omega
    · refine ⟨negative amount, ?_⟩
      rw [Canonical.micros]
      omega

/-- Writing a duration gives the canonical text for its microseconds. -/
theorem write_eq_text {canonical : Canonical} {duration : Duration}
    (same : canonical.micros = duration.micros) : duration.write = canonical.text := by
  rw [write, ← same]
  cases canonical with
  | zero => rfl
  | positive amount =>
      have above : ¬ (amount.micros : Int) < 0 := by omega
      simp only [micros, text, above, ↓reduceIte, Int.natAbs_natCast, amount.writeMicros_micros]
  | negative amount =>
      have below : -(amount.micros : Int) < 0 := by
        have positive := amount.micros_pos
        omega
      simp only [micros, text, below, ↓reduceIte, Int.natAbs_neg, Int.natAbs_natCast,
        amount.writeMicros_micros]

end Canonical

/-- What is written for a duration is a canonical text, and what is written for the duration that a
canonical text writes is that text. -/
theorem format_canonical :
    (∀ duration : Duration, ∃ canonical : Canonical,
      duration.format = String.ofList canonical.text ∧ canonical.micros = duration.micros) ∧
    ∀ canonical : Canonical, least ≤ canonical.micros → canonical.micros ≤ greatest →
      ∃ duration, parse (String.ofList canonical.text) = .ok duration ∧
        duration.micros = canonical.micros ∧ duration.format = String.ofList canonical.text := by
  refine ⟨?_, ?_⟩
  · intro duration
    obtain ⟨canonical, same⟩ := Canonical.exists_micros_eq duration.micros
    exact ⟨canonical, congrArg String.ofList (Canonical.write_eq_text same), same⟩
  · intro canonical above below
    have written : format ⟨canonical.micros, above, below⟩ = String.ofList canonical.text :=
      congrArg String.ofList (Canonical.write_eq_text rfl)
    exact ⟨⟨canonical.micros, above, below⟩, written ▸ parse_format _, rfl, written⟩

/-- The canonical text of the least duration. -/
def longest : Canonical :=
  .negative (.inHours (.ofNat 23999999976) (.ofNat 0) (.ofNat 0) (.ofParts 6 0 (by decide))
    (by decide) (by decide) (by decide))

/-- The least duration, the one furthest from zero. -/
theorem format_canonical_longest :
    longest.text = "-23999999976h0m0s".toList ∧ longest.micros = least ∧
      longest.micros ≤ greatest ∧
      ∃ duration, parse (String.ofList longest.text) = .ok duration ∧
        duration.micros = longest.micros ∧ duration.format = String.ofList longest.text := by
  have text : longest.text = "-23999999976h0m0s".toList := by decide +kernel
  have same : longest.micros = least := by decide +kernel
  have below : longest.micros ≤ greatest := by decide +kernel
  exact ⟨text, same, below, format_canonical.2 longest same.ge below⟩

/-! ### Nothing is rounded -/

/-- The fraction without digits. -/
def Fraction.none : Fraction 0 := .ofParts 0 0 Nat.one_pos

namespace WrittenComponent

/-- A number with a fraction and a unit as they are written. -/
def ofNumeral {places : Nat} (whole : Numeral) (fraction : Fraction places) (unit : TimeUnit)
    (mark : List Char) (named : mark ∈ unit.spellings) : WrittenComponent where
  whole := whole.digits
  fraction := if fraction.digits = [] then none else some fraction.digits
  unit := unit
  mark := mark
  numeric := whole.numeric
  decimals := by
    split
    · exact List.forall_mem_nil _
    · exact fraction.numeric
  present := .inl whole.present
  named := named

variable {places : Nat} (whole : Numeral) (fraction : Fraction places) {unit : TimeUnit}
  {mark : List Char} (named : mark ∈ unit.spellings)

theorem text_ofNumeral :
    (ofNumeral whole fraction unit mark named).text = whole.digits ++ fraction.text ++ mark := by
  rw [WrittenComponent.text, ofNumeral, Fraction.text, pointed]
  split <;> rfl

/-- What a number with a fraction and a unit is worth exactly. -/
theorem exactNanos_ofNumeral :
    (ofNumeral whole fraction unit mark named).exactNanos =
      (whole.value * 10 ^ places + fraction.parts) * unit.nanos / 10 ^ places := by
  have digits : (ofNumeral whole fraction unit mark named).fraction.getD [] = fraction.digits := by
    rw [ofNumeral]
    split
    · next empty => exact empty.symm
    · rfl
  have power : (10 : ℚ) ^ places =
      10 ^ fraction.digits.length * 10 ^ (places - fraction.digits.length) := by
    rw [← pow_add, Nat.add_sub_cancel' fraction.short]
  rw [exactNanos, digits, power, Fraction.parts, Numeral.value, ofNumeral]
  push_cast
  field_simp

end WrittenComponent

open WrittenComponent

namespace Amount

/-- The components of an amount. -/
def components : Amount → List WrittenComponent
  | inMicros micros _ _ => [ofNumeral micros .none .microsecond ['\u00B5', 's'] (by decide)]
  | inMillis millis fraction _ _ =>
    [ofNumeral millis fraction .millisecond ['m', 's'] (by decide)]
  | inSeconds seconds fraction _ _ => [ofNumeral seconds fraction .second ['s'] (by decide)]
  | inMinutes minutes seconds fraction _ _ _ =>
    [ofNumeral minutes .none .minute ['m'] (by decide),
      ofNumeral seconds fraction .second ['s'] (by decide)]
  | inHours hours minutes seconds fraction _ _ _ =>
    [ofNumeral hours .none .hour ['h'] (by decide),
      ofNumeral minutes .none .minute ['m'] (by decide),
      ofNumeral seconds fraction .second ['s'] (by decide)]

theorem components_ne_nil (amount : Amount) : amount.components ≠ [] := by
  cases amount <;> exact List.cons_ne_nil _ _

/-- The components of an amount spell its text. -/
theorem flatMap_text_components (amount : Amount) :
    amount.components.flatMap WrittenComponent.text = amount.text := by
  have empty : Fraction.none.text = [] := rfl
  cases amount <;> simp [components, text, text_ofNumeral, empty]

/-- The components of an amount add up to its microseconds. -/
theorem exactSum_components (amount : Amount) :
    exactSum amount.components = 1000 * amount.micros := by
  have nothing : Fraction.none.parts = 0 := rfl
  cases amount <;>
    simp [components, exactSum, exactNanos_ofNumeral, nothing, TimeUnit.nanos, micros] <;> ring

end Amount

/-- A canonical text is made of components that are worth its microseconds exactly. -/
theorem Canonical.exists_madeOf (canonical : Canonical) :
    ∃ factor written, MadeOf canonical.text factor written ∧
      factor * exactSum written = 1000 * canonical.micros := by
  cases canonical with
  | zero =>
      refine ⟨1, [ofNumeral (.ofNat 0) .none .second ['s'] (by decide)], ?_, ?_⟩
      · have whole : [ofNumeral (.ofNat 0) .none .second ['s'] (by decide)].flatMap
            WrittenComponent.text = ['0', 's'] := by decide
        rw [text, ← whole]
        exact .unsigned (List.cons_ne_nil _ _)
      · decide +kernel
  | positive amount =>
      refine ⟨1, amount.components, ?_, ?_⟩
      · rw [text, ← amount.flatMap_text_components]
        exact .unsigned amount.components_ne_nil
      · rw [amount.exactSum_components, micros]
        push_cast
        ring
  | negative amount =>
      refine ⟨-1, amount.components, ?_, ?_⟩
      · rw [text, ← amount.flatMap_text_components]
        exact .negated amount.components_ne_nil
      · rw [amount.exactSum_components, micros]
        push_cast
        ring

/-- A written duration is read as the duration, whose nanoseconds are exactly those of the
components that are written. -/
theorem parse_format_exact (duration : Duration) :
    parse duration.format = .ok duration ∧
      ∃ factor written, MadeOf duration.format.toList factor written ∧
        factor * exactSum written = 1000 * duration.micros := by
  obtain ⟨canonical, same⟩ := Canonical.exists_micros_eq duration.micros
  obtain ⟨factor, written, made, exact⟩ := canonical.exists_madeOf
  refine ⟨parse_format duration, factor, written, ?_, same ▸ exact⟩
  rwa [format, String.toList_ofList, Canonical.write_eq_text same]

end ConnString.Duration
