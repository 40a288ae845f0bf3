import ConnString.Duration.Reader
import Mathlib.Algebra.Group.Nat.Defs

/-!
# Durations read back

A written number is read together with the unit after it, and so the nanoseconds of a text in
canonical form are those of its microseconds (`total_writeMicros`). Nothing is left to round, and
the sign is read as it was written (`read_write`).
-/

namespace ConnString

open Text

/-- A text that starts with a unit starts with neither a digit nor a point. -/
theorem TimeUnit.head_of_scan? {text rest : List Char} {unit : TimeUnit}
    (scanned : TimeUnit.scan? text = some (unit, rest)) :
    ∃ first others, text = first :: others ∧ first.isDigit = false ∧ first ≠ '.' := by
  unfold TimeUnit.scan? at scanned
  split at scanned
  all_goals first
    | cases scanned
      done
    | exact ⟨_, _, rfl, by decide, by decide⟩

namespace Duration

/-! ### Numbers -/

/-- Digits are read as the number they write, unless there are too many. -/
theorem number_eq_ok_iff {digits : List Char} {value : Nat} :
    number digits = .ok value ↔
      digits.length ≤ digitLimit ∧ Nat.ofDigitChars 10 digits 0 = value := by
  rw [number]
  split
  · next long => simp [Nat.not_le.mpr long]
  · next short => simp [Nat.not_lt.mp short]

/-- Numbers below `10 ^ 20` are well within the limit on digits, and so is every duration. -/
theorem number_toDigits {amount : Nat} (small : amount < 10 ^ 20) :
    number (Nat.toDigits 10 amount) = .ok amount := by
  have length : (Nat.toDigits 10 amount).length ≤ 20 :=
    (Nat.length_toDigits_le_iff (by decide) (by decide)).mpr small
  have limit : 20 ≤ digitLimit := by decide
  exact number_eq_ok_iff.mpr ⟨Nat.le_trans length limit, Nat.ofDigitChars_ten_toDigits⟩

theorem isDigit_of_mem_toDigits {amount : Nat} {digit : Char}
    (member : digit ∈ Nat.toDigits 10 amount) : digit.isDigit :=
  Nat.isDigit_of_mem_toDigits (by decide) (by decide) member

/-- The first digit of a fraction, unless the rest is zero and nothing more is written. -/
theorem fractionDigits_succ (places part : Nat) :
    fractionDigits (places + 1) part =
      if part = 0 then []
      else Nat.digitChar (part / 10 ^ places) :: fractionDigits places (part % 10 ^ places) :=
  rfl

theorem length_fractionDigits_le (places part : Nat) :
    (fractionDigits places part).length ≤ places := by
  induction places generalizing part with
  | zero => exact Nat.le_refl _
  | succ places ih =>
      rw [fractionDigits_succ]
      split
      · exact Nat.zero_le _
      · exact Nat.succ_le_succ (ih _)

/-- What stands at the first place of a fraction is one digit. -/
theorem leading_lt_ten {places part : Nat} (small : part < 10 ^ (places + 1)) :
    part / 10 ^ places < 10 :=
  Nat.div_lt_of_lt_mul small

theorem isDigit_of_mem_fractionDigits {places part : Nat} (small : part < 10 ^ places)
    {digit : Char} (member : digit ∈ fractionDigits places part) : digit.isDigit := by
  induction places generalizing part with
  | zero => cases member
  | succ places ih =>
      rw [fractionDigits_succ] at member
      split at member
      · cases member
      · rcases List.mem_cons.mp member with rfl | later
        · rw [Nat.isDigit_digitChar]
          exact decide_eq_true (leading_lt_ten small)
        · exact ih (Nat.mod_lt _ (Nat.pow_pos (by decide))) later

/-- The digits of a fraction are worth as much of `10 ^ places` as they write. -/
theorem ofDigitChars_fractionDigits {places part : Nat} (small : part < 10 ^ places) :
    Nat.ofDigitChars 10 (fractionDigits places part) 0 * 10 ^ places =
      part * 10 ^ (fractionDigits places part).length := by
  induction places generalizing part with
  | zero =>
      rw [Nat.pow_zero, Nat.lt_one_iff] at small
      subst small
      rfl
  | succ places ih =>
      rw [fractionDigits_succ]
      split
      · next nothing => rw [nothing, Nat.ofDigitChars_nil, Nat.zero_mul, Nat.zero_mul]
      · have later := ih (Nat.mod_lt part (Nat.pow_pos (by decide)))
        have whole := Nat.div_add_mod part (10 ^ places)
        rw [Nat.ofDigitChars_cons_digitChar_of_lt_ten (leading_lt_ten small),
          Nat.ofDigitChars_eq_ofDigitChars_zero, List.length_cons, Nat.mul_zero, Nat.zero_add]
        generalize (fractionDigits places (part % 10 ^ places)) = digits at later ⊢
        calc (10 ^ digits.length * (part / 10 ^ places) + Nat.ofDigitChars 10 digits 0) *
              10 ^ (places + 1)
            = 10 * (10 ^ digits.length * (10 ^ places * (part / 10 ^ places)) +
                Nat.ofDigitChars 10 digits 0 * 10 ^ places) := by
              rw [Nat.pow_succ]
              grind
          _ = 10 * (10 ^ digits.length * part) := by
              rw [later, Nat.mul_comm (part % 10 ^ places), ← Nat.mul_add, whole]
          _ = part * 10 ^ (digits.length + 1) := by
              rw [Nat.pow_succ]
              grind

/-- The digits of a fraction with few enough places are read as a number. -/
theorem number_fractionDigits {places part : Nat} (few : places ≤ digitLimit) :
    number (fractionDigits places part) =
      .ok (Nat.ofDigitChars 10 (fractionDigits places part) 0) :=
  number_eq_ok_iff.mpr ⟨Nat.le_trans (length_fractionDigits_le places part) few, rfl⟩

/-! ### Components -/

/-- Digits after a point, or nothing without digits. -/
def pointed (digits : List Char) : List Char := if digits = [] then [] else '.' :: digits

/-- A pointed run of digits is what a fraction looks like to a reader. -/
theorem exists_pointed_eq (digits : List Char) :
    ∃ fraction : Option (List Char), fraction.getD [] = digits ∧
      pointed digits = fraction.elim [] ('.' :: ·) := by
  rw [pointed]
  split
  · next empty => exact ⟨none, empty.symm, rfl⟩
  · exact ⟨some digits, rfl, rfl⟩

/-- A decimal is its whole part and its fraction, without a point if the fraction is zero. -/
theorem decimal_eq (amount places : Nat) :
    decimal amount places =
      Nat.toDigits 10 (amount / 10 ^ places) ++
        pointed (fractionDigits places (amount % 10 ^ places)) := by
  rw [decimal, Nat.pow_eq, pointed]
  congr 1
  cases places with
  | zero =>
      rw [Nat.pow_zero, Nat.mod_one, if_pos rfl]
      rfl
  | succ places =>
      rw [fractionDigits_succ]
      by_cases nothing : amount % 10 ^ (places + 1) = 0
      · rw [if_pos nothing, if_pos nothing, if_pos rfl]
      · rw [if_neg nothing, if_neg nothing, if_neg (List.cons_ne_nil _ _)]

/-- A run of digits ends where another character stands. -/
theorem takeWhile_isDigit_append {digits : List Char} (numeric : ∀ char ∈ digits, char.isDigit)
    {first : Char} (other : first.isDigit = false) (others : List Char) :
    (digits ++ first :: others).takeWhile Char.isDigit = digits := by
  rw [List.takeWhile_append_of_pos numeric, List.takeWhile_cons_of_neg (by simp [other]),
    List.append_nil]

theorem dropWhile_isDigit_append {digits : List Char} (numeric : ∀ char ∈ digits, char.isDigit)
    {first : Char} (other : first.isDigit = false) (others : List Char) :
    (digits ++ first :: others).dropWhile Char.isDigit = first :: others := by
  rw [List.dropWhile_append_of_pos numeric, List.dropWhile_cons_of_neg (by simp [other])]

namespace Component

/-- A fraction that is written before something else is read as its digits. -/
theorem scanFraction_append {fraction : Option (List Char)}
    (numeric : ∀ char ∈ fraction.getD [], char.isDigit) {first : Char}
    (other : first.isDigit = false) (noPoint : first ≠ '.') (others : List Char) :
    scanFraction (fraction.elim [] ('.' :: ·) ++ first :: others) =
      (fraction.getD [], first :: others) := by
  cases fraction with
  | none =>
      rw [Option.elim_none, List.nil_append, scanFraction, Option.getD_none]
      intro rest same
      exact noPoint (List.cons.inj same).1
  | some digits =>
      rw [Option.getD_some] at numeric
      rw [Option.elim_some, List.cons_append, scanFraction,
        takeWhile_isDigit_append numeric other, dropWhile_isDigit_append numeric other,
        Option.getD_some]

/-- Digits, perhaps a point and digits, and a unit are read as one component. -/
theorem scan?_append {whole suffix rest : List Char} {fraction : Option (List Char)}
    {unit : TimeUnit} (numeric : ∀ char ∈ whole, char.isDigit)
    (decimals : ∀ char ∈ fraction.getD [], char.isDigit)
    (present : whole ≠ [] ∨ fraction.getD [] ≠ [])
    (scanned : TimeUnit.scan? suffix = some (unit, rest)) :
    scan? (whole ++ fraction.elim [] ('.' :: ·) ++ suffix) =
      some (⟨whole, fraction.getD [], unit⟩, rest) := by
  obtain ⟨first, others, rfl, noDigit, noPoint⟩ := TimeUnit.head_of_scan? scanned
  obtain ⟨mark, more, split, other⟩ : ∃ mark more,
      fraction.elim [] ('.' :: ·) ++ first :: others = mark :: more ∧ mark.isDigit = false := by
    cases fraction with
    | none => exact ⟨first, others, rfl, noDigit⟩
    | some digits => exact ⟨'.', digits ++ first :: others, rfl, by decide⟩
  have front : (whole ++ fraction.elim [] ('.' :: ·) ++ first :: others).takeWhile Char.isDigit =
      whole := by
    rw [List.append_assoc, split, takeWhile_isDigit_append numeric other]
  have back : (whole ++ fraction.elim [] ('.' :: ·) ++ first :: others).dropWhile Char.isDigit =
      fraction.elim [] ('.' :: ·) ++ first :: others := by
    rw [List.append_assoc, split, dropWhile_isDigit_append numeric other]
  have filled : (whole.isEmpty && (fraction.getD []).isEmpty) = false := by
    rw [Bool.and_eq_false_iff, List.isEmpty_eq_false_iff, List.isEmpty_eq_false_iff]
    exact present
  simp only [scan?, front, back, scanFraction_append decimals noDigit noPoint, scanned, filled,
    Bool.false_eq_true, ↓reduceIte]

end Component

theorem total_nil : total [] = .ok 0 := by
  rw [total]
  rfl

/-- A sum is that of its first component and of the rest. -/
theorem total_of_scan? {text rest : List Char} {component : Component}
    (scanned : Component.scan? text = some (component, rest)) {first others : Nat}
    (here : component.nanos = .ok first) (there : total rest = .ok others) :
    total text = .ok (first + others) := by
  have present : text.isEmpty = false := by
    cases text with
    | nil => cases scanned
    | cons => rfl
  rw [total, present]
  simp only [Bool.false_eq_true, ↓reduceIte]
  split
  · next none =>
    rw [scanned] at none
    cases none
  · next found =>
    rw [scanned, Option.some.injEq, Prod.mk.injEq] at found
    obtain ⟨rfl, rfl⟩ := found
    rw [here, there]
    rfl

/-- A written number of parts of a unit is worth that many parts. -/
theorem total_decimal_append {amount places part : Nat} {unit : TimeUnit}
    (whole : unit.nanos = 10 ^ places * part) (small : amount < 10 ^ 20)
    (few : places ≤ digitLimit) {suffix rest : List Char}
    (scanned : TimeUnit.scan? suffix = some (unit, rest)) {others value : Nat}
    (there : total rest = .ok others) (sum : amount * part + others = value) :
    total (decimal amount places ++ suffix) = .ok value := by
  have positive : 0 < 10 ^ places := Nat.pow_pos (by decide)
  have below : amount % 10 ^ places < 10 ^ places := Nat.mod_lt _ positive
  have worth := ofDigitChars_fractionDigits below
  have decimals : ∀ char ∈ fractionDigits places (amount % 10 ^ places), char.isDigit :=
    fun _ => isDigit_of_mem_fractionDigits below
  obtain ⟨fraction, digits, point⟩ :=
    exists_pointed_eq (fractionDigits places (amount % 10 ^ places))
  rw [← digits] at decimals
  have read := Component.scan?_append (fun _ => isDigit_of_mem_toDigits) decimals
    (.inl (Nat.toDigits_ne_nil (n := amount / 10 ^ places))) scanned
  rw [digits, ← point] at read
  rw [decimal_eq, ← sum]
  refine total_of_scan? read ?_ there
  rw [Component.nanos, number_toDigits (Nat.lt_of_le_of_lt (Nat.div_le_self _ _) small),
    number_fractionDigits few]
  generalize fractionDigits places (amount % 10 ^ places) = digits at worth ⊢
  have fraction : Nat.ofDigitChars 10 digits 0 * unit.nanos / 10 ^ digits.length =
      amount % 10 ^ places * part := by
    rw [whole, ← Nat.mul_assoc, worth, Nat.mul_right_comm]
    exact Nat.mul_div_cancel _ (Nat.pow_pos (by decide))
  have parts : amount / 10 ^ places * unit.nanos + amount % 10 ^ places * part =
      amount * part := by
    rw [whole, ← Nat.mul_assoc, ← Nat.add_mul, Nat.div_add_mod']
  change Except.ok (amount / 10 ^ places * unit.nanos +
    Nat.ofDigitChars 10 digits 0 * unit.nanos / 10 ^ digits.length) = _
  rw [fraction, parts]

/-! ### The canonical form -/

theorem decimal_zero_places (amount : Nat) : decimal amount 0 = Nat.toDigits 10 amount := by
  rw [decimal, Nat.pow_eq, Nat.pow_zero, Nat.div_one, Nat.mod_one, if_pos rfl, List.append_nil]

/-- A whole number before a unit adds its worth in nanoseconds to the sum. -/
theorem total_whole_append {amount nanos : Nat} {unit : TimeUnit} (worth : unit.nanos = nanos)
    (small : amount < 10 ^ 20) {suffix rest : List Char}
    (scanned : TimeUnit.scan? suffix = some (unit, rest)) {others value : Nat}
    (there : total rest = .ok others) (sum : amount * nanos + others = value) :
    total (Nat.toDigits 10 amount ++ suffix) = .ok value := by
  rw [← decimal_zero_places]
  refine total_decimal_append ?_ small (by decide) scanned there sum
  rw [worth, Nat.pow_zero, Nat.one_mul]

theorem exists_digit_toDigits_append (amount : Nat) (rest : List Char) :
    ∃ digit others, Nat.toDigits 10 amount ++ rest = digit :: others ∧ digit.isDigit := by
  cases written : Nat.toDigits 10 amount with
  | nil => exact absurd written Nat.toDigits_ne_nil
  | cons digit others =>
      have member : digit ∈ Nat.toDigits 10 amount := by
        rw [written]
        exact List.mem_cons_self
      exact ⟨digit, others ++ rest, rfl, isDigit_of_mem_toDigits member⟩

/-- An `m` before a digit is a minute: milliseconds go on with an `s`. -/
theorem scan?_minute {digit : Char} (numeric : digit.isDigit) (rest : List Char) :
    TimeUnit.scan? ('m' :: digit :: rest) = some (.minute, digit :: rest) := by
  have other : digit ≠ 's' := by
    rintro rfl
    exact absurd numeric (by decide)
  simp [TimeUnit.scan?, other]

/-- A text in canonical form is worth its microseconds. -/
theorem total_writeMicros {micros : Nat} (small : micros < 10 ^ 20) :
    total (writeMicros micros) = .ok (micros * 1000) := by
  have microsecond : TimeUnit.microsecond.nanos = 1000 := rfl
  have millisecond : TimeUnit.millisecond.nanos = 10 ^ 3 * 1000 := rfl
  have second : TimeUnit.second.nanos = 10 ^ 6 * 1000 := rfl
  have hour : TimeUnit.hour.nanos = 3600000000000 := rfl
  have secondSign : TimeUnit.scan? ['s'] = some (.second, []) := rfl
  have seconds : total (decimal (micros % 60000000) 6 ++ ['s']) =
      .ok (micros % 60000000 * 1000) :=
    total_decimal_append second (by omega) (by decide) secondSign total_nil (Nat.add_zero _)
  have minuteSign : TimeUnit.scan? ('m' :: (decimal (micros % 60000000) 6 ++ ['s'])) =
      some (.minute, decimal (micros % 60000000) 6 ++ ['s']) := by
    rw [decimal_eq, List.append_assoc]
    obtain ⟨digit, others, split, numeric⟩ := exists_digit_toDigits_append
      (micros % 60000000 / 10 ^ 6)
      (pointed (fractionDigits 6 (micros % 60000000 % 10 ^ 6)) ++ ['s'])
    rw [split]
    exact scan?_minute numeric others
  have minutes : ∀ {amount value : Nat}, amount < 10 ^ 20 →
      amount * 60000000000 + micros % 60000000 * 1000 = value →
      total (Nat.toDigits 10 amount ++ 'm' :: (decimal (micros % 60000000) 6 ++ ['s'])) =
        .ok value :=
    fun few sum => total_whole_append rfl few minuteSign seconds sum
  rw [writeMicros]
  split
  · next nothing =>
    subst nothing
    exact total_whole_append rfl (by decide : 0 < 10 ^ 20) secondSign total_nil rfl
  · split
    · exact total_whole_append microsecond small rfl total_nil (Nat.add_zero _)
    · split
      · exact total_decimal_append millisecond small (by decide) rfl total_nil (Nat.add_zero _)
      · simp only
        split
        · next early =>
          exact seconds.trans (congrArg Except.ok (by omega))
        · split
          · exact minutes (by omega) (by omega)
          · rw [List.append_assoc, List.cons_append]
            exact total_whole_append hour (by omega) rfl (minutes (by omega) rfl) (by omega)

/-! ### Signs -/

/-- A written duration without its sign starts with a digit. -/
theorem exists_digit_writeMicros (micros : Nat) :
    ∃ digit others, writeMicros micros = digit :: others ∧ digit.isDigit := by
  simp only [writeMicros, decimal_eq, List.append_assoc]
  repeat' split
  case isTrue => exact ⟨'0', ['s'], rfl, by decide⟩
  all_goals exact exists_digit_toDigits_append _ _

/-- A written duration has a unit that ends in `s`, so that it is not the unitless zero. -/
theorem unit_mem_writeMicros (micros : Nat) : 's' ∈ writeMicros micros := by
  simp only [writeMicros]
  repeat' split
  all_goals simp

/-- The sign of a written duration is read back with the rest. -/
theorem scanSign_write (duration : Duration) :
    scanSign duration.write =
      (decide (duration.micros < 0), writeMicros duration.micros.natAbs) := by
  rw [write]
  obtain ⟨digit, others, split, numeric⟩ := exists_digit_writeMicros duration.micros.natAbs
  by_cases negative : duration.micros < 0
  · simp [negative, scanSign]
  · have unsigned : scanSign (digit :: others) = (false, digit :: others) := by
      rw [scanSign]
      · rintro rest same
        rw [(List.cons.inj same).1] at numeric
        exact absurd numeric (by decide)
      · rintro rest same
        rw [(List.cons.inj same).1] at numeric
        exact absurd numeric (by decide)
    simp only [negative, decide_false, ↓reduceIte]
    rw [split]
    exact unsigned

theorem roundToMicros_mul (micros : Nat) : roundToMicros (micros * 1000) = micros := by
  rw [roundToMicros]
  omega

/-- Reading a written duration gives it back. -/
theorem read_write (duration : Duration) : read duration.write = .ok duration := by
  have least := duration.least_le
  have greatest := duration.le_greatest
  rw [Duration.least] at least
  rw [Duration.greatest] at greatest
  have small : duration.micros.natAbs < 10 ^ 20 := by omega
  have unit := unit_mem_writeMicros duration.micros.natAbs
  have notZero : writeMicros duration.micros.natAbs ≠ ['0'] := by
    intro same
    rw [same] at unit
    exact absurd unit (by decide)
  have notEmpty : writeMicros duration.micros.natAbs ≠ [] := List.ne_nil_of_mem unit
  have signed : (if decide (duration.micros < 0) then -(duration.micros.natAbs : Int)
      else duration.micros.natAbs) = duration.micros := by
    by_cases negative : duration.micros < 0
    · simp only [negative, decide_true, ↓reduceIte]
      omega
    · simp only [negative, decide_false, Bool.false_eq_true, ↓reduceIte]
      omega
  simp only [read, scanSign_write, notZero, notEmpty, ↓reduceIte, total_writeMicros small]
  simp only [bind, Except.bind]
  rw [roundToMicros_mul, signed, ofMicros?_micros]
  rfl

/-- Every duration is read back from the text that it is formatted to. -/
theorem parse_format (duration : Duration) : parse duration.format = .ok duration := by
  rw [parse, format, String.toList_ofList, read_write]

end Duration

end ConnString
