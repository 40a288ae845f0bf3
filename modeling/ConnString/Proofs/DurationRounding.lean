import ConnString.Proofs.DurationGrammar
import Mathlib.Data.Rat.Floor
import Mathlib.Tactic.Linarith
import Mathlib.Tactic.Ring

/-!
# The rounding of durations

A component writes a rational number of nanoseconds, of which reading takes the whole part
(`WrittenComponent.floor_exactNanos`). So the sum that is read stays below the exact one by less
than a nanosecond for each component with a fraction (`exactSum_cases`). Rounding it to microseconds
adds half a microsecond at most, and where only one component has a fraction it is the exact sum
that is rounded (`parse_accuracy`).
-/

namespace ConnString.Duration

/-! ### Exact values -/

namespace WrittenComponent

/-- The nanoseconds that a component writes, a part of one included. -/
def exactNanos (written : WrittenComponent) : ℚ :=
  (Nat.ofDigitChars 10 written.whole 0 +
    Nat.ofDigitChars 10 (written.fraction.getD []) 0 / 10 ^ (written.fraction.getD []).length) *
      written.unit.nanos

/-- Whether there are digits after a point. -/
def hasFraction (written : WrittenComponent) : Bool := !(written.fraction.getD []).isEmpty

/-- Reading a component drops a part of a nanosecond. -/
theorem floor_exactNanos (written : WrittenComponent) : ⌊written.exactNanos⌋ = written.nanos := by
  have parts : written.exactNanos =
      (Nat.ofDigitChars 10 written.whole 0 * written.unit.nanos : Nat) +
        (Nat.ofDigitChars 10 (written.fraction.getD []) 0 * written.unit.nanos : Nat) /
          (10 ^ (written.fraction.getD []).length : Nat) := by
    rw [exactNanos]
    push_cast
    ring
  rw [parts, Int.floor_natCast_add, Rat.floor_natCast_div_natCast]
  rfl

/-- A component is read as no more than it writes. -/
theorem nanos_le_exactNanos (written : WrittenComponent) :
    (written.nanos : ℚ) ≤ written.exactNanos := by
  have below := Int.floor_le written.exactNanos
  rwa [floor_exactNanos, Int.cast_natCast] at below

/-- A component loses less than a nanosecond. -/
theorem exactNanos_lt (written : WrittenComponent) : written.exactNanos < written.nanos + 1 := by
  have above := Int.lt_floor_add_one written.exactNanos
  rwa [floor_exactNanos, Int.cast_natCast] at above

/-- A component without a fraction loses nothing. -/
theorem exactNanos_of_not_hasFraction {written : WrittenComponent}
    (whole : written.hasFraction = false) : written.exactNanos = written.nanos := by
  have empty : written.fraction.getD [] = [] := by
    rwa [hasFraction, Bool.not_eq_false', List.isEmpty_iff] at whole
  rw [exactNanos, nanos, empty]
  simp

end WrittenComponent

open WrittenComponent

/-- The nanoseconds that components write, parts of one included. -/
def exactSum (written : List WrittenComponent) : ℚ := (written.map exactNanos).sum

/-- Components are read as no more than they write. -/
theorem sum_nanos_le_exactSum (written : List WrittenComponent) :
    ((written.map nanos).sum : ℚ) ≤ exactSum written := by
  induction written with
  | nil => exact le_refl _
  | cons component others ih =>
      have here := component.nanos_le_exactNanos
      rw [exactSum] at ih ⊢
      simp only [List.map_cons, List.sum_cons, Nat.cast_add]
      linarith

/-- The sum that is read is exact if no component has a fraction; else less than a nanosecond is
lost for each one that has. -/
theorem exactSum_cases (written : List WrittenComponent) :
    (written.countP hasFraction = 0 ∧ exactSum written = (written.map nanos).sum) ∨
      exactSum written < (written.map nanos).sum + written.countP hasFraction := by
  induction written with
  | nil => exact .inl ⟨rfl, rfl⟩
  | cons component others ih =>
      rw [exactSum] at ih ⊢
      simp only [List.map_cons, List.sum_cons, Nat.cast_add, List.countP_cons]
      cases fraction : component.hasFraction with
      | false =>
          have here := exactNanos_of_not_hasFraction fraction
          rcases ih with ⟨none, same⟩ | less
          · refine .inl ⟨by simp [none], ?_⟩
            rw [here, same]
          · refine .inr ?_
            simp only [Bool.false_eq_true, ↓reduceIte, Nat.cast_zero]
            linarith
      | true =>
          have here := component.exactNanos_lt
          refine .inr ?_
          simp only [↓reduceIte, Nat.cast_one]
          rcases ih with ⟨none, same⟩ | less
          · rw [none, same, Nat.cast_zero]
            linarith
          · linarith

/-- Components lose less than a nanosecond for each fraction. -/
theorem exactSum_lt (written : List WrittenComponent) :
    exactSum written < (written.map nanos).sum + (max (written.countP hasFraction) 1 : Nat) := by
  rcases exactSum_cases written with ⟨none, same⟩ | less
  · rw [none, same]
    simp
  · have most : (written.countP hasFraction : ℚ) ≤ (max (written.countP hasFraction) 1 : Nat) :=
      Nat.cast_le.mpr (Nat.le_max_left _ _)
    linarith

/-! ### Rounding -/

/-- The whole number nearest to a value; halfway between two, the one further from zero. -/
def roundHalfAway (value : ℚ) : ℤ :=
  if 0 ≤ value then ⌊value + 1 / 2⌋ else ⌈value - 1 / 2⌉

theorem roundHalfAway_neg (value : ℚ) : roundHalfAway (-value) = -roundHalfAway value := by
  rcases lt_trichotomy value 0 with negative | rfl | positive
  · rw [roundHalfAway, if_pos (by linarith), roundHalfAway, if_neg (by linarith), ← Int.floor_neg]
    congr 1
    ring
  · have none : roundHalfAway 0 = 0 := by
      rw [roundHalfAway, if_pos le_rfl, Int.floor_eq_zero_iff]
      constructor <;> norm_num
    rw [neg_zero, none, neg_zero]
  · rw [roundHalfAway, if_neg (by linarith), roundHalfAway, if_pos (by linarith), ← Int.ceil_neg]
    congr 1
    ring

/-- Rounding nanoseconds to microseconds looks at their whole part only. -/
theorem roundHalfAway_div_thousand {exact : ℚ} {nanos : Nat} (least : nanos ≤ exact)
    (most : exact < nanos + 1) : roundHalfAway (exact / 1000) = ((nanos + 500) / 1000 : Nat) := by
  have positive : (0 : ℚ) ≤ nanos := Nat.cast_nonneg nanos
  have below : 1000 * ((nanos + 500) / 1000) ≤ nanos + 500 := by omega
  have above : nanos + 501 ≤ 1000 * ((nanos + 500) / 1000) + 1000 := by omega
  generalize (nanos + 500) / 1000 = micros at below above ⊢
  have belowExact : (1000 * micros : ℚ) ≤ nanos + 500 := by exact_mod_cast below
  have aboveExact : (nanos + 501 : ℚ) ≤ 1000 * micros + 1000 := by exact_mod_cast above
  rw [roundHalfAway, if_pos (by linarith), Int.floor_eq_iff, Int.cast_natCast]
  constructor <;> linarith

/-! ### Reading -/

/-- A text is a sign, with its factor, before a zero without components or before components. -/
inductive MadeOf : List Char → Int → List WrittenComponent → Prop
  | zero {sign : List Char × Int} (signed : sign ∈ signs) : MadeOf (sign.1 ++ ['0']) sign.2 []
  | sum {sign : List Char × Int} {written : List WrittenComponent} (signed : sign ∈ signs)
      (present : written ≠ []) :
      MadeOf (sign.1 ++ written.flatMap WrittenComponent.text) sign.2 written

namespace MadeOf

variable {written : List WrittenComponent} (present : written ≠ [])

include present

theorem unsigned : MadeOf (written.flatMap WrittenComponent.text) 1 written :=
  .sum (by decide : ([], 1) ∈ signs) present

theorem negated : MadeOf ('-' :: written.flatMap WrittenComponent.text) (-1) written :=
  .sum (by decide : (['-'], -1) ∈ signs) present

end MadeOf

/-- A sign has one of two factors. -/
theorem factor_of_madeOf {text : List Char} {factor : Int} {written : List WrittenComponent}
    (made : MadeOf text factor written) : factor = 1 ∨ factor = -1 := by
  have either : ∀ sign ∈ signs, sign.2 = 1 ∨ sign.2 = -1 := by decide
  cases made with
  | zero signed => exact either _ signed
  | sum signed present => exact either _ signed

/-- A text that denotes microseconds is made of a sign and components. -/
theorem exists_madeOf_of_denotes {text : List Char} {micros : Int} (denotes : Denotes text micros) :
    ∃ factor written, MadeOf text factor written := by
  cases denotes with
  | zero signed => exact ⟨_, [], .zero signed⟩
  | sum signed present => exact ⟨_, _, .sum signed present⟩

/-- Every way to take a text apart gives the microseconds that it is read as. -/
theorem micros_of_madeOf {text : List Char} {factor : Int} {written : List WrittenComponent}
    (made : MadeOf text factor written) {duration : Duration}
    (accepted : read text = .ok duration) :
    duration.micros = factor * (((written.map nanos).sum + 500) / 1000 : Nat) := by
  cases made with
  | zero signed =>
      rw [read_zero signed] at accepted
      cases accepted
      exact (mul_zero _).symm
  | sum signed present => exact ((read_sum_eq_ok_iff signed present).mp accepted).2

/-- What is read differs from the exact sum of the components by half a microsecond at most, and by
less than a nanosecond more for each fraction after the first. With one fraction at most it is the
exact sum, rounded to the nearest microsecond, halves away from zero. -/
theorem parse_accuracy {text : String} {duration : Duration}
    (accepted : parse text = .ok duration) :
    (∃ factor written, MadeOf text.toList factor written) ∧
      ∀ factor written, MadeOf text.toList factor written →
        1000 * (duration.micros.natAbs : ℚ) - 500 ≤ exactSum written ∧
        exactSum written <
          1000 * duration.micros.natAbs + 499 + (max (written.countP hasFraction) 1 : Nat) ∧
        (written.countP hasFraction ≤ 1 →
          duration.micros = roundHalfAway (factor * exactSum written / 1000)) := by
  refine ⟨exists_madeOf_of_denotes (denotes_of_read accepted), ?_⟩
  intro factor written made
  have micros := micros_of_madeOf made accepted
  have least := sum_nanos_le_exactSum written
  have most := exactSum_lt written
  have sign := factor_of_madeOf made
  generalize (written.map nanos).sum = sum at micros least most
  have magnitude : duration.micros.natAbs = (sum + 500) / 1000 := by
    rcases sign with rfl | rfl <;> omega
  refine ⟨?_, ?_, ?_⟩
  · have below : 1000 * duration.micros.natAbs ≤ sum + 500 := by omega
    have belowExact : (1000 * duration.micros.natAbs : ℚ) ≤ sum + 500 := by exact_mod_cast below
    linarith
  · have above : sum ≤ 1000 * duration.micros.natAbs + 499 := by omega
    have aboveExact : (sum : ℚ) ≤ 1000 * duration.micros.natAbs + 499 := by exact_mod_cast above
    linarith
  · intro single
    rw [Nat.max_eq_right single, Nat.cast_one] at most
    have rounded := roundHalfAway_div_thousand least most
    rw [micros]
    rcases sign with rfl | rfl
    · rw [Int.cast_one, one_mul, one_mul, rounded]
    · rw [Int.cast_neg, Int.cast_one, neg_one_mul, neg_one_mul, neg_div, roundHalfAway_neg, rounded]

/-- Components that lose most of a nanosecond each, and so are read as one microsecond although
their exact sum is nearer to two. -/
def lossy : List WrittenComponent :=
  [⟨"1".toList, some "0009".toList, .microsecond, "us".toList, List.all_eq_true.mp rfl,
      List.all_eq_true.mp rfl, by decide, by decide⟩,
    ⟨[], some "4996".toList, .microsecond, "us".toList, List.all_eq_true.mp rfl,
      List.all_eq_true.mp rfl, by decide, by decide⟩]

/-- Components halfway between two microseconds. -/
def halfway : List WrittenComponent :=
  [⟨"2".toList, none, .hour, "h".toList, List.all_eq_true.mp rfl, List.all_eq_true.mp rfl,
      by decide, by decide⟩,
    ⟨[], some "0005".toList, .millisecond, "ms".toList, List.all_eq_true.mp rfl,
      List.all_eq_true.mp rfl, by decide, by decide⟩]

/-- Fractions that lose enough together to be rounded the other way, and one that stands halfway. -/
theorem parse_accuracy_lossy_halfway :
    (parse "-1.0009us.4996us" = .ok ⟨-1, by decide, by decide⟩ ∧
      MadeOf "-1.0009us.4996us".toList (-1) lossy ∧ exactSum lossy = 1500 + 1 / 2 ∧
      1000 * ((-1 : Int).natAbs : ℚ) - 500 ≤ exactSum lossy ∧
      exactSum lossy <
        1000 * ((-1 : Int).natAbs : ℚ) + 499 + (max (lossy.countP hasFraction) 1 : Nat)) ∧
    parse "-2h.0005ms" = .ok ⟨-7200000001, by decide, by decide⟩ ∧
      MadeOf "-2h.0005ms".toList (-1) halfway ∧ halfway.countP hasFraction ≤ 1 ∧
      -7200000001 = roundHalfAway ((-1 : Int) * exactSum halfway / 1000) := by
  have lossyRead : parse "-1.0009us.4996us" = .ok ⟨-1, by decide, by decide⟩ := by decide +kernel
  have halfwayRead : parse "-2h.0005ms" = .ok ⟨-7200000001, by decide, by decide⟩ := by
    decide +kernel
  have lossyMade : MadeOf "-1.0009us.4996us".toList (-1) lossy := by
    have split : "-1.0009us.4996us".toList = '-' :: lossy.flatMap WrittenComponent.text := by
      decide +kernel
    rw [split]
    exact .negated (List.cons_ne_nil _ _)
  have halfwayMade : MadeOf "-2h.0005ms".toList (-1) halfway := by
    have split : "-2h.0005ms".toList = '-' :: halfway.flatMap WrittenComponent.text := by
      decide +kernel
    rw [split]
    exact .negated (List.cons_ne_nil _ _)
  have single : halfway.countP hasFraction ≤ 1 := by decide
  have exact : exactSum lossy = 1500 + 1 / 2 := by decide +kernel
  obtain ⟨least, most, _⟩ := (parse_accuracy lossyRead).2 _ _ lossyMade
  obtain ⟨_, _, rounded⟩ := (parse_accuracy halfwayRead).2 _ _ halfwayMade
  exact ⟨⟨lossyRead, lossyMade, exact, least, most⟩, halfwayRead, halfwayMade, single,
    rounded single⟩

end ConnString.Duration
