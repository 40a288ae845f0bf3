import ConnString.Proofs.Duration
import Mathlib.Algebra.GroupWithZero.Nat

/-!
# The grammar of durations

A duration is written as a sign before `0` or before components. A component is read at the head of
a text if it is written there and only then (`Component.scan?_text_append`,
`Component.exists_written_of_scan?`): no unit starts with a digit or a point, and the one unit that
starts another, `m`, is never followed by `s`. So reading from the left finds the components of a
text if there are any (`total_eq_ok_iff`), and a text is read exactly if it has the form of a
duration within range (`parse_eq_ok_iff_denotes`).
-/

namespace ConnString

/-! ### Units -/

/-- The ways to write a unit. -/
def TimeUnit.spellings : TimeUnit → List (List Char)
  | nanosecond => [['n', 's']]
  | microsecond => [['u', 's'], ['\u00B5', 's'], ['\u03BC', 's']]
  | millisecond => [['m', 's']]
  | second => [['s']]
  | minute => [['m']]
  | hour => [['h']]

/-- Each spelling of a unit is read as that unit unless an `s` follows: an `m` before it would be
milliseconds. -/
theorem TimeUnit.scan?_append {unit : TimeUnit} {mark rest : List Char}
    (named : mark ∈ unit.spellings) (ended : rest.head? ≠ some 's') :
    TimeUnit.scan? (mark ++ rest) = some (unit, rest) := by
  cases unit with
  | minute =>
      obtain rfl := List.mem_singleton.mp named
      rw [List.singleton_append, TimeUnit.scan?]
      rintro others ⟨⟩
      exact ended rfl
  | microsecond =>
      simp only [spellings, List.mem_cons, List.not_mem_nil, or_false] at named
      rcases named with rfl | rfl | rfl <;> rfl
  | _ =>
      obtain rfl := List.mem_singleton.mp named
      rfl

/-- A unit that is read stands there in one of its spellings. -/
theorem TimeUnit.exists_of_scan? {text rest : List Char} {unit : TimeUnit}
    (scanned : TimeUnit.scan? text = some (unit, rest)) :
    ∃ mark ∈ unit.spellings, text = mark ++ rest := by
  unfold TimeUnit.scan? at scanned
  split at scanned <;> cases scanned <;> simp [spellings]

namespace Duration

/-! ### Components -/

/-- A component as it is written: digits, perhaps a point and digits, at least one of all these, and
a unit. -/
structure WrittenComponent where
  whole : List Char
  /-- The digits after the point, if there is one. -/
  fraction : Option (List Char)
  unit : TimeUnit
  /-- The unit as it is written. -/
  mark : List Char
  numeric : ∀ digit ∈ whole, digit.isDigit
  decimals : ∀ digit ∈ fraction.getD [], digit.isDigit
  present : whole ≠ [] ∨ fraction.getD [] ≠ []
  named : mark ∈ unit.spellings

namespace WrittenComponent

/-- The text of a component. -/
def text (written : WrittenComponent) : List Char :=
  written.whole ++ written.fraction.elim [] ('.' :: ·) ++ written.mark

/-- The parts of a component that count. -/
def component (written : WrittenComponent) : Component :=
  ⟨written.whole, written.fraction.getD [], written.unit⟩

/-- The nanoseconds of a component; a part of a nanosecond is dropped. -/
def nanos (written : WrittenComponent) : Nat :=
  Nat.ofDigitChars 10 written.whole 0 * written.unit.nanos +
    Nat.ofDigitChars 10 (written.fraction.getD []) 0 * written.unit.nanos /
      10 ^ (written.fraction.getD []).length

/-- No run of digits is longer than a number may be. -/
def Short (written : WrittenComponent) : Prop :=
  written.whole.length ≤ digitLimit ∧ (written.fraction.getD []).length ≤ digitLimit

end WrittenComponent

theorem bind_eq_ok_iff {α β : Type} {outcome : Except Fault α} {next : α → Except Fault β}
    {result : β} :
    (outcome >>= next) = .ok result ↔ ∃ value, outcome = .ok value ∧ next value = .ok result := by
  cases outcome with
  | error fault => simp [bind, Except.bind]
  | ok value => simp [bind, Except.bind]

/-- A component has a worth exactly if its runs of digits are short enough. -/
theorem nanos_component_eq_ok_iff {written : WrittenComponent} {value : Nat} :
    written.component.nanos = .ok value ↔ written.Short ∧ written.nanos = value := by
  simp only [Component.nanos, bind_eq_ok_iff, number_eq_ok_iff]
  constructor
  · rintro ⟨_, ⟨whole, rfl⟩, _, ⟨fraction, rfl⟩, summed⟩
    exact ⟨⟨whole, fraction⟩, Except.ok.inj summed⟩
  · rintro ⟨⟨whole, fraction⟩, rfl⟩
    exact ⟨_, ⟨whole, rfl⟩, _, ⟨fraction, rfl⟩, rfl⟩

namespace Component

/-- A component that is written at the head of a text is read there, unless the text after it turns
its `m` into `ms`. -/
theorem scan?_text_append (written : WrittenComponent) {rest : List Char}
    (ended : rest.head? ≠ some 's') :
    scan? (written.text ++ rest) = some (written.component, rest) := by
  rw [WrittenComponent.text, List.append_assoc]
  exact scan?_append written.numeric written.decimals written.present
    (TimeUnit.scan?_append written.named ended)

/-- What stands before the text after a fraction is nothing, or a point and the digits. -/
theorem exists_fraction (text : List Char) :
    ∃ fraction : Option (List Char), fraction.getD [] = (scanFraction text).1 ∧
      (∀ digit ∈ fraction.getD [], digit.isDigit) ∧
      text = fraction.elim [] ('.' :: ·) ++ (scanFraction text).2 := by
  unfold scanFraction
  split
  · next rest =>
    refine ⟨some (rest.takeWhile Char.isDigit), rfl, List.all_eq_true.mp List.all_takeWhile, ?_⟩
    rw [Option.elim_some, List.cons_append, List.takeWhile_append_dropWhile]
  · exact ⟨none, rfl, List.forall_mem_nil _, rfl⟩

/-- What is read at the head of a text is written there. -/
theorem exists_written_of_scan? {text rest : List Char} {component : Component}
    (scanned : scan? text = some (component, rest)) :
    ∃ written : WrittenComponent, written.component = component ∧ text = written.text ++ rest := by
  simp only [scan?] at scanned
  split at scanned
  case h_2 => cases scanned
  next unit remains found =>
  split at scanned
  case isTrue => cases scanned
  next filled =>
  cases scanned
  obtain ⟨mark, named, marked⟩ := TimeUnit.exists_of_scan? found
  obtain ⟨fraction, digits, decimals, point⟩ := exists_fraction (text.dropWhile Char.isDigit)
  have present : text.takeWhile Char.isDigit ≠ [] ∨ fraction.getD [] ≠ [] := by
    rw [← digits, Bool.not_eq_true, Bool.and_eq_false_iff, List.isEmpty_eq_false_iff,
      List.isEmpty_eq_false_iff] at filled
    exact filled
  refine ⟨⟨text.takeWhile Char.isDigit, fraction, unit, mark,
    List.all_eq_true.mp List.all_takeWhile, decimals, present, named⟩, ?_, ?_⟩
  · rw [WrittenComponent.component, digits]
  · rw [marked] at point
    rw [WrittenComponent.text, List.append_assoc, List.append_assoc, ← point,
      List.takeWhile_append_dropWhile]

end Component

/-- A sum of a text that is not empty comes from its first component and from the rest. -/
theorem exists_of_total {text : List Char} (present : text ≠ []) {nanos : Nat}
    (summed : total text = .ok nanos) :
    ∃ component rest first others, Component.scan? text = some (component, rest) ∧
      component.nanos = .ok first ∧ total rest = .ok others ∧ first + others = nanos := by
  rw [total, List.isEmpty_eq_false_iff.mpr present] at summed
  simp only [Bool.false_eq_true, ↓reduceIte] at summed
  split at summed
  · cases summed
  · next component rest scanned =>
    obtain ⟨first, here, later⟩ := bind_eq_ok_iff.mp summed
    obtain ⟨others, there, sum⟩ := bind_eq_ok_iff.mp later
    exact ⟨component, rest, first, others, scanned, here, there, Except.ok.inj sum⟩

/-! ### Sums of components -/

/-- A component starts with a digit or a point. -/
theorem exists_head_text (written : WrittenComponent) :
    ∃ first others, written.text = first :: others ∧ (first.isDigit ∨ first = '.') := by
  rw [WrittenComponent.text]
  cases whole : written.whole with
  | cons first others =>
      have numeric := written.numeric first (whole ▸ List.mem_cons_self)
      exact ⟨first, _, rfl, .inl numeric⟩
  | nil =>
      have present := written.present.resolve_left fun filled => filled whole
      cases fraction : written.fraction with
      | none =>
          rw [fraction] at present
          exact absurd rfl present
      | some digits => exact ⟨'.', _, rfl, .inr rfl⟩

/-- Components start with a digit or a point. -/
theorem head?_flatMap_text_ne (written : List WrittenComponent) (other : Char)
    (noDigit : other.isDigit = false) (noPoint : other ≠ '.') :
    (written.flatMap WrittenComponent.text).head? ≠ some other := by
  cases written with
  | nil => exact Option.some_ne_none other |>.symm
  | cons component more =>
      obtain ⟨first, others, split, start⟩ := exists_head_text component
      rw [List.flatMap_cons, split]
      rintro ⟨⟩
      rcases start with digit | rfl
      · exact absurd digit (Bool.eq_false_iff.mp noDigit)
      · exact noPoint rfl

/-- The components that a text is made of are summed, unless one of them has too many digits. -/
theorem total_flatMap_text_eq_ok_iff {written : List WrittenComponent} {nanos : Nat} :
    total (written.flatMap WrittenComponent.text) = .ok nanos ↔
      (∀ component ∈ written, component.Short) ∧
        (written.map WrittenComponent.nanos).sum = nanos := by
  induction written generalizing nanos with
  | nil =>
      rw [List.flatMap_nil, total_nil, Except.ok.injEq]
      exact ⟨fun same => ⟨List.forall_mem_nil _, same⟩, And.right⟩
  | cons component others ih =>
      have scanned := Component.scan?_text_append component
        (head?_flatMap_text_ne others 's' (by decide) (by decide))
      rw [List.flatMap_cons, List.forall_mem_cons]
      constructor
      · intro summed
        have present : component.text ++ others.flatMap WrittenComponent.text ≠ [] := by
          obtain ⟨first, rest, split, _⟩ := exists_head_text component
          rw [split, List.cons_append]
          exact List.cons_ne_nil _ _
        obtain ⟨_, _, first, more, again, here, there, sum⟩ := exists_of_total present summed
        obtain ⟨rfl, rfl⟩ := Prod.mk.inj (Option.some.inj (scanned.symm.trans again))
        obtain ⟨short, rfl⟩ := nanos_component_eq_ok_iff.mp here
        obtain ⟨few, rfl⟩ := ih.mp there
        exact ⟨⟨short, few⟩, sum⟩
      · rintro ⟨⟨short, few⟩, rfl⟩
        exact total_of_scan? scanned (nanos_component_eq_ok_iff.mpr ⟨short, rfl⟩)
          (ih.mpr ⟨few, rfl⟩)

/-- The sum of a text is that of the components it is made of, if there are any such. -/
theorem total_eq_ok_iff {text : List Char} {nanos : Nat} :
    total text = .ok nanos ↔
      ∃ written : List WrittenComponent, text = written.flatMap WrittenComponent.text ∧
        (∀ component ∈ written, component.Short) ∧
        (written.map WrittenComponent.nanos).sum = nanos := by
  constructor
  · intro summed
    induction text using total.induct generalizing nanos with
    | case1 text empty =>
        obtain rfl := List.isEmpty_iff.mp empty
        rw [total_nil, Except.ok.injEq] at summed
        exact ⟨[], rfl, List.forall_mem_nil _, summed⟩
    | case2 text present unread =>
        obtain ⟨_, _, _, _, scanned, _⟩ := exists_of_total (mt List.isEmpty_iff.mpr present) summed
        cases unread.symm.trans scanned
    | case3 text present component rest scanned _ ih =>
        obtain ⟨_, _, first, others, again, here, there, sum⟩ :=
          exists_of_total (mt List.isEmpty_iff.mpr present) summed
        obtain ⟨rfl, rfl⟩ := Prod.mk.inj (Option.some.inj (scanned.symm.trans again))
        obtain ⟨written, rfl, rfl⟩ := Component.exists_written_of_scan? scanned
        obtain ⟨short, rfl⟩ := nanos_component_eq_ok_iff.mp here
        obtain ⟨more, rfl, few, rfl⟩ := ih there
        exact ⟨written :: more, rfl, List.forall_mem_cons.mpr ⟨short, few⟩, sum⟩
  · rintro ⟨written, rfl, summed⟩
    exact total_flatMap_text_eq_ok_iff.mpr summed

/-! ### Signs and whole texts -/

/-- The signs before a duration with their factors. -/
def signs : List (List Char × Int) := [([], 1), (['+'], 1), (['-'], -1)]

/-- The microseconds that a text writes, within the range of durations or not: none for a zero, and
else the sum of the components, rounded to the nearest, halves away from zero. -/
inductive Denotes : List Char → Int → Prop
  | zero {sign : List Char × Int} (signed : sign ∈ signs) : Denotes (sign.1 ++ ['0']) 0
  | sum {sign : List Char × Int} {written : List WrittenComponent} (signed : sign ∈ signs)
      (present : written ≠ []) (short : ∀ component ∈ written, component.Short) :
      Denotes (sign.1 ++ written.flatMap WrittenComponent.text)
        (sign.2 * (((written.map WrittenComponent.nanos).sum + 500) / 1000 : Nat))

/-- A text is a sign, which may be nothing, and the rest that is read. -/
theorem exists_sign (text : List Char) :
    ∃ sign ∈ signs, text = sign.1 ++ (scanSign text).2 ∧
      ∀ micros : Int, (if (scanSign text).1 then -micros else micros) = sign.2 * micros := by
  unfold scanSign
  split
  · exact ⟨(['-'], -1), by decide, rfl, fun micros => by simp⟩
  · exact ⟨(['+'], 1), by decide, rfl, fun micros => by simp⟩
  · exact ⟨([], 1), by decide, rfl, fun micros => by simp⟩

/-- A sign before what starts with none is read with its factor. -/
theorem scanSign_append {sign : List Char × Int} (signed : sign ∈ signs) (body : List Char)
    (noPlus : body.head? ≠ some '+') (noMinus : body.head? ≠ some '-') :
    (scanSign (sign.1 ++ body)).2 = body ∧
      ∀ micros : Int,
        (if (scanSign (sign.1 ++ body)).1 then -micros else micros) = sign.2 * micros := by
  simp only [signs, List.mem_cons, List.not_mem_nil, or_false] at signed
  rcases signed with rfl | rfl | rfl
  · have unsigned : scanSign body = (false, body) := by
      unfold scanSign
      split
      · exact absurd rfl noMinus
      · exact absurd rfl noPlus
      · rfl
    rw [List.nil_append, unsigned]
    exact ⟨rfl, fun micros => by simp⟩
  · exact ⟨rfl, fun micros => by simp [scanSign]⟩
  · exact ⟨rfl, fun micros => by simp [scanSign]⟩

theorem ofMicros?_eq_some_iff {micros : Int} {duration : Duration} :
    ofMicros? micros = some duration ↔ duration.micros = micros := by
  constructor
  · intro found
    rw [ofMicros?] at found
    split at found
    · cases found
      rfl
    · cases found
  · rintro rfl
    exact ofMicros?_micros duration

/-- A sum of components is neither empty nor a zero. -/
theorem flatMap_text_ne {written : List WrittenComponent} (present : written ≠ []) :
    written.flatMap WrittenComponent.text ≠ ['0'] ∧ written.flatMap WrittenComponent.text ≠ [] := by
  cases written with
  | nil => exact absurd rfl present
  | cons component others =>
      have scanned := Component.scan?_text_append component
        (head?_flatMap_text_ne others 's' (by decide) (by decide))
      rw [← List.flatMap_cons] at scanned
      -- Neither text is read as a component.
      refine ⟨fun same => ?_, fun same => ?_⟩
      all_goals
        rw [same] at scanned
        cases scanned

/-- A sign before components is read as their sum with the sign, rounded to microseconds. -/
theorem read_sum_eq_ok_iff {sign : List Char × Int} (signed : sign ∈ signs)
    {written : List WrittenComponent} (present : written ≠ []) {duration : Duration} :
    read (sign.1 ++ written.flatMap WrittenComponent.text) = .ok duration ↔
      (∀ component ∈ written, component.Short) ∧
        duration.micros =
          sign.2 * (((written.map WrittenComponent.nanos).sum + 500) / 1000 : Nat) := by
  obtain ⟨body, factor⟩ := scanSign_append signed _
    (head?_flatMap_text_ne written '+' (by decide) (by decide))
    (head?_flatMap_text_ne written '-' (by decide) (by decide))
  obtain ⟨notZero, notEmpty⟩ := flatMap_text_ne present
  simp only [read, body, notZero, notEmpty, ↓reduceIte, factor, bind_eq_ok_iff,
    total_flatMap_text_eq_ok_iff, roundToMicros]
  constructor
  · rintro ⟨_, ⟨short, rfl⟩, rounded⟩
    split at rounded
    · next inside found =>
      cases rounded
      exact ⟨short, ofMicros?_eq_some_iff.mp found⟩
    · cases rounded
  · rintro ⟨short, micros⟩
    refine ⟨_, ⟨short, rfl⟩, ?_⟩
    rw [ofMicros?_eq_some_iff.mpr micros]
    rfl

/-- A zero without a unit is no time, whatever its sign. -/
theorem read_zero {sign : List Char × Int} (signed : sign ∈ signs) :
    read (sign.1 ++ ['0']) = .ok zero := by
  obtain ⟨body, _⟩ := scanSign_append signed ['0'] (by decide) (by decide)
  simp only [read, body, ↓reduceIte]

/-- A text that is read as a duration denotes its microseconds. -/
theorem denotes_of_read {text : List Char} {duration : Duration}
    (accepted : read text = .ok duration) :
    Denotes text duration.micros := by
  obtain ⟨sign, signed, split, _⟩ := exists_sign text
  have body := accepted
  simp only [read] at body
  rw [split] at accepted ⊢
  generalize (scanSign text).2 = unsigned at *
  split at body
  · next zero =>
    cases body
    rw [zero]
    exact .zero signed
  split at body
  · cases body
  next filled =>
  obtain ⟨nanos, summed, _⟩ := bind_eq_ok_iff.mp body
  obtain ⟨written, rfl, _⟩ := total_eq_ok_iff.mp summed
  have present : written ≠ [] := by
    rintro rfl
    exact filled rfl
  obtain ⟨short, micros⟩ := (read_sum_eq_ok_iff signed present).mp accepted
  rw [micros]
  exact .sum signed present short

/-- A text that denotes microseconds within the range is read as that duration. -/
theorem read_of_denotes {text : List Char} {micros : Int} (denotes : Denotes text micros)
    {duration : Duration} (same : duration.micros = micros) : read text = .ok duration := by
  cases denotes with
  | zero signed =>
      rw [read_zero signed]
      exact congrArg Except.ok (ext same.symm)
  | sum signed present short => exact (read_sum_eq_ok_iff signed present).mpr ⟨short, same⟩

/-- A text is read as a duration exactly if it has the form of one and writes its microseconds; it
is refused exactly if it has not that form or writes a number that no duration holds. -/
theorem parse_eq_ok_iff_denotes (text : String) :
    (∀ duration, parse text = .ok duration ↔ Denotes text.toList duration.micros) ∧
      ((∃ fault, parse text = .error fault) ↔
        ¬∃ micros, Denotes text.toList micros ∧ least ≤ micros ∧ micros ≤ greatest) := by
  have accepts : ∀ duration, parse text = .ok duration ↔ Denotes text.toList duration.micros :=
    fun duration => ⟨denotes_of_read, fun denotes => read_of_denotes denotes rfl⟩
  refine ⟨accepts, ?_⟩
  constructor
  · rintro ⟨fault, refused⟩ ⟨micros, denotes, above, below⟩
    cases refused.symm.trans ((accepts ⟨micros, above, below⟩).mpr denotes)
  · intro none
    cases outcome : parse text with
    | error fault => exact ⟨fault, rfl⟩
    | ok duration =>
        exact absurd
          ⟨_, (accepts duration).mp outcome, duration.least_le, duration.le_greatest⟩ none

end Duration

end ConnString
