/-!
# Cutting a text at one character

A separator cuts a text once: at its first occurrence (`cut?`) or at its last (`cutLast?`). Each cut
is pinned down by the side on which the separator no longer occurs: `cut?_eq_some_iff` and
`cutLast?_eq_some_iff`. Where there is nothing to cut the separator is absent (`cut?_eq_none_iff`,
`cutLast?_eq_none_iff`).
-/

namespace ConnString.Text

/-- The texts before and after the first separator, or nothing without one. -/
def cut? (separator : Char) : List Char → Option (List Char × List Char)
  | [] => none
  | char :: rest =>
    if char = separator then some ([], rest)
    else (cut? separator rest).map fun parts => (char :: parts.1, parts.2)

/-- The texts before and after the last separator, or nothing without one. -/
def cutLast? (separator : Char) : List Char → Option (List Char × List Char)
  | [] => none
  | char :: rest =>
    match cutLast? separator rest with
    | some parts => some (char :: parts.1, parts.2)
    | none => if char = separator then some ([], rest) else none

/-- The text before the first separator and the text after it, empty without a separator. -/
def cut (separator : Char) (text : List Char) : List Char × List Char :=
  (cut? separator text).getD (text, [])

theorem cut?_eq_none_iff {separator : Char} {text : List Char} :
    cut? separator text = none ↔ separator ∉ text := by
  induction text with
  | nil => simp [cut?]
  | cons char rest step =>
    by_cases same : char = separator
    · simp [cut?, same]
    · simp [cut?, same, step, Ne.symm same]

/-- A cut is made at the first separator. -/
theorem cut?_eq_some_iff {separator : Char} {text before after : List Char} :
    cut? separator text = some (before, after) ↔
      text = before ++ separator :: after ∧ separator ∉ before := by
  induction text generalizing before with
  | nil => simp [cut?]
  | cons char rest step =>
    by_cases same : char = separator
    · subst same
      cases before with
      | nil => simp [cut?]
      | cons first others =>
        simp only [cut?, ↓reduceIte, Option.some.injEq, Prod.mk.injEq, reduceCtorEq, false_and,
          List.cons_append, List.cons.injEq, List.mem_cons, not_or, false_iff]
        rintro ⟨⟨head, _⟩, fresh, _⟩
        exact fresh head
    · cases before with
      | nil => simp [cut?, same]
      | cons first others =>
        simp only [cut?, same, ↓reduceIte, Option.map_eq_some_iff, Prod.mk.injEq, List.cons.injEq,
          List.cons_append, List.mem_cons, not_or]
        constructor
        · rintro ⟨⟨left, right⟩, found, ⟨head, tail⟩, remains⟩
          subst head tail remains
          obtain ⟨whole, fresh⟩ := step.1 found
          exact ⟨⟨rfl, whole⟩, Ne.symm same, fresh⟩
        · rintro ⟨⟨head, whole⟩, _, fresh⟩
          exact ⟨(others, after), step.2 ⟨whole, fresh⟩, ⟨head, rfl⟩, rfl⟩

theorem cutLast?_eq_none_iff {separator : Char} {text : List Char} :
    cutLast? separator text = none ↔ separator ∉ text := by
  induction text with
  | nil => simp [cutLast?]
  | cons char rest step =>
    cases found : cutLast? separator rest with
    | none =>
      have absent := step.1 found
      by_cases same : char = separator
      · simp [cutLast?, found, same]
      · simp [cutLast?, found, same, absent, Ne.symm same]
    | some parts =>
      have present : separator ∈ rest := by
        false_or_by_contra
        simp_all
      simp [cutLast?, found, present]

/-- A last cut is made at the last separator. -/
theorem cutLast?_eq_some_iff {separator : Char} {text before after : List Char} :
    cutLast? separator text = some (before, after) ↔
      text = before ++ separator :: after ∧ separator ∉ after := by
  induction text generalizing before after with
  | nil => simp [cutLast?]
  | cons char rest step =>
    cases found : cutLast? separator rest with
    | none =>
      have absent := cutLast?_eq_none_iff.1 found
      cases before with
      | nil =>
        by_cases same : char = separator
        · subst same
          simp only [cutLast?, found, ↓reduceIte, Option.some.injEq, Prod.mk.injEq, true_and,
            List.nil_append, List.cons.injEq]
          exact ⟨fun remains => ⟨remains, remains ▸ absent⟩, And.left⟩
        · simp [cutLast?, found, same]
      | cons first others =>
        have missing : rest ≠ others ++ separator :: after := by
          intro whole
          simp [whole] at absent
        by_cases same : char = separator <;> simp [cutLast?, found, same, missing]
    | some parts =>
      obtain ⟨left, right⟩ := parts
      obtain ⟨whole, fresh⟩ := step.1 found
      cases before with
      | nil =>
        simp only [cutLast?, found, Option.some.injEq, Prod.mk.injEq, reduceCtorEq, false_and,
          List.nil_append, List.cons.injEq, false_iff]
        rintro ⟨⟨_, remains⟩, absent⟩
        simp [← remains, whole] at absent
      | cons first others =>
        simp only [cutLast?, found, Option.some.injEq, Prod.mk.injEq, List.cons.injEq,
          List.cons_append]
        constructor
        · rintro ⟨⟨head, tail⟩, remains⟩
          subst head tail remains
          exact ⟨⟨rfl, whole⟩, fresh⟩
        · rintro ⟨⟨head, split⟩, absent⟩
          have both := step.2 ⟨split, absent⟩
          rw [found, Option.some.injEq, Prod.mk.injEq] at both
          exact ⟨⟨head, both.1⟩, both.2⟩

/-- Without the separator all of the text stands before it. -/
theorem cut_of_not_mem {separator : Char} {text : List Char} (absent : separator ∉ text) :
    cut separator text = (text, []) := by
  rw [cut, cut?_eq_none_iff.2 absent, Option.getD_none]

/-- A text is cut at its separator if there is none before that. -/
theorem cut_append {separator : Char} {before : List Char} (fresh : separator ∉ before)
    (after : List Char) : cut separator (before ++ separator :: after) = (before, after) := by
  rw [cut, cut?_eq_some_iff.2 ⟨rfl, fresh⟩, Option.getD_some]

end ConnString.Text
