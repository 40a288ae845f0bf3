import ConnString.Location.Tzdata
import ConnString.Proofs.Regular

/-!
# What follows an endpoint

Options and a fragment start at the first `?` or `#` of a text. The text before that mark decides
alone where a reference is split and what is wrong with it: adding a tail changes nothing but the
query (`Reference.exists_read_append`). So two texts that differ only in their tails are both
malformed in the same way or describe the same endpoint (`Config.malformed_or_endpoint_append`).
-/

namespace ConnString

open Text

/-- The text after an endpoint: nothing, or options and a fragment without control characters. -/
structure IsTail (text : List Char) : Prop where
  start : ∀ char, text.head? = some char → char = '?' ∨ char = '#'
  plain : text.any isControl = false

/-- Taking and dropping stop before a text whose first character stops them. -/
theorem takeWhile_dropWhile_append {p : Char → Bool} {back : List Char}
    (stops : ∀ char, back.head? = some char → p char = false) (front : List Char) :
    (front ++ back).takeWhile p = front.takeWhile p ∧
      (front ++ back).dropWhile p = front.dropWhile p ++ back := by
  induction front with
  | nil =>
      cases back with
      | nil => exact ⟨rfl, rfl⟩
      | cons first rest =>
          have stop : ¬ p first = true := by
            rw [stops first rfl]
            exact Bool.false_ne_true
          exact ⟨List.takeWhile_cons_of_neg stop, List.dropWhile_cons_of_neg stop⟩
  | cons char rest ih =>
      by_cases passed : p char = true
      · simp only [List.cons_append, List.takeWhile_cons_of_pos passed,
          List.dropWhile_cons_of_pos passed, ih, and_self]
      · simp only [List.cons_append, List.takeWhile_cons_of_neg passed,
          List.dropWhile_cons_of_neg passed, and_self]

namespace Reference

section

variable {front back : List Char} (start : ∀ char, back.head? = some char → char = '?' ∨ char = '#')

include start

/-- A tail starts with a question mark or a hash sign, if it starts at all. -/
theorem head?_ne {char : Char} (notQuery : char ≠ '?') (notFragment : char ≠ '#') :
    back.head? ≠ some char :=
  fun first => (start char first).elim notQuery notFragment

/-- A text after `?` or `#` is a query and a fragment. -/
theorem exists_tail_eq :
    ∃ query fragment, tail query fragment = back ∧ ∀ text ∈ query, '#' ∉ text := by
  cases back with
  | nil => exact ⟨none, none, rfl, fun _ absent => by cases absent⟩
  | cons first rest =>
      rcases start first rfl with rfl | rfl
      · cases found : cut? '#' rest with
        | none =>
            refine ⟨some rest, none, by simp [tail], ?_⟩
            rintro _ ⟨⟩
            exact cut?_eq_none_iff.mp found
        | some sides =>
            obtain ⟨query, fragment⟩ := sides
            obtain ⟨rfl, fresh⟩ := cut?_eq_some_iff.mp found
            refine ⟨some query, some fragment, by simp [tail], ?_⟩
            rintro _ ⟨⟩
            exact fresh
      · exact ⟨none, some rest, rfl, fun _ absent => by cases absent⟩

/-- Blanks at the front of a text are none of its tail. -/
theorem dropWhile_blank_append :
    (front ++ back).dropWhile (fun char => decide (char ≤ ' ')) =
      front.dropWhile (fun char => decide (char ≤ ' ')) ++ back := by
  refine (takeWhile_dropWhile_append (fun char first => ?_) front).2
  rcases start char first with rfl | rfl <;> decide

/-- A colon in the tail ends no scheme: the tail starts with what no scheme may hold. -/
theorem isScheme_eq_false_of_append {before after : List Char} (absent : ':' ∉ front)
    (whole : front ++ back = before ++ ':' :: after) : isScheme before = false := by
  have noColon : back.head? ≠ some ':' := head?_ne start (by decide) (by decide)
  -- The colon is in the tail and not its first character, which stands before the colon then.
  rcases List.append_eq_append_iff.mp whole with ⟨more, rfl, rest⟩ | ⟨more, rfl, rest⟩
  · cases more with
    | nil => exact absurd (by rw [rest]; rfl) noColon
    | cons mark others =>
        refine Bool.eq_false_iff.mpr fun named => ?_
        have kept := isSchemeChar_of_isScheme named
          (List.mem_append_right front List.mem_cons_self)
        rcases start mark (by rw [rest]; rfl) with rfl | rfl <;> exact absurd kept (by decide)
  · cases more with
    | nil => exact absurd (by rw [← List.nil_append back, ← rest]; rfl) noColon
    | cons colon others =>
        cases rest
        exact absurd (List.mem_append_right before List.mem_cons_self) absent

/-- A colon after `?` or `#` ends no scheme. -/
theorem splitScheme_append_tail :
    splitScheme (front ++ back) = ((splitScheme front).1, (splitScheme front).2 ++ back) := by
  cases found : cut? ':' front with
  | some sides =>
      obtain ⟨before, after⟩ := sides
      obtain ⟨rfl, fresh⟩ := cut?_eq_some_iff.mp found
      have whole : cut? ':' (before ++ ':' :: after ++ back) = some (before, after ++ back) :=
        cut?_eq_some_iff.mpr ⟨by simp, fresh⟩
      simp only [splitScheme, found, whole]
      split <;> rfl
  | none =>
      have alone : splitScheme front = ([], front) := by rw [splitScheme, found]
      rw [alone, splitScheme]
      cases later : cut? ':' (front ++ back) with
      | none => rfl
      | some sides =>
          have unnamed := isScheme_eq_false_of_append start (cut?_eq_none_iff.mp found)
            (cut?_eq_some_iff.mp later).1
          simp only [unnamed, Bool.false_eq_true, ↓reduceIte]

/-- The tail is no part of the authority. -/
theorem splitAuthority_append_tail :
    splitAuthority (front ++ back) =
      ((splitAuthority front).1, (splitAuthority front).2 ++ back) := by
  have noSlash : ∀ rest, back ≠ '/' :: rest := by
    rintro rest rfl
    exact head?_ne start (by decide) (by decide) rfl
  have stops : ∀ char, back.head? = some char → (!endsAuthority char) = false := by
    intro char first
    rcases start char first with rfl | rfl <;> decide
  have alone : ∀ {text : List Char}, (∀ rest, text ≠ '/' :: '/' :: rest) →
      splitAuthority text = ([], text) := by
    intro text single
    unfold splitAuthority
    split
    · next rest => exact absurd rfl (single rest)
    · rfl
  by_cases double : ∃ rest, front = '/' :: '/' :: rest
  · obtain ⟨rest, rfl⟩ := double
    obtain ⟨taken, dropped⟩ := takeWhile_dropWhile_append stops rest
    simp only [List.cons_append, splitAuthority, taken, dropped]
  · have single : ∀ rest, front ≠ '/' :: '/' :: rest := fun rest same => double ⟨rest, same⟩
    rw [alone single, alone]
    intro rest same
    rcases front with _ | ⟨first, _ | ⟨second, others⟩⟩
    · exact noSlash _ same
    · cases same
      exact noSlash rest rfl
    · cases same
      exact single others rfl

end

/-- What follows a scheme is the end of the text. -/
theorem splitScheme_suffix (text : List Char) : (splitScheme text).2 <:+ text := by
  rw [splitScheme]
  split
  · next before after found =>
    split
    · exact ⟨before ++ [':'], by rw [(cut?_eq_some_iff.mp found).1]; simp⟩
    · exact List.suffix_refl _
  · exact List.suffix_refl _

theorem splitAuthority_suffix (text : List Char) : (splitAuthority text).2 <:+ text := by
  unfold splitAuthority
  split
  · next rest =>
    exact (List.dropWhile_suffix _).trans ((List.suffix_cons _ _).trans (List.suffix_cons _ _))
  · exact List.suffix_refl _

/-- Adding a tail to a text changes nothing but the query of its reference. -/
theorem split_append_tail {front : List Char} (noQuery : '?' ∉ front) (noFragment : '#' ∉ front)
    {query : Option (List Char)} (plain : ∀ text ∈ query, '#' ∉ text)
    (fragment : Option (List Char)) :
    split (front ++ tail query fragment) = { split front with query := query.getD [] } := by
  have start : ∀ char, (tail query fragment).head? = some char → char = '?' ∨ char = '#' := by
    intro char first
    cases query <;> cases fragment <;> cases first <;> decide
  have inside : (splitAuthority (splitScheme
      (front.dropWhile fun char => decide (char ≤ ' '))).2).2 ⊆ front :=
    ((splitAuthority_suffix _).trans
      ((splitScheme_suffix _).trans (List.dropWhile_suffix _))).subset
  have unmarked : '?' ∉ _ := fun member => noQuery (inside member)
  have unhashed : '#' ∉ _ := fun member => noFragment (inside member)
  have added := cut_tail unmarked unhashed plain fragment
  simp only [split, dropWhile_blank_append start, splitScheme_append_tail start,
    splitAuthority_append_tail start, added, cut_of_not_mem unhashed, cut_of_not_mem unmarked]

/-- A tail changes no fault of a text. -/
theorem textFault?_append {front text : List Char} (tail : IsTail text) :
    textFault? (front ++ text) = textFault? front := by
  have first : (front ++ text).head? = some ':' ↔ front.head? = some ':' := by
    cases front with
    | cons char rest => rfl
    | nil =>
        refine ⟨fun colon => ?_, fun colon => by cases colon⟩
        exact absurd colon (head?_ne tail.start (by decide) (by decide))
  simp only [textFault?, List.any_append, tail.plain, Bool.or_false, first]

/-- Adding a query and a fragment to a text changes nothing but the query that is read. -/
theorem read_append_tail {front : List Char} (noQuery : '?' ∉ front) (noFragment : '#' ∉ front)
    {query : Option (List Char)} (plain : ∀ text ∈ query, '#' ∉ text)
    {fragment : Option (List Char)} (isTail : IsTail (tail query fragment)) :
    read (front ++ tail query fragment) =
      (read front).map fun reference => { reference with query := query.getD [] } := by
  have same : fault? { split front with query := query.getD [] } = fault? (split front) := rfl
  rw [read, read, textFault?_append isTail, split_append_tail noQuery noFragment plain, same]
  split <;> rfl

/-- Adding a tail to a text changes nothing but the query that is read. -/
theorem exists_read_append {front text : List Char} (noQuery : '?' ∉ front)
    (noFragment : '#' ∉ front) (isTail : IsTail text) :
    ∃ query, read (front ++ text) =
      (read front).map fun reference => { reference with query := query } := by
  obtain ⟨query, fragment, rfl, plain⟩ := exists_tail_eq isTail.start
  exact ⟨query.getD [], read_append_tail noQuery noFragment plain isTail⟩

end Reference

namespace Config

variable [ZoneDatabase]

/-- Options leave the endpoint as it is. -/
theorem toEndpoint_of_ofReference {reference : Reference} {config : Config}
    (applied : ofReference reference = .ok config) : config.toEndpoint = reference.endpoint := by
  rw [ofReference, applied_eq_applyPairs] at applied
  exact toEndpoint_applyPairs applied

section

variable {front text : String} (noQuery : '?' ∉ front.toList) (noFragment : '#' ∉ front.toList)
  (isTail : IsTail text.toList)

include noQuery noFragment isTail

/-- A text that cannot be read cannot be read with a tail either, for the same cause. -/
theorem ofDsn_append_of_error {cause : Malformation}
    (malformed : Reference.read front.toList = .error cause) :
    ofDsn (front ++ text) = .error (.malformed (some (front ++ text)) cause) := by
  obtain ⟨query, whole⟩ := Reference.exists_read_append noQuery noFragment isTail
  rw [malformed] at whole
  simp only [ofDsn, String.toList_append, whole, Except.map]

/-- A text that can be read is not malformed with a tail, and its endpoint stays. -/
theorem ofDsn_append_of_ok {reference : Reference}
    (read : Reference.read front.toList = .ok reference) :
    (∀ dsn cause, ofDsn (front ++ text) ≠ .error (.malformed dsn cause)) ∧
      ∀ config, ofDsn (front ++ text) = .ok config → config.toEndpoint = reference.endpoint := by
  obtain ⟨query, whole⟩ := Reference.exists_read_append noQuery noFragment isTail
  rw [read] at whole
  simp only [ofDsn, String.toList_append, whole, Except.map]
  cases applied : ofReference { reference with query := query } with
  | error error =>
      refine ⟨?_, ?_⟩
      · rintro _ _ ⟨⟩
      · rintro _ ⟨⟩
  | ok result =>
      refine ⟨?_, ?_⟩
      · rintro _ _ ⟨⟩
      · rintro _ ⟨⟩
        rw [toEndpoint_of_ofReference applied]
        rfl

end

/-- Two texts that differ only in their tails are malformed for the same reason, or neither is
malformed and the configurations that they describe have the same endpoint. -/
theorem malformed_or_endpoint_append {front left right : String} (noQuery : '?' ∉ front.toList)
    (noFragment : '#' ∉ front.toList) (leftTail : IsTail left.toList)
    (rightTail : IsTail right.toList) :
    (∃ cause, ofDsn (front ++ left) = .error (.malformed (some (front ++ left)) cause) ∧
      ofDsn (front ++ right) = .error (.malformed (some (front ++ right)) cause)) ∨
    (∀ dsn cause, ofDsn (front ++ left) ≠ .error (.malformed dsn cause)) ∧
      (∀ dsn cause, ofDsn (front ++ right) ≠ .error (.malformed dsn cause)) ∧
      ∀ one other, ofDsn (front ++ left) = .ok one → ofDsn (front ++ right) = .ok other →
        one.toEndpoint = other.toEndpoint := by
  cases read : Reference.read front.toList with
  | error cause =>
      exact .inl ⟨cause, ofDsn_append_of_error noQuery noFragment leftTail read,
        ofDsn_append_of_error noQuery noFragment rightTail read⟩
  | ok reference =>
      obtain ⟨leftSound, leftEndpoint⟩ := ofDsn_append_of_ok noQuery noFragment leftTail read
      obtain ⟨rightSound, rightEndpoint⟩ := ofDsn_append_of_ok noQuery noFragment rightTail read
      refine .inr ⟨leftSound, rightSound, fun one other leftRead rightRead => ?_⟩
      rw [leftEndpoint one leftRead, rightEndpoint other rightRead]

end Config

open scoped Tzdata

/-- A text before its tail. -/
def bareText : String := "Ch://u:p%3A@[::1]:9000/d%20b"

/-- A tail with separators, brackets and a bad escape in its options. -/
def optionTail : String := "?timeout=7s&x=//a:b@[c%zz#["

/-- A tail that is a fragment with a character whose compatibility form is a delimiter. -/
def fragmentTail : String := "#:@\uFF1F"

/-- Separators, brackets and a bad escape in one tail, a hidden delimiter in the other. -/
theorem Config.malformed_or_endpoint_append_delimiters :
    '?' ∉ bareText.toList ∧ '#' ∉ bareText.toList ∧ IsTail optionTail.toList ∧
      IsTail fragmentTail.toList ∧ (∃ config, ofDsn (bareText ++ optionTail) = .ok config) ∧
      ((∃ cause,
        ofDsn (bareText ++ optionTail) = .error (.malformed (some (bareText ++ optionTail)) cause) ∧
        ofDsn (bareText ++ fragmentTail) =
          .error (.malformed (some (bareText ++ fragmentTail)) cause)) ∨
      (∀ dsn cause, ofDsn (bareText ++ optionTail) ≠ .error (.malformed dsn cause)) ∧
        (∀ dsn cause, ofDsn (bareText ++ fragmentTail) ≠ .error (.malformed dsn cause)) ∧
        ∀ one other, ofDsn (bareText ++ optionTail) = .ok one →
          ofDsn (bareText ++ fragmentTail) = .ok other → one.toEndpoint = other.toEndpoint) := by
  have noQuery : '?' ∉ bareText.toList := by decide
  have noFragment : '#' ∉ bareText.toList := by decide
  have options : IsTail optionTail.toList :=
    ⟨fun char first => .inl (by simpa [optionTail] using first.symm), by decide⟩
  have fragment : IsTail fragmentTail.toList :=
    ⟨fun char first => .inr (by simpa [fragmentTail] using first.symm), by decide⟩
  have accepted : ofDsn (bareText ++ optionTail) =
      .ok { toEndpoint := ⟨"ch", "u", "p:", "[::1]:9000", "d b"⟩
            timeout := ⟨7000000, by decide, by decide⟩
            params := some (.ofList [("x", "//a:b@[c%zz")]) } := by
    decide +kernel
  exact ⟨noQuery, noFragment, options, fragment, ⟨_, accepted⟩,
    malformed_or_endpoint_append noQuery noFragment options fragment⟩

end ConnString
