import ConnString.Proofs.Alphabet

/-!
# References put together and split

A scheme, an authority, a path, a query and a fragment can be joined to a text in one way only:
splitting the text finds the parts where none of them holds a character that ends it
(`split_append`). The scheme of any reference is empty or in small letters (`scheme_split`).
-/

namespace ConnString.Reference

open Text

/-! ### Schemes -/

/-- Whether a text is a scheme in small letters: a letter, then letters, digits, `+`, `.` and `-`.
-/
def isSmallScheme : List Char → Bool
  | [] => false
  | first :: rest => first.isLower && rest.all isSmallSchemeChar

theorem isSmallSchemeChar_of_isSmallScheme {scheme : List Char} (small : isSmallScheme scheme)
    {char : Char} (member : char ∈ scheme) : isSmallSchemeChar char := by
  cases scheme with
  | nil => cases small
  | cons first rest =>
      rw [isSmallScheme, Bool.and_eq_true, List.all_eq_true] at small
      rcases List.mem_cons.mp member with rfl | later
      · rw [isSmallSchemeChar, small.1, Bool.true_or, Bool.true_or]
      · exact small.2 char later

theorem isSchemeChar_of_isScheme {scheme : List Char} (named : isScheme scheme) {char : Char}
    (member : char ∈ scheme) : isSchemeChar char := by
  cases scheme with
  | nil => cases named
  | cons first rest =>
      rw [isScheme, Bool.and_eq_true, List.all_eq_true] at named
      rcases List.mem_cons.mp member with rfl | later
      · rw [isSchemeChar, Char.isAlphanum, named.1, Bool.true_or, Bool.true_or]
      · exact named.2 char later

theorem isScheme_of_isSmallScheme {scheme : List Char} (small : isSmallScheme scheme) :
    isScheme scheme := by
  cases scheme with
  | nil => cases small
  | cons first rest =>
      rw [isSmallScheme, Bool.and_eq_true, List.all_eq_true] at small
      have letter : first.isAlpha := Bool.or_eq_true_iff.mpr (.inr small.1)
      rw [isScheme, letter, Bool.true_and, List.all_eq_true]
      exact fun char member => isSchemeChar_of_isSmallSchemeChar (small.2 char member)

theorem map_toLower_of_isSmallScheme {scheme : List Char} (small : isSmallScheme scheme) :
    scheme.map Char.toLower = scheme := by
  refine (List.map_congr_left fun char member => ?_).trans (List.map_id _)
  exact toLower_of_isSmallSchemeChar (isSmallSchemeChar_of_isSmallScheme small member)

theorem isSmallScheme_map_toLower {scheme : List Char} (named : isScheme scheme) :
    isSmallScheme (scheme.map Char.toLower) := by
  cases scheme with
  | nil => cases named
  | cons first rest =>
      rw [isScheme, Bool.and_eq_true, List.all_eq_true] at named
      rw [List.map_cons, isSmallScheme, isLower_toLower named.1, Bool.true_and, List.all_map,
        List.all_eq_true]
      exact fun char member => isSmallSchemeChar_toLower (named.2 char member)

/-- A scheme before a colon is split off, in small letters. -/
theorem splitScheme_append {scheme : List Char} (named : isScheme scheme) (rest : List Char) :
    splitScheme (scheme ++ ':' :: rest) = (scheme.map Char.toLower, rest) := by
  have fresh : ':' ∉ scheme := fun member =>
    (visible_of_isSchemeChar (isSchemeChar_of_isScheme named member)).2.1 rfl
  rw [splitScheme, cut?_eq_some_iff.mpr ⟨rfl, fresh⟩]
  simp only [named, ↓reduceIte]

/-- What is split off as a scheme is nothing or a scheme in small letters. -/
theorem scheme_splitScheme (text : List Char) :
    (splitScheme text).1 = [] ∨ isSmallScheme (splitScheme text).1 := by
  rw [splitScheme]
  split
  · split
    · next named => exact .inr (isSmallScheme_map_toLower named)
    · exact .inl rfl
  · exact .inl rfl

theorem scheme_split (text : List Char) :
    (split text).scheme = [] ∨ isSmallScheme (split text).scheme :=
  scheme_splitScheme _

/-- Nothing is dropped before a scheme. -/
theorem dropWhile_scheme_append {scheme : List Char} (named : isScheme scheme) (rest : List Char) :
    (scheme ++ rest).dropWhile (fun char => decide (char ≤ ' ')) = scheme ++ rest := by
  cases scheme with
  | nil => cases named
  | cons first others =>
      have visible := (visible_of_isSchemeChar
        (isSchemeChar_of_isScheme named List.mem_cons_self)).1
      rw [List.cons_append, List.dropWhile_cons_of_neg (by simpa using visible)]

/-- What follows `//` after a scheme is the authority up to its end, then path, query and
fragment. -/
theorem split_scheme_append {scheme : List Char} (named : isScheme scheme) (rest : List Char) :
    split (scheme ++ ':' :: '/' :: '/' :: rest) =
      { scheme := scheme.map Char.toLower
        authority := rest.takeWhile fun char => !endsAuthority char
        path := (cut '?' (cut '#' (rest.dropWhile fun char => !endsAuthority char)).1).1
        query := (cut '?' (cut '#' (rest.dropWhile fun char => !endsAuthority char)).1).2 } := by
  simp only [split, dropWhile_scheme_append named, splitScheme_append named, splitAuthority]

/-! ### The other parts -/

/-- A query after a question mark and a fragment after a hash sign, each if it is there. -/
def tail (query fragment : Option (List Char)) : List Char :=
  query.elim [] ('?' :: ·) ++ fragment.elim [] ('#' :: ·)

/-- An authority after two slashes goes as far as the first character that ends it. -/
theorem splitAuthority_append {authority rest : List Char}
    (inside : ∀ char ∈ authority, endsAuthority char = false)
    (ended : ∀ char, rest.head? = some char → endsAuthority char) :
    splitAuthority ('/' :: '/' :: (authority ++ rest)) = (authority, rest) := by
  have kept : ∀ char ∈ authority, (!endsAuthority char) = true := by
    intro char member
    rw [inside char member, Bool.not_false]
  rw [splitAuthority, List.takeWhile_append_of_pos kept, List.dropWhile_append_of_pos kept]
  cases rest with
  | nil => rw [List.takeWhile_nil, List.dropWhile_nil, List.append_nil]
  | cons first others =>
      have stop : ¬ (!endsAuthority first) = true := by
        rw [ended first rfl]
        exact Bool.false_ne_true
      rw [List.takeWhile_cons_of_neg (p := fun char => !endsAuthority char) stop,
        List.dropWhile_cons_of_neg (p := fun char => !endsAuthority char) stop, List.append_nil]

/-- A path before a tail is cut into path and query; the fragment is dropped. -/
theorem cut_tail {path : List Char} (noQuery : '?' ∉ path) (noFragment : '#' ∉ path)
    {query : Option (List Char)} (plain : ∀ text ∈ query, '#' ∉ text)
    (fragment : Option (List Char)) :
    cut '?' (cut '#' (path ++ tail query fragment)).1 = (path, query.getD []) := by
  have front : '#' ∉ path ++ query.elim [] ('?' :: ·) := by
    rw [List.mem_append]
    rintro (early | late)
    · exact noFragment early
    · cases query with
      | none => cases late
      | some text =>
          rcases List.mem_cons.mp late with same | inside
          · exact absurd same (by decide)
          · exact plain text rfl inside
  have dropped : (cut '#' (path ++ tail query fragment)).1 =
      path ++ query.elim [] ('?' :: ·) := by
    rw [tail, ← List.append_assoc]
    cases fragment with
    | none => rw [Option.elim_none, List.append_nil, cut_of_not_mem front]
    | some text => rw [Option.elim_some, cut_append front]
  rw [dropped]
  cases query with
  | none => rw [Option.elim_none, List.append_nil, cut_of_not_mem noQuery, Option.getD_none]
  | some text => rw [Option.elim_some, cut_append noQuery, Option.getD_some]

/-- Splitting a text gives the parts back that it was joined from. -/
theorem split_append {scheme authority path : List Char} (named : isScheme scheme)
    (inside : ∀ char ∈ authority, endsAuthority char = false)
    (rooted : ∀ char, path.head? = some char → char = '/') (noQuery : '?' ∉ path)
    (noFragment : '#' ∉ path) {query : Option (List Char)}
    (plain : ∀ text ∈ query, '#' ∉ text) (fragment : Option (List Char)) :
    split (scheme ++ ':' :: '/' :: '/' :: (authority ++ (path ++ tail query fragment))) =
      ⟨scheme.map Char.toLower, authority, path, query.getD []⟩ := by
  have ended : ∀ char, (path ++ tail query fragment).head? = some char → endsAuthority char := by
    intro char first
    cases path with
    | nil => cases query <;> cases fragment <;> cases first <;> decide
    | cons root others =>
        rw [rooted char first]
        decide
  have authorityPart := splitAuthority_append inside ended
  have frontPart := cut_tail noQuery noFragment plain fragment
  simp only [split, dropWhile_scheme_append named, splitScheme_append named, authorityPart,
    frontPart]

end ConnString.Reference
