import ConnString.Proofs.Percent
import ConnString.Url.Endpoint

/-!
# Alphabets

Which characters stand where. A claim about an alphabet within ASCII is decided there
(`of_ascii`). The characters of a scheme are not changed by writing them small twice, and no
character that a written text keeps is a control character (`isControl_eq_false_of_isTextChar`).
-/

namespace ConnString

open Text

/-- What holds of every ASCII character by its code holds of a character with such a code. -/
theorem of_ascii {motive : Char → Prop} (each : ∀ code : Fin 128, motive (Char.ofNat code))
    {char : Char} (ascii : char.toNat < 128) : motive char := by
  have here := each ⟨char.toNat, ascii⟩
  rwa [Char.ofNat_toNat] at here

/-- What holds of each mark in a list holds of a character that is one of them. -/
theorem of_contains {motive : Char → Bool} {marks : List Char} (each : marks.all motive)
    {char : Char} (mark : marks.contains char) : motive char :=
  List.all_eq_true.mp each char (List.contains_iff_mem.mp mark)

theorem toNat_lt_of_contains {marks : List Char}
    (ascii : marks.all fun mark => decide (mark.toNat < 128)) {char : Char}
    (mark : marks.contains char) : char.toNat < 128 :=
  of_decide_eq_true (of_contains ascii mark)

theorem toNat_lt_of_isAlphanum {char : Char} (plain : char.isAlphanum) : char.toNat < 128 := by
  change ((decide (65 ≤ char.toNat ∧ char.toNat ≤ 90) ||
    (decide (97 ≤ char.toNat) && decide (char.toNat ≤ 122))) ||
    (decide (48 ≤ char.toNat) && decide (char.toNat ≤ 57))) = true at plain
  simp only [Bool.or_eq_true, Bool.and_eq_true, decide_eq_true_eq] at plain
  omega

namespace Reference

/-- Whether a character may stand in a scheme in small letters. -/
def isSmallSchemeChar (char : Char) : Bool :=
  char.isLower || char.isDigit || ['+', '.', '-'].contains char

theorem toNat_lt_of_isSchemeChar {char : Char} (named : isSchemeChar char) :
    char.toNat < 128 := by
  rw [isSchemeChar, Bool.or_eq_true] at named
  rcases named with plain | mark
  · exact toNat_lt_of_isAlphanum plain
  · exact toNat_lt_of_contains (by decide) mark

theorem isSchemeChar_of_isSmallSchemeChar {char : Char} (small : isSmallSchemeChar char) :
    isSchemeChar char := by
  change (((char.isUpper || char.isLower) || char.isDigit) ||
    ['+', '.', '-'].contains char) = true
  simp only [isSmallSchemeChar, Bool.or_eq_true] at small ⊢
  rcases small with (letter | digit) | mark
  · exact .inl (.inl (.inr letter))
  · exact .inl (.inr digit)
  · exact .inr mark

/-- Small letters stay as they are in small letters. -/
theorem toLower_of_isSmallSchemeChar {char : Char} (small : isSmallSchemeChar char) :
    char.toLower = char := by
  have ascii := toNat_lt_of_isSchemeChar (isSchemeChar_of_isSmallSchemeChar small)
  exact of_ascii (motive := fun char => isSmallSchemeChar char → char.toLower = char)
    (by decide) ascii small

/-- A character of a scheme may stand, in small letters, in a scheme in small letters. -/
theorem isSmallSchemeChar_toLower {char : Char} (named : isSchemeChar char) :
    isSmallSchemeChar char.toLower :=
  of_ascii (motive := fun char => isSchemeChar char → isSmallSchemeChar char.toLower)
    (by decide) (toNat_lt_of_isSchemeChar named) named

theorem isLower_toLower {char : Char} (letter : char.isAlpha) : char.toLower.isLower := by
  have plain : char.isAlphanum := by
    rw [Char.isAlphanum, letter, Bool.true_or]
  exact of_ascii (motive := fun char => char.isAlpha → char.toLower.isLower)
    (by decide) (toNat_lt_of_isAlphanum plain) letter

/-- A character of a scheme is none of those that are dropped before it or that end it. -/
theorem visible_of_isSchemeChar {char : Char} (named : isSchemeChar char) :
    ¬ char ≤ ' ' ∧ char ≠ ':' ∧ isControl char = false :=
  of_ascii (motive := fun char =>
      isSchemeChar char → ¬ char ≤ ' ' ∧ char ≠ ':' ∧ isControl char = false)
    (by decide) (toNat_lt_of_isSchemeChar named) named

end Reference

/-- Whether a character may stand in a written connection string. -/
def isTextChar (char : Char) : Bool := Host.isHostChar char || ['/', '@', '?'].contains char

theorem isTextChar_of_isHostChar {char : Char} (kept : Host.isHostChar char) :
    isTextChar char := by
  rw [isTextChar, kept, Bool.true_or]

theorem isTextChar_of_isUnreserved {char : Char} (plain : Percent.isUnreserved char) :
    isTextChar char := by
  rw [isTextChar, Host.isHostChar, plain]
  rfl

theorem isTextChar_of_isSchemeChar {char : Char} (named : Reference.isSchemeChar char) :
    isTextChar char :=
  of_ascii (motive := fun char => Reference.isSchemeChar char → isTextChar char) (by decide)
    (Reference.toNat_lt_of_isSchemeChar named) named

/-- A written connection string holds no control character. -/
theorem isControl_eq_false_of_isTextChar {char : Char} (kept : isTextChar char) :
    isControl char = false := by
  by_cases ascii : char.toNat < 128
  · exact of_ascii (motive := fun char => isTextChar char → isControl char = false)
      (by decide) ascii kept
  · simp only [isControl, Bool.or_eq_false_iff, decide_eq_false_iff_not]
    omega

/-- A character that may stand in a host does not end it. -/
theorem endsAuthority_eq_false_of_isHostChar {char : Char} (kept : Host.isHostChar char) :
    Reference.endsAuthority char = false := by
  refine Bool.eq_false_iff.mpr fun ends => ?_
  have refused : (!Host.isHostChar char) = true :=
    of_contains (motive := fun char => !Host.isHostChar char) (by decide) ends
  rw [kept] at refused
  cases refused

theorem isTextChar_of_keptInPath {char : Char} (kept : Percent.keptInPath char) :
    isTextChar char := by
  rw [Percent.keptInPath, Percent.keptInUserinfo, Bool.or_eq_true] at kept
  rcases kept with plain | mark
  · apply isTextChar_of_isHostChar
    rw [Host.isHostChar, plain, Bool.true_or, Bool.true_or]
  · exact of_contains (by decide) mark

theorem toNat_lt_of_keptInUserinfo {char : Char} (kept : Percent.keptInUserinfo char) :
    char.toNat < 128 := by
  rw [Percent.keptInUserinfo, Percent.isUnreserved, Bool.or_eq_true, Bool.or_eq_true] at kept
  rcases kept with (plain | mark) | delimiter
  · exact toNat_lt_of_isAlphanum plain
  · exact toNat_lt_of_contains (by decide) mark
  · exact toNat_lt_of_contains (by decide) delimiter

/-- A character of ASCII is its own compatibility form, so that it hides no delimiter. -/
theorem hidesDelimiter_of_ascii {char : Char} (ascii : char.toNat < 128) :
    Authority.hidesDelimiter char = false :=
  of_ascii (motive := fun char => Authority.hidesDelimiter char = false) (by decide) ascii

end ConnString
