import ConnString.Percent

/-!
# The alphabet of written components

A written component holds no characters but those that its place keeps and percent signs
(`kept_or_sign_of_mem_encode`), so what the place escapes cannot end the component early
(`not_mem_encode`). Every percent sign in it starts an escape (`badEscape?_encode_append`); a text
without a bad escape, in which two hexadecimal digits follow each percent sign
(`badEscape?_eq_none_iff`), has none in any part that reaches its end (`badEscape?_of_append`).
Reading a component that starts with the octets of a character yields that character first
(`decode_eq_cons_of_octets`).
-/

namespace ConnString.Percent

open Text

variable {keep : Char → Bool}

/-- A text whose octets start with those of a character is read as a text that starts with it. -/
theorem decode_eq_cons_of_octets {char : Char} {text rest : List Char}
    (start : octets text = String.utf8EncodeChar char ++ octets rest) :
    decode text = char :: decode rest := by
  rw [decode, start, Utf8.decode_utf8EncodeChar_append]
  rfl

theorem isUnreserved_capital {value : Nat} (small : value < 16) :
    isUnreserved (Hex.capital value) := by
  rw [isUnreserved, Hex.isAlphanum_capital small, Bool.true_or]

theorem keptInUserinfo_of_isUnreserved {char : Char} (plain : isUnreserved char) :
    keptInUserinfo char := by
  rw [keptInUserinfo, plain, Bool.true_or]

theorem keptInPath_of_isUnreserved {char : Char} (plain : isUnreserved char) :
    keptInPath char := by
  rw [keptInPath, keptInUserinfo_of_isUnreserved plain, Bool.true_or]

/-- A character of a written component is one that its place keeps, or a percent sign. -/
theorem kept_or_sign_of_mem_encode (plain : ∀ char, isUnreserved char → keep char)
    {text : List Char} {written : Char} (member : written ∈ encode keep text) :
    keep written ∨ written = '%' := by
  obtain ⟨char, _, place⟩ := List.mem_flatMap.mp member
  rcases of_mem_encodeChar place with kept | sign | ⟨value, small, digit⟩
  · exact .inl kept
  · exact .inr sign
  · exact .inl (digit ▸ plain _ (isUnreserved_capital small))

/-- An encoded text holds no character that is escaped in it. -/
theorem not_mem_encode (plain : ∀ char, isUnreserved char → keep char) {char : Char}
    (escaped : keep char = false) (other : char ≠ '%') (text : List Char) :
    char ∉ encode keep text := by
  intro member
  rcases kept_or_sign_of_mem_encode plain member with kept | sign
  · rw [escaped] at kept
    cases kept
  · exact other sign

/-- A written path holds no character that ends a path. -/
theorem not_mem_encode_path {char : Char} (ends : char = '?' ∨ char = '#') (text : List Char) :
    char ∉ encode keptInPath text := by
  rcases ends with rfl | rfl
  · exact not_mem_encode (fun _ => keptInPath_of_isUnreserved) (by decide) (by decide) text
  · exact not_mem_encode (fun _ => keptInPath_of_isUnreserved) (by decide) (by decide) text

/-! ### Bad escapes -/

theorem badEscape?_cons {char : Char} (other : char ≠ '%') (rest : List Char) :
    badEscape? (char :: rest) = badEscape? rest := by
  rw [badEscape?]
  exact other

/-- A percent sign before two digits is a good escape. -/
theorem badEscape?_sign {high low : Char} (digits : (octet? high low).isSome)
    (rest : List Char) :
    badEscape? ('%' :: high :: low :: rest) = badEscape? (high :: low :: rest) := by
  rw [badEscape?, if_pos digits]

/-- A written escape is a good one. -/
theorem badEscape?_escape_append (octet : UInt8) (rest : List Char) :
    badEscape? (escape octet ++ rest) = badEscape? rest := by
  have bound : octet.toNat < 256 := octet.toNat_lt
  have plain : ∀ value < 16, Hex.capital value ≠ '%' := by
    intro value small same
    have letter := Hex.isAlphanum_capital small
    rw [same] at letter
    exact absurd letter (by decide)
  simp only [escape, List.cons_append, List.nil_append]
  rw [badEscape?_sign (by rw [octet?_escape, Option.isSome_some]),
    badEscape?_cons (plain _ (by omega)), badEscape?_cons (plain _ (by omega))]

theorem badEscape?_escapes_append (written : List UInt8) (rest : List Char) :
    badEscape? (written.flatMap escape ++ rest) = badEscape? rest := by
  induction written with
  | nil => rfl
  | cons octet others ih =>
      rw [List.flatMap_cons, List.append_assoc, badEscape?_escape_append, ih]

/-- A written component adds no bad escape to the text before which it stands. -/
theorem badEscape?_encode_append (escaped : keep '%' = false) (text rest : List Char) :
    badEscape? (encode keep text ++ rest) = badEscape? rest := by
  induction text with
  | nil => rfl
  | cons char others ih =>
      rw [encode, List.flatMap_cons, List.append_assoc, ← ih, encodeChar]
      by_cases kept : keep char
      · have other : char ≠ '%' := by
          intro same
          rw [same, escaped] at kept
          cases kept
        rw [if_pos kept, List.singleton_append, badEscape?_cons other]
        rfl
      · rw [if_neg kept, badEscape?_escapes_append]
        rfl

/-- An encoded text has no bad escape. -/
theorem badEscape?_encode (escaped : keep '%' = false) (text : List Char) :
    badEscape? (encode keep text) = none := by
  have written := badEscape?_encode_append escaped text []
  rwa [List.append_nil] at written

/-- A text without bad escapes has none after its first character. -/
theorem badEscape?_of_cons {char : Char} {rest : List Char}
    (good : badEscape? (char :: rest) = none) : badEscape? rest = none := by
  by_cases sign : char = '%'
  · subst sign
    rcases rest with _ | ⟨high, _ | ⟨low, after⟩⟩
    · rfl
    · simp [badEscape?] at good
    · by_cases digits : (octet? high low).isSome
      · rwa [badEscape?_sign digits] at good
      · rw [badEscape?, if_neg digits] at good
        cases good
  · rwa [badEscape?_cons sign] at good

theorem badEscape?_of_append {front back : List Char} (good : badEscape? (front ++ back) = none) :
    badEscape? back = none := by
  induction front with
  | nil => exact good
  | cons char rest ih => exact ih (badEscape?_of_cons good)

/-- Two characters stand for an octet exactly if both are hexadecimal digits. -/
theorem isSome_octet? {high low : Char} :
    (octet? high low).isSome ↔ Hex.isDigit high ∧ Hex.isDigit low := by
  rw [octet?, Hex.isDigit, Hex.isDigit]
  cases Hex.value? high <;> cases Hex.value? low <;> simp

/-- A text has no bad escape exactly if two hexadecimal digits follow each percent sign. -/
theorem badEscape?_eq_none_iff {text : List Char} :
    badEscape? text = none ↔
      ∀ front back, text = front ++ '%' :: back →
        ∃ high low rest, back = high :: low :: rest ∧ Hex.isDigit high ∧ Hex.isDigit low := by
  constructor
  · rintro good front back rfl
    have here : badEscape? ('%' :: back) = none := badEscape?_of_append good
    rcases back with _ | ⟨high, _ | ⟨low, rest⟩⟩
    · cases here
    · cases here
    · by_cases digits : (octet? high low).isSome
      · exact ⟨high, low, rest, rfl, isSome_octet?.mp digits⟩
      · rw [badEscape?, if_neg digits] at here
        cases here
  · intro digits
    induction text with
    | nil => rfl
    | cons char rest ih =>
        have good : badEscape? rest = none := by
          apply ih
          rintro front back rfl
          exact digits (char :: front) back rfl
        by_cases sign : char = '%'
        · subst sign
          obtain ⟨high, low, after, rfl, pair⟩ := digits [] rest rfl
          rw [badEscape?_sign (isSome_octet?.mpr pair), good]
        · rw [badEscape?_cons sign, good]

end ConnString.Percent
