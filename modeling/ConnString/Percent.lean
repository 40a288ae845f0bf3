import ConnString.Text.Utf8

/-!
# Percent escapes

A component is written with the characters that its place keeps and, for every other character, its
UTF-8 octets as `%XX` in capital digits. Reading turns each well-formed escape into its octet, keeps
a `%` that starts none, and reads the octets as UTF-8. Whatever the place keeps, apart from `%`
itself, reading a written component gives it back (`decode_encode`).

The digits of escapes are read in either case (`Hex.value?`), from ASCII alone and with values below
sixteen (`Hex.value?_bounds`); reading a written digit gives its value back (`Hex.value?_capital`).
-/

namespace ConnString

namespace Text.Hex

/-- The value of a hexadecimal digit. -/
def value? (digit : Char) : Option Nat :=
  if '0' ≤ digit ∧ digit ≤ '9' then some (digit.toNat - '0'.toNat)
  else if 'a' ≤ digit ∧ digit ≤ 'f' then some (digit.toNat - 'a'.toNat + 10)
  else if 'A' ≤ digit ∧ digit ≤ 'F' then some (digit.toNat - 'A'.toNat + 10)
  else none

/-- Whether a character is a hexadecimal digit. -/
def isDigit (char : Char) : Bool := (value? char).isSome

/-- The digit for a value below sixteen, a capital from ten on. -/
def capital (value : Nat) : Char := (Nat.digitChar value).toUpper

/-- A hexadecimal digit is worth less than 16 and is a character of ASCII. -/
theorem value?_bounds {digit : Char} {value : Nat} (read : value? digit = some value) :
    value < 16 ∧ digit.toNat < 128 := by
  have bounds : ∀ low : Char, low ≤ digit ↔ low.toNat ≤ digit.toNat := fun _ => Iff.rfl
  have limits : ∀ high : Char, digit ≤ high ↔ digit.toNat ≤ high.toNat := fun _ => Iff.rfl
  simp only [value?, bounds, limits, Char.reduceToNat] at read
  grind

theorem value?_capital {value : Nat} (small : value < 16) :
    value? (capital value) = some value := by
  have each : ∀ number : Fin 16, value? (capital number) = some number.val := by decide
  exact each ⟨value, small⟩

/-- A capital digit is a letter or a digit, so that escaping leaves it alone. -/
theorem isAlphanum_capital {value : Nat} (small : value < 16) : (capital value).isAlphanum := by
  have each : ∀ number : Fin 16, (capital number).isAlphanum := by decide
  exact each ⟨value, small⟩

end Text.Hex

namespace Percent

open Text

/-- The characters that stand for themselves in every component. -/
def isUnreserved (char : Char) : Bool := char.isAlphanum || ['-', '.', '_', '~'].contains char

/-- The characters that separate parts only inside a component. -/
def isSubDelimiter (char : Char) : Bool :=
  ['!', '$', '&', '\'', '(', ')', '*', '+', ',', ';', '='].contains char

/-- The characters kept in a user name or a password. -/
def keptInUserinfo (char : Char) : Bool := isUnreserved char || isSubDelimiter char

/-- The characters kept in a path. -/
def keptInPath (char : Char) : Bool := keptInUserinfo char || ['/', ':', '@'].contains char

/-- The escape of an octet. -/
def escape (octet : UInt8) : List Char :=
  ['%', Hex.capital (octet.toNat / 16), Hex.capital (octet.toNat % 16)]

/-- A character as it is written where some characters are kept. -/
def encodeChar (keep : Char → Bool) (char : Char) : List Char :=
  if keep char then [char] else (String.utf8EncodeChar char).flatMap escape

/-- A component as it is written where some characters are kept. -/
def encode (keep : Char → Bool) (text : List Char) : List Char := text.flatMap (encodeChar keep)

/-- The octet that two hexadecimal digits name. -/
def octet? (high low : Char) : Option UInt8 :=
  match Hex.value? high, Hex.value? low with
  | some sixteens, some ones => some (UInt8.ofNat (sixteens * 16 + ones))
  | _, _ => none

/-- The octets that a written component stands for. -/
def octets : List Char → List UInt8
  | [] => []
  | '%' :: high :: low :: rest =>
    match octet? high low with
    | some octet => octet :: octets rest
    | none => String.utf8EncodeChar '%' ++ octets (high :: low :: rest)
  | char :: rest => String.utf8EncodeChar char ++ octets rest

/-- The text that a written component stands for. -/
def decode (text : List Char) : List Char := Utf8.decode (octets text)

/-- The first `%` that starts no escape, with up to two characters after it. -/
def badEscape? : List Char → Option (List Char)
  | [] => none
  | '%' :: rest =>
    match rest with
    | high :: low :: _ =>
      if (octet? high low).isSome then badEscape? rest else some ['%', high, low]
    | _ => some ('%' :: rest)
  | _ :: rest => badEscape? rest

/-- The two digits that escape an octet are read as that octet. -/
theorem octet?_escape (octet : UInt8) :
    octet? (Hex.capital (octet.toNat / 16)) (Hex.capital (octet.toNat % 16)) = some octet := by
  have bound : octet.toNat < 256 := octet.toNat_lt
  rw [octet?, Hex.value?_capital (by omega), Hex.value?_capital (by omega)]
  simp only [show octet.toNat / 16 * 16 + octet.toNat % 16 = octet.toNat by omega,
    UInt8.ofNat_toNat]

/-- A character that is no percent sign stands for its own octets. -/
theorem octets_cons {char : Char} (plain : char ≠ '%') (rest : List Char) :
    octets (char :: rest) = String.utf8EncodeChar char ++ octets rest := by
  rw [octets]
  intro high low after same
  exact absurd same plain

/-- An escape stands for the octet that it was written for, whatever follows. -/
theorem octets_escape_append (octet : UInt8) (rest : List Char) :
    octets (escape octet ++ rest) = octet :: octets rest := by
  simp only [escape, List.cons_append, List.nil_append, octets, octet?_escape]

theorem octets_escapes_append (written : List UInt8) (rest : List Char) :
    octets (written.flatMap escape ++ rest) = written ++ octets rest := by
  induction written with
  | nil => rfl
  | cons octet others step =>
    rw [List.flatMap_cons, List.append_assoc, octets_escape_append, step, List.cons_append]

/-- An encoded character stands for its own octets, whether it is kept or escaped. -/
theorem octets_encodeChar_append {keep : Char → Bool} (escaped : keep '%' = false) (char : Char)
    (rest : List Char) :
    octets (encodeChar keep char ++ rest) = String.utf8EncodeChar char ++ octets rest := by
  by_cases kept : keep char
  · have plain : char ≠ '%' := by
      intro same
      simp [same, escaped] at kept
    rw [encodeChar, if_pos kept, List.singleton_append, octets_cons plain]
  · rw [encodeChar, if_neg kept, octets_escapes_append]

/-- A written component holds kept characters, percent signs and capital digits. -/
theorem of_mem_encodeChar {keep : Char → Bool} {char written : Char}
    (member : written ∈ encodeChar keep char) :
    keep written = true ∨ written = '%' ∨ ∃ value < 16, written = Hex.capital value := by
  unfold encodeChar at member
  split at member
  · next kept =>
    rw [List.mem_singleton] at member
    exact .inl (member ▸ kept)
  · obtain ⟨octet, _, place⟩ := List.mem_flatMap.1 member
    have bound : octet.toNat < 256 := octet.toNat_lt
    simp only [escape, List.mem_cons, List.not_mem_nil, or_false] at place
    obtain sign | high | low := place
    · exact .inr (.inl sign)
    · exact .inr (.inr ⟨_, by omega, high⟩)
    · exact .inr (.inr ⟨_, by omega, low⟩)

/-- Reading a written component gives it back. -/
theorem decode_encode {keep : Char → Bool} (escaped : keep '%' = false) (text : List Char) :
    decode (encode keep text) = text := by
  induction text with
  | nil => rfl
  | cons char rest step =>
    rw [decode, encode, List.flatMap_cons, octets_encodeChar_append escaped,
      Utf8.decode_utf8EncodeChar_append]
    exact congrArg (char :: ·) step

end Percent

end ConnString
