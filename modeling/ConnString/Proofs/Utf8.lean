import Mathlib.Algebra.Group.Nat.Defs
import ConnString.Text.Utf8

/-!
# The first character that octets spell

An octet below 80 is a character by itself. A character of several octets is none of ASCII: the bits
that an octet opens stand for 80 or more (`beyond_of_opening?`), and an octet that continues them
keeps it so. So octets spell a text with a given character of ASCII at its head exactly if that
character is the first octet (`head?_decode_cons_eq_iff`), and no octets but none spell the empty
text (`decode_eq_nil_iff`).
-/

namespace ConnString.Text.Utf8

/-- An open character can only stand for a number beyond ASCII. -/
structure Opened.Beyond (opened : Opened) : Prop where
  low : 0x80 ≤ opened.low
  high : opened.high ≤ 0xBF
  least : 0x80 ≤ (opened.bits * 64 + opened.low % 64) * 64 ^ opened.further

/-- An octet that opens a character opens one beyond ASCII. -/
theorem beyond_of_opening? {octet : Nat} {opened : Opened} (found : opening? octet = some opened) :
    opened.Beyond := by
  unfold opening? at found
  split at found
  · cases found
  split at found
  · cases found
    exact ⟨Nat.le_refl _, Nat.le_refl _, by dsimp only; omega⟩
  split at found
  · cases found
    constructor <;> dsimp only <;> split <;> omega
  split at found
  · cases found
    constructor <;> dsimp only <;> split <;> omega
  · cases found

/-- A number that is no character is written as the character zero. -/
theorem toNat_ofNat_or (number : Nat) :
    (Char.ofNat number).toNat = number ∨ (Char.ofNat number).toNat = 0 := by
  by_cases valid : number.isValidChar
  · exact .inl (by rw [Char.ofNat, dif_pos valid]; rfl)
  · exact .inr (by rw [Char.ofNat, dif_neg valid]; rfl)

/-- An open character yields no character of ASCII but zero, whatever octets follow. -/
theorem exists_decodeFrom_some_eq {opened : Opened} (beyond : opened.Beyond)
    (octets : List UInt8) :
    ∃ char after, decodeFrom (some opened) octets = char :: after ∧
      (char.toNat = 0 ∨ 0x80 ≤ char.toNat) := by
  induction octets generalizing opened with
  | nil => exact ⟨replacement, [], rfl, .inr (by decide)⟩
  | cons octet rest ih =>
      obtain ⟨further, low, high, bits⟩ := opened
      obtain ⟨lowest, highest, least⟩ := beyond
      dsimp only at lowest highest least
      by_cases inside : low ≤ octet.toNat ∧ octet.toNat ≤ high
      · have more : bits * 64 + low % 64 ≤ bits * 64 + octet.toNat % 64 := by omega
        cases further with
        | zero =>
            refine ⟨Char.ofNat (bits * 64 + octet.toNat % 64), decodeFrom none rest, ?_, ?_⟩
            · rw [decodeFrom, step_last inside.1 inside.2]
              rfl
            · rcases toNat_ofNat_or (bits * 64 + octet.toNat % 64) with same | zero
              · omega
              · exact .inl zero
        | succ further =>
            have next : 0x80 ≤ ((bits * 64 + octet.toNat % 64) * 64 + 0x80 % 64) * 64 ^ further :=
              calc
                0x80 ≤ (bits * 64 + low % 64) * 64 ^ (further + 1) := least
                _ = (bits * 64 + low % 64) * 64 * 64 ^ further := by
                  rw [Nat.pow_succ', Nat.mul_assoc]
                _ ≤ ((bits * 64 + octet.toNat % 64) * 64 + 0x80 % 64) * 64 ^ further :=
                  Nat.mul_le_mul_right _ (by omega)
            rw [decodeFrom, step_further inside.1 inside.2]
            exact ih ⟨Nat.le_refl _, Nat.le_refl _, next⟩
      · have broken : decodeFrom (some ⟨further, low, high, bits⟩) (octet :: rest) =
            replacement ::
              ((start octet.toNat).1 ++ decodeFrom (start octet.toNat).2 rest) := by
          rw [decodeFrom, step, if_neg inside]
          rfl
        exact ⟨replacement, _, broken, .inr (by decide)⟩

/-- The first octet decides whether the first character is one of ASCII, and which. -/
theorem exists_decode_cons_eq (octet : UInt8) (rest : List UInt8) :
    ∃ char after, decode (octet :: rest) = char :: after ∧
      (octet.toNat < 0x80 ∧ char.toNat = octet.toNat ∨
        0x80 ≤ octet.toNat ∧ (char.toNat = 0 ∨ 0x80 ≤ char.toNat)) := by
  rw [decode, decodeFrom, step, start]
  by_cases ascii : octet.toNat < 0x80
  · rw [if_pos ascii]
    have valid : octet.toNat.isValidChar := .inl (by omega)
    have same : (Char.ofNat octet.toNat).toNat = octet.toNat := by
      rw [Char.ofNat, dif_pos valid]
      rfl
    exact ⟨_, _, rfl, .inl ⟨ascii, same⟩⟩
  · rw [if_neg ascii]
    have beyond : 0x80 ≤ octet.toNat := Nat.not_lt.mp ascii
    cases found : opening? octet.toNat with
    | none => exact ⟨replacement, _, rfl, .inr ⟨beyond, .inr (by decide)⟩⟩
    | some opened =>
        obtain ⟨char, after, decoded, far⟩ :=
          exists_decodeFrom_some_eq (beyond_of_opening? found) rest
        exact ⟨char, after, decoded, .inr ⟨beyond, far⟩⟩

/-- A character of ASCII is at the head of a text exactly if it is the first octet. -/
theorem head?_decode_cons_eq_iff {char : Char} (positive : 0 < char.toNat)
    (ascii : char.toNat < 0x80) {octet : UInt8} {rest : List UInt8} :
    (decode (octet :: rest)).head? = some char ↔ octet.toNat = char.toNat := by
  obtain ⟨first, after, decoded, spelled⟩ := exists_decode_cons_eq octet rest
  rw [decoded, List.head?_cons, Option.some.injEq, ← Char.toNat_inj]
  omega

/-- Octets spell at least one character. -/
theorem decode_eq_nil_iff {octets : List UInt8} : decode octets = [] ↔ octets = [] := by
  cases octets with
  | nil => exact ⟨fun _ => rfl, fun _ => rfl⟩
  | cons octet rest =>
      obtain ⟨first, after, decoded, _⟩ := exists_decode_cons_eq octet rest
      simp only [decoded, reduceCtorEq]

end ConnString.Text.Utf8
