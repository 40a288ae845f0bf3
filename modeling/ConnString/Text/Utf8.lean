/-!
# Reading UTF-8 that may be broken

The decoder takes one octet at a time. Inside a character it knows how many octets are still to
come and the least and greatest value of the next, which is what rules out long forms, surrogates
and numbers past the last character. An octet that cannot continue the character ends it with one
replacement character and is then read afresh, so each maximal broken piece yields exactly one.
Octets that spell a character are read as that character, whatever follows
(`decode_utf8EncodeChar_append`).
-/

namespace ConnString.Text.Utf8

/-- The character written for octets that spell none. -/
def replacement : Char := '\uFFFD'

/-- A character of several octets, some of them read. -/
structure Opened where
  /-- The number of octets to come after the next one. -/
  further : Nat
  /-- The least value of the next octet. -/
  low : Nat
  /-- The greatest value of the next octet. -/
  high : Nat
  /-- The bits of the octets read. -/
  bits : Nat
deriving DecidableEq, Repr

/-- The character that an octet above 7F opens. -/
def opening? (octet : Nat) : Option Opened :=
  if octet < 0xC2 then none
  else if octet < 0xE0 then some ⟨0, 0x80, 0xBF, octet - 0xC0⟩
  else if octet < 0xF0 then
    some ⟨1, if octet = 0xE0 then 0xA0 else 0x80, if octet = 0xED then 0x9F else 0xBF,
      octet - 0xE0⟩
  else if octet < 0xF5 then
    some ⟨2, if octet = 0xF0 then 0x90 else 0x80, if octet = 0xF4 then 0x8F else 0xBF,
      octet - 0xF0⟩
  else none

/-- Read an octet between characters: what it yields and what it opens. -/
def start (octet : Nat) : List Char × Option Opened :=
  if octet < 0x80 then ([Char.ofNat octet], none)
  else
    match opening? octet with
    | some opened => ([], some opened)
    | none => ([replacement], none)

/-- Read an octet: what it yields and the character it leaves open. -/
def step : Option Opened → Nat → List Char × Option Opened
  | none, octet => start octet
  | some opened, octet =>
    if opened.low ≤ octet ∧ octet ≤ opened.high then
      let bits := opened.bits * 64 + octet % 64
      match opened.further with
      | 0 => ([Char.ofNat bits], none)
      | further + 1 => ([], some ⟨further, 0x80, 0xBF, bits⟩)
    else (replacement :: (start octet).1, (start octet).2)

/-- Read octets with a character open or none; one still open at the end is broken. -/
def decodeFrom : Option Opened → List UInt8 → List Char
  | none, [] => []
  | some _, [] => [replacement]
  | state, octet :: rest =>
    let read := step state octet.toNat
    read.1 ++ decodeFrom read.2 rest

/-- The characters that octets spell. -/
def decode (octets : List UInt8) : List Char := decodeFrom none octets

/-- An octet in range that is not the last one adds six bits to the open character. -/
theorem step_further {further low high bits octet : Nat} (least : low ≤ octet)
    (greatest : octet ≤ high) :
    step (some ⟨further + 1, low, high, bits⟩) octet =
      ([], some ⟨further, 0x80, 0xBF, bits * 64 + octet % 64⟩) := by
  simp only [step, least, greatest, and_self, ↓reduceIte]

/-- The last octet in range completes the open character. -/
theorem step_last {low high bits octet : Nat} (least : low ≤ octet) (greatest : octet ≤ high) :
    step (some ⟨0, low, high, bits⟩) octet = ([Char.ofNat (bits * 64 + octet % 64)], none) := by
  simp only [step, least, greatest, and_self, ↓reduceIte]

/-- An octet from `C2` to `DF` opens a character of two octets. -/
theorem start_two {octet : Nat} (least : 0xC2 ≤ octet) (greatest : octet ≤ 0xDF) :
    start octet = ([], some ⟨0, 0x80, 0xBF, octet - 0xC0⟩) := by
  rw [start, if_neg (by omega), opening?, if_neg (by omega), if_pos (by omega)]

/-- An octet from `E0` to `EF` opens a character of three octets; the range of the next octet rules
out longer spellings than needed and surrogates. -/
theorem start_three {octet : Nat} (least : 0xE0 ≤ octet) (greatest : octet ≤ 0xEF) :
    start octet =
      ([], some ⟨1, if octet = 0xE0 then 0xA0 else 0x80, if octet = 0xED then 0x9F else 0xBF,
        octet - 0xE0⟩) := by
  rw [start, if_neg (by omega), opening?, if_neg (by omega), if_neg (by omega),
    if_pos (by omega)]

/-- An octet from `F0` to `F4` opens a character of four octets; the range of the next octet rules
out longer spellings than needed and numbers beyond the last character. -/
theorem start_four {octet : Nat} (least : 0xF0 ≤ octet) (greatest : octet ≤ 0xF4) :
    start octet =
      ([], some ⟨2, if octet = 0xF0 then 0x90 else 0x80, if octet = 0xF4 then 0x8F else 0xBF,
        octet - 0xF0⟩) := by
  rw [start, if_neg (by omega), opening?, if_neg (by omega), if_neg (by omega),
    if_neg (by omega), if_pos (by omega)]

private theorem toNat_octet {number : Nat} (small : number < 256) :
    (UInt8.ofNat number).toNat = number := by
  rw [UInt8.toNat_ofNat', Nat.mod_eq_of_lt small]

/-- The octets of a character are read as that character, whatever follows. -/
theorem decode_utf8EncodeChar_append (char : Char) (rest : List UInt8) :
    decode (String.utf8EncodeChar char ++ rest) = char :: decode rest := by
  have scalar : char.toNat < 0xD800 ∨ 0xDFFF < char.toNat ∧ char.toNat < 0x110000 := char.valid
  have self : Char.ofNat char.toNat = char := Char.ofNat_toNat char
  have number : char.val.toNat = char.toNat := rfl
  simp only [String.utf8EncodeChar, number]
  generalize char.toNat = code at scalar self
  split
  · have one : start code = ([Char.ofNat code], none) := by rw [start, if_pos (by omega)]
    simp only [decode, List.cons_append, List.nil_append, decodeFrom, step,
      toNat_octet (show code < 256 by omega), one, self]
  · split
    · simp only [decode, List.cons_append, List.nil_append, decodeFrom, step.eq_1,
        toNat_octet (show code / 64 % 32 + 192 < 256 by omega),
        toNat_octet (show code % 64 + 128 < 256 by omega)]
      rw [start_two (by omega) (by omega), step_last (by omega) (by omega),
        show (code / 64 % 32 + 192 - 0xC0) * 64 + (code % 64 + 128) % 64 = code by omega, self]
      rfl
    · split
      · simp only [decode, List.cons_append, List.nil_append, decodeFrom, step.eq_1,
          toNat_octet (show code / 4096 % 16 + 224 < 256 by omega),
          toNat_octet (show code / 64 % 64 + 128 < 256 by omega),
          toNat_octet (show code % 64 + 128 < 256 by omega)]
        rw [start_three (by omega) (by omega),
          step_further (by split <;> omega) (by split <;> omega), step_last (by omega) (by omega),
          show ((code / 4096 % 16 + 224 - 0xE0) * 64 + (code / 64 % 64 + 128) % 64) * 64 +
            (code % 64 + 128) % 64 = code by omega, self]
        rfl
      · simp only [decode, List.cons_append, List.nil_append, decodeFrom, step.eq_1,
          toNat_octet (show code / 262144 % 8 + 240 < 256 by omega),
          toNat_octet (show code / 4096 % 64 + 128 < 256 by omega),
          toNat_octet (show code / 64 % 64 + 128 < 256 by omega),
          toNat_octet (show code % 64 + 128 < 256 by omega)]
        rw [start_four (by omega) (by omega),
          step_further (by split <;> omega) (by split <;> omega),
          step_further (by omega) (by omega), step_last (by omega) (by omega),
          show (((code / 262144 % 8 + 240 - 0xF0) * 64 + (code / 4096 % 64 + 128) % 64) * 64 +
            (code / 64 % 64 + 128) % 64) * 64 + (code % 64 + 128) % 64 = code by omega, self]
        rfl

end ConnString.Text.Utf8
