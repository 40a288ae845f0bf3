import ConnString.Dict
import ConnString.Percent
import ConnString.Text.Cut

/-!
# Form queries

A query writes each pair as `key=value` and joins the pairs with `&`; a space becomes `+`, and every
other character that is not unreserved becomes escapes. Reading skips empty pieces, lets a piece
without `=` stand for a blank value, and gathers the values of each key in the order of the keys'
first pieces. Reading one written text gives it back (`decode_encode`).
-/

namespace ConnString.Query

/-- A character of a key or a value as it is written. -/
def encodeChar (char : Char) : List Char :=
  if char = ' ' then ['+'] else Percent.encodeChar Percent.isUnreserved char

/-- A key or a value as it is written. -/
def encode (text : List Char) : List Char := text.flatMap encodeChar

/-- A key with its value as they are written. -/
def encodePair (pair : String × String) : List Char :=
  encode pair.1.toList ++ '=' :: encode pair.2.toList

/-- Pairs as they are written, in their order. -/
def write (pairs : List (String × String)) : List Char :=
  ['&'].intercalate (pairs.map encodePair)

/-- The key or the value that a written text stands for. -/
def decode (text : List Char) : List Char :=
  Percent.decode (text.map fun char => if char = '+' then ' ' else char)

/-- A plus sign is escaped, so that one in a query can only stand for a space. -/
theorem plus_not_mem_encodeChar (char : Char) :
    '+' ∉ Percent.encodeChar Percent.isUnreserved char := by
  intro member
  obtain kept | sign | ⟨value, small, digit⟩ := Percent.of_mem_encodeChar member
  · exact absurd kept (by decide)
  · exact absurd sign (by decide)
  · have letter := Text.Hex.isAlphanum_capital small
    rw [← digit] at letter
    exact absurd letter (by decide)

/-- Turning plus signs into spaces undoes what a query adds to percent encoding. -/
theorem map_encodeChar (char : Char) :
    (encodeChar char).map (fun char => if char = '+' then ' ' else char) =
      if char = ' ' then [' '] else Percent.encodeChar Percent.isUnreserved char := by
  unfold encodeChar
  split
  · rfl
  · refine (List.map_congr_left fun written member => ?_).trans (List.map_id _)
    have other : written ≠ '+' := fun same => plus_not_mem_encodeChar char (same ▸ member)
    rw [if_neg other, id_eq]

/-- Reading a written text gives it back. -/
theorem decode_encode (text : List Char) : decode (encode text) = text := by
  induction text with
  | nil => rfl
  | cons char rest step =>
    rw [decode, encode, List.flatMap_cons, List.map_append, map_encodeChar, Percent.decode]
    split
    · next space =>
      rw [List.singleton_append, Percent.octets_cons (by decide),
        Text.Utf8.decode_utf8EncodeChar_append, space]
      exact congrArg (' ' :: ·) step
    · rw [Percent.octets_encodeChar_append (by decide), Text.Utf8.decode_utf8EncodeChar_append]
      exact congrArg (char :: ·) step

/-- The key and the value that a piece of a query stands for. -/
def readPiece (piece : List Char) : String × String :=
  let parts := Text.cut '=' piece
  (String.ofList (decode parts.1), String.ofList (decode parts.2))

/-- The pairs of a query in the order of its pieces. -/
def pairs (query : List Char) : List (String × String) :=
  ((query.splitOn '&').filter fun piece => !piece.isEmpty).map readPiece

/-- Add a value to those of its key. -/
def gather (values : Dict (List String)) (pair : String × String) : Dict (List String) :=
  values.insert pair.1 (((values.get? pair.1).getD []) ++ [pair.2])

/-- The values of each key, keys and values in the order of the pieces. -/
def read (query : List Char) : Dict (List String) := (pairs query).foldl gather ∅

end ConnString.Query
