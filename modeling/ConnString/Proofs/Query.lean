import ConnString.Proofs.Dict
import ConnString.Proofs.Percent
import ConnString.Query

/-!
# Queries read back

Neither `&` nor `=` occurs in a written key or value, so the pieces of a written query are its
pairs (`pairs_write`), each with two fields, its key and its value (`fields_write`). Where the keys
are distinct, reading gives each of them its value alone, in the order in which they were written
(`entries_read_write`).
-/

namespace ConnString.Query

open Text

/-- A character of a written key or value is unreserved, a percent sign or a plus sign. -/
theorem of_mem_encode {text : List Char} {written : Char} (member : written ∈ encode text) :
    Percent.isUnreserved written ∨ written = '%' ∨ written = '+' := by
  obtain ⟨char, _, place⟩ := List.mem_flatMap.mp member
  rw [encodeChar] at place
  split at place
  · exact .inr (.inr (List.mem_singleton.mp place))
  · have whole : written ∈ Percent.encode Percent.isUnreserved [char] := by
      rwa [Percent.encode, List.flatMap_singleton]
    rcases Percent.kept_or_sign_of_mem_encode (fun _ => id) whole with kept | sign
    · exact .inl kept
    · exact .inr (.inl sign)

/-- An encoded text holds no reserved character but the signs that encode. -/
theorem not_mem_encode {char : Char} (reserved : Percent.isUnreserved char = false)
    (noSign : char ≠ '%') (noPlus : char ≠ '+') (text : List Char) : char ∉ encode text := by
  intro member
  rcases of_mem_encode member with plain | sign | plus
  · rw [reserved] at plain
    cases plain
  · exact noSign sign
  · exact noPlus plus

/-- Whether a character may stand in a written query. -/
def isQueryChar (char : Char) : Bool :=
  Percent.isUnreserved char || ['%', '+', '=', '&'].contains char

/-- An encoded text holds characters of queries only. -/
theorem isQueryChar_of_mem_encode {text : List Char} {written : Char}
    (member : written ∈ encode text) : isQueryChar written := by
  rcases of_mem_encode member with plain | rfl | rfl
  · rw [isQueryChar, plain, Bool.true_or]
  · decide
  · decide

theorem isQueryChar_of_mem_encodePair {pair : String × String} {written : Char}
    (member : written ∈ encodePair pair) : isQueryChar written := by
  rcases List.mem_append.mp member with key | rest
  · exact isQueryChar_of_mem_encode key
  · rcases List.mem_cons.mp rest with rfl | value
    · decide
    · exact isQueryChar_of_mem_encode value

/-- What holds of the pieces and of the text between them, and goes over to texts put together,
holds of the pieces joined. -/
theorem intercalate_closed {motive : List Char → Prop} (empty : motive [])
    (append : ∀ {front back}, motive front → motive back → motive (front ++ back))
    {separator : List Char} (between : motive separator) {pieces : List (List Char)}
    (each : ∀ piece ∈ pieces, motive piece) : motive (separator.intercalate pieces) := by
  induction pieces with
  | nil => exact empty
  | cons piece rest ih =>
      have here := each piece List.mem_cons_self
      cases rest with
      | nil =>
          rw [List.intercalate_singleton]
          exact here
      | cons next others =>
          rw [List.intercalate_cons_cons]
          exact append (append here between)
            (ih fun other member => each other (List.mem_cons_of_mem _ member))

/-- A written query has no character but those of its alphabet. -/
theorem isQueryChar_of_mem_write {list : List (String × String)} {written : Char}
    (member : written ∈ write list) : isQueryChar written := by
  have closed : ∀ char ∈ write list, isQueryChar char := by
    refine intercalate_closed (motive := fun text => ∀ char ∈ text, isQueryChar char)
      (fun _ absent => nomatch absent) ?_ ?_ ?_
    · intro front back left right char inside
      exact (List.mem_append.mp inside).elim (left char) (right char)
    · intro char inside
      rw [List.mem_singleton.mp inside]
      decide
    · intro piece joined char inside
      obtain ⟨pair, _, rfl⟩ := List.mem_map.mp joined
      exact isQueryChar_of_mem_encodePair inside
  exact closed written member

/-- An encoded pair holds no ampersand, so that it stays one piece. -/
theorem amp_not_mem_encodePair (pair : String × String) : '&' ∉ encodePair pair := by
  rw [encodePair, List.mem_append, List.mem_cons]
  rintro (key | join | value)
  · exact not_mem_encode (by decide) (by decide) (by decide) _ key
  · exact absurd join (by decide)
  · exact not_mem_encode (by decide) (by decide) (by decide) _ value

/-- An encoded key holds no equals sign, so that it ends at the first. -/
theorem equals_not_mem_encode (text : List Char) : '=' ∉ encode text :=
  not_mem_encode (by decide) (by decide) (by decide) text

/-- A written query with pairs comes apart into them. -/
theorem splitOn_write {list : List (String × String)} (filled : list ≠ []) :
    (write list).splitOn '&' = list.map encodePair := by
  refine List.splitOn_intercalate '&' ?_ (by simpa using filled)
  intro piece member
  obtain ⟨source, _, rfl⟩ := List.mem_map.mp member
  exact amp_not_mem_encodePair source

/-- A written pair comes apart into its key and its value. -/
theorem splitOn_encodePair (pair : String × String) :
    (encodePair pair).splitOn '=' = [encode pair.1.toList, encode pair.2.toList] := by
  have joined : encodePair pair =
      ['='].intercalate [encode pair.1.toList, encode pair.2.toList] := by
    rw [List.intercalate_cons_cons, List.intercalate_singleton, encodePair, List.append_assoc]
    rfl
  rw [joined]
  refine List.splitOn_intercalate '=' ?_ (List.cons_ne_nil _ _)
  intro field member
  simp only [List.mem_cons, List.not_mem_nil, or_false] at member
  rcases member with rfl | rfl
  · exact equals_not_mem_encode _
  · exact equals_not_mem_encode _

/-- The decoded fields of each piece of a query: the texts around its equals signs. -/
def fields (query : List Char) : List (List String) :=
  (query.splitOn '&').map fun piece =>
    (piece.splitOn '=').map fun field => String.ofList (decode field)

/-- The pieces of a written query have two fields each, a key and its value. -/
theorem fields_write {list : List (String × String)} (filled : list ≠ []) :
    fields (write list) = list.map fun pair => [pair.1, pair.2] := by
  rw [fields, splitOn_write filled, List.map_map]
  refine List.map_congr_left fun pair _ => ?_
  simp only [Function.comp_apply, splitOn_encodePair, List.map_cons, List.map_nil, decode_encode,
    String.ofList_toList]

/-- A pair is read back from its encoding. -/
theorem readPiece_encodePair (pair : String × String) : readPiece (encodePair pair) = pair := by
  simp only [readPiece, encodePair, cut_append (equals_not_mem_encode _), decode_encode,
    String.ofList_toList]

/-- Reading the pieces of a written query gives its pairs back. -/
theorem pairs_write (list : List (String × String)) : pairs (write list) = list := by
  cases list with
  | nil => rfl
  | cons pair others =>
      have full : ((pair :: others).map encodePair).filter (fun piece => !piece.isEmpty) =
          (pair :: others).map encodePair := by
        rw [List.filter_eq_self]
        intro piece member
        obtain ⟨source, _, rfl⟩ := List.mem_map.mp member
        simp [encodePair]
      rw [pairs, splitOn_write (List.cons_ne_nil _ _), full, List.map_map]
      exact (List.map_congr_left fun source _ => readPiece_encodePair source).trans
        (List.map_id _)

/-- The first value for a key makes a list of its own. -/
theorem gather_of_not_mem {values : Dict (List String)} {pair : String × String}
    (fresh : pair.1 ∉ values.keys) : gather values pair = values.insert pair.1 [pair.2] := by
  rw [gather, Dict.get?_eq_none_iff.mpr fresh, Option.getD_none, List.nil_append]

/-- Pairs with new and distinct keys are gathered as they are. -/
theorem foldl_gather {list : List (String × String)} {values : Dict (List String)}
    (fresh : (values.keys ++ list.map Prod.fst).Nodup) :
    list.foldl gather values = values.insertAll (list.map fun pair => (pair.1, [pair.2])) := by
  induction list generalizing values with
  | nil => rfl
  | cons pair others ih =>
      have apart := List.nodup_append.mp fresh
      have absent : pair.1 ∉ values.keys := fun member =>
        apart.2.2 _ member _ List.mem_cons_self rfl
      rw [List.foldl_cons, gather_of_not_mem absent, ih]
      · rfl
      · rw [Dict.keys_insert, if_neg absent, List.append_assoc]
        exact fresh

/-- Reading a written query with distinct keys gives each key its value alone. -/
theorem entries_read_write {list : List (String × String)} (fresh : (list.map Prod.fst).Nodup) :
    (read (write list)).entries = list.map fun pair => (pair.1, [pair.2]) := by
  have singles : ((list.map fun pair => (pair.1, [pair.2])).map Prod.fst).Nodup := by
    rw [List.map_map]
    exact fresh
  have gathered : list.foldl gather ∅ = Dict.ofList (list.map fun pair => (pair.1, [pair.2])) :=
    foldl_gather fresh
  rw [read, pairs_write, gathered]
  exact Dict.entries_insertAll singles

/-- Reading the written entries of a dictionary gives each key its value alone. -/
theorem read_write_sorted (dict : Dict String) : read (write dict.sorted) = dict.singletons :=
  Dict.ext (entries_read_write dict.nodup_keys_sorted)

end ConnString.Query
