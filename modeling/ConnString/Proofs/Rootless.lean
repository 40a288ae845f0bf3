import ConnString.Proofs.Indent
import ConnString.Proofs.Parts
import ConnString.Proofs.Utf8

/-!
# Connection strings without a root

A text without a slash after its scheme has no authority, and so no host; its path is the text up to
its options (`Reference.split_rootless`). Whether the path starts with a slash is asked only once
the path is unescaped, and a slash is spelled by itself or by either of its escapes
(`Percent.decode_eq_slash_cons_iff`). So there is no database either, unless the path starts with an
escaped slash and goes on after it (`Config.rootless_endpoint`).
-/

namespace ConnString

open Text

namespace Text.Hex

theorem value?_eq_two_iff {digit : Char} : value? digit = some 2 ↔ digit = '2' := by
  constructor
  · intro read
    exact of_ascii (motive := fun digit => value? digit = some 2 → digit = '2') (by decide)
      (value?_bounds read).2 read
  · rintro rfl
    decide

/-- Two digits are worth fifteen, a capital and a small letter. -/
theorem value?_eq_fifteen_iff {digit : Char} :
    value? digit = some 15 ↔ digit = 'F' ∨ digit = 'f' := by
  constructor
  · intro read
    exact of_ascii (motive := fun digit => value? digit = some 15 → digit = 'F' ∨ digit = 'f')
      (by decide) (value?_bounds read).2 read
  · rintro (rfl | rfl) <;> decide

end Text.Hex

namespace Percent

/-! ### What spells a slash -/

/-- An escape stands for a slash exactly if it is `2F` or `2f`. -/
theorem octet?_eq_slash_iff {high low : Char} {octet : UInt8}
    (read : octet? high low = some octet) :
    octet.toNat = '/'.toNat ↔ high = '2' ∧ (low = 'F' ∨ low = 'f') := by
  rw [← Hex.value?_eq_two_iff, ← Hex.value?_eq_fifteen_iff]
  rw [octet?] at read
  split at read
  · next sixteens ones first second =>
    cases read
    obtain ⟨upper, _⟩ := Hex.value?_bounds first
    obtain ⟨lower, _⟩ := Hex.value?_bounds second
    have small : sixteens * 16 + ones < 256 := by omega
    have slash : '/'.toNat = 2 * 16 + 15 := rfl
    rw [UInt8.toNat_ofNat', Nat.mod_eq_of_lt small, slash, first, second, Option.some.injEq,
      Option.some.injEq]
    omega
  · cases read

/-- How reading a component starts: there is nothing to read, a character stands for itself, or an
escape stands for an octet. -/
inductive Begins : List Char → Prop
  | empty : Begins []
  | plain {char : Char} {rest : List Char}
      (decoded : decode (char :: rest) = char :: decode rest) : Begins (char :: rest)
  | escape {high low : Char} {rest : List Char} {octet : UInt8}
      (read : octet? high low = some octet)
      (decoded : decode ('%' :: high :: low :: rest) = Utf8.decode (octet :: octets rest)) :
      Begins ('%' :: high :: low :: rest)

/-- Every text starts in one of these ways. -/
theorem begins (text : List Char) : Begins text := by
  fun_cases octets text with
  | case1 => exact .empty
  | case2 high low rest octet read => exact .escape read (by rw [decode, octets, read])
  | case3 high low rest unread =>
      exact .plain (decode_eq_cons_of_octets (by rw [octets, unread]))
  | case4 char rest other =>
      exact .plain (decode_eq_cons_of_octets (by rw [octets]; exact other))

/-- Only the empty text is decoded to the empty text. -/
theorem decode_eq_nil_iff {text : List Char} : decode text = [] ↔ text = [] := by
  cases begins text with
  | empty => exact ⟨fun _ => rfl, fun _ => rfl⟩
  | plain decoded => simp only [decoded, reduceCtorEq]
  | escape read decoded => simp only [decoded, Utf8.decode_eq_nil_iff, reduceCtorEq]

/-- The escapes of a slash. -/
def escapedSlashes : List (List Char) := [['%', '2', 'F'], ['%', '2', 'f']]

/-- The ways to spell a slash. -/
def slashes : List (List Char) := ['/'] :: escapedSlashes

/-- Each spelling of a slash is decoded to a slash, whatever follows. -/
theorem decode_slash_append {spelled : List Char} (slash : spelled ∈ slashes) (rest : List Char) :
    decode (spelled ++ rest) = '/' :: decode rest := by
  have octet : octets (spelled ++ rest) = String.utf8EncodeChar '/' ++ octets rest := by
    simp only [slashes, escapedSlashes, List.mem_cons, List.not_mem_nil, or_false] at slash
    rcases slash with rfl | rfl | rfl <;> rfl
  exact decode_eq_cons_of_octets octet

/-- What is decoded to a slash at the front starts with a spelling of it. -/
theorem exists_slash_of_head?_decode {text : List Char} (first : (decode text).head? = some '/') :
    ∃ spelled ∈ slashes, ∃ rest, text = spelled ++ rest := by
  cases begins text with
  | empty => cases first
  | @plain char rest decoded =>
      rw [decoded, List.head?_cons, Option.some.injEq] at first
      exact ⟨['/'], by decide, rest, by rw [first, List.singleton_append]⟩
  | @escape high low rest octet read decoded =>
      rw [decoded, Utf8.head?_decode_cons_eq_iff (by decide) (by decide),
        octet?_eq_slash_iff read] at first
      obtain ⟨rfl, rfl | rfl⟩ := first
      · exact ⟨['%', '2', 'F'], by decide, rest, rfl⟩
      · exact ⟨['%', '2', 'f'], by decide, rest, rfl⟩

/-- A component is read as a text after a slash exactly if it is one after a spelling of a slash. -/
theorem decode_eq_slash_cons_iff {text rest : List Char} :
    decode text = '/' :: rest ↔
      ∃ spelled ∈ slashes, ∃ written, text = spelled ++ written ∧ decode written = rest := by
  constructor
  · intro decoded
    have first : (decode text).head? = some '/' := by rw [decoded, List.head?_cons]
    obtain ⟨spelled, slash, written, rfl⟩ := exists_slash_of_head?_decode first
    rw [decode_slash_append slash, List.cons.injEq] at decoded
    exact ⟨spelled, slash, written, rfl, decoded.2⟩
  · rintro ⟨spelled, slash, written, rfl, rfl⟩
    exact decode_slash_append slash written

end Percent

namespace Reference

/-! ### Splitting without a root -/

/-- Without a slash at the front there is no authority. -/
theorem splitAuthority_of_head?_ne {text : List Char} (rootless : text.head? ≠ some '/') :
    splitAuthority text = ([], text) := by
  rw [splitAuthority]
  rintro rest rfl
  exact rootless rfl

/-- Whether a character stands before the options and the fragment of a text. -/
def inPath (char : Char) : Bool := decide (char ≠ '?' ∧ char ≠ '#')

/-- The path of a text goes as far as its first question mark or hash sign. -/
theorem cut_cut_eq_takeWhile (text : List Char) :
    (cut '?' (cut '#' text).1).1 = text.takeWhile inPath := by
  simp only [cut_eq_takeWhile, List.takeWhile_takeWhile, decide_eq_true_eq]
  rfl

/-- A text without a slash after its scheme is split into scheme, path and query. -/
theorem split_rootless {scheme rest : List Char} (named : isScheme scheme)
    (rootless : rest.head? ≠ some '/') :
    split (scheme ++ ':' :: rest) =
      { scheme := scheme.map Char.toLower
        authority := []
        path := rest.takeWhile inPath
        query := (cut '?' (cut '#' rest).1).2 } := by
  simp only [split, dropWhile_scheme_append named, splitScheme_append named,
    splitAuthority_of_head?_ne rootless, cut_cut_eq_takeWhile]

/-- A text starts with an escaped slash and goes on after it before its options. -/
def EscapesRoot (text : List Char) : Prop :=
  ∃ escaped ∈ Percent.escapedSlashes, ∃ char rest, text = escaped ++ char :: rest ∧ inPath char

/-- A text escapes its root exactly if its path is a spelling of a slash and something more. -/
theorem escapesRoot_iff {text : List Char} (rootless : text.head? ≠ some '/') :
    EscapesRoot text ↔
      ∃ spelled ∈ Percent.slashes, ∃ written,
        text.takeWhile inPath = spelled ++ written ∧ written ≠ [] := by
  constructor
  · rintro ⟨escaped, slash, char, rest, rfl, inside⟩
    have each : Percent.escapedSlashes.all fun escaped => escaped.all inPath := by decide
    have kept := List.all_eq_true.mp (List.all_eq_true.mp each escaped slash)
    refine ⟨escaped, List.mem_cons_of_mem _ slash, char :: rest.takeWhile inPath, ?_,
      List.cons_ne_nil _ _⟩
    rw [List.takeWhile_append_of_pos kept, List.takeWhile_cons_of_pos inside]
  · rintro ⟨spelled, slash, written, path, more⟩
    obtain ⟨char, rest, rfl⟩ := List.exists_cons_of_ne_nil more
    have inside : inPath char := by
      have member : char ∈ text.takeWhile inPath := by
        rw [path]
        exact List.mem_append_right _ List.mem_cons_self
      exact List.mem_takeWhile_imp member
    have whole : text = spelled ++ char :: (rest ++ text.dropWhile inPath) := by
      rw [← List.cons_append, ← List.append_assoc, ← path, List.takeWhile_append_dropWhile]
    rcases List.mem_cons.mp slash with rfl | escaped
    · exact absurd (congrArg List.head? whole) rootless
    · exact ⟨spelled, escaped, char, _, whole, inside⟩

/-- Without an authority the host, the user and the password are empty. -/
theorem endpoint_split_rootless {scheme rest : List Char} (named : isScheme scheme)
    (rootless : rest.head? ≠ some '/') :
    (split (scheme ++ ':' :: rest)).endpoint.host = "" ∧
      (split (scheme ++ ':' :: rest)).endpoint.user = "" ∧
      (split (scheme ++ ':' :: rest)).endpoint.password = "" := by
  rw [split_rootless named rootless]
  exact ⟨rfl, rfl, rfl⟩

/-- The database is empty exactly if nothing follows a slash at the front of the decoded path. -/
theorem database_endpoint_eq_empty_iff {reference : Reference} :
    reference.endpoint.database = "" ↔
      ∀ database, Percent.decode reference.path = '/' :: database → database = [] := by
  simp only [endpoint]
  split
  · next database decoded =>
    rw [decoded]
    simp
  · next absent => exact ⟨fun _ database decoded => (absent database decoded).elim, fun _ => rfl⟩

/-- Without a root the database is empty unless the root is escaped. -/
theorem database_endpoint_rootless_iff {scheme rest : List Char} (named : isScheme scheme)
    (rootless : rest.head? ≠ some '/') :
    (split (scheme ++ ':' :: rest)).endpoint.database = "" ↔ ¬EscapesRoot rest := by
  rw [database_endpoint_eq_empty_iff, split_rootless named rootless, escapesRoot_iff rootless]
  constructor
  · rintro empty ⟨spelled, slash, written, path, more⟩
    have decoded := Percent.decode_eq_slash_cons_iff.mpr ⟨spelled, slash, written, path, rfl⟩
    exact more (Percent.decode_eq_nil_iff.mp (empty _ decoded))
  · intro absent database decoded
    obtain ⟨spelled, slash, written, path, rfl⟩ := Percent.decode_eq_slash_cons_iff.mp decoded
    rw [Percent.decode_eq_nil_iff]
    exact not_not.mp fun more => absent ⟨spelled, slash, written, path, more⟩

end Reference

namespace Config

open scoped Tzdata

/-- A connection string without a slash after its scheme names no host and no credentials, and it
names a database exactly if it starts with an escaped slash there and goes on after it. -/
theorem rootless_endpoint [ZoneDatabase] {count : Nat} {scheme rest : String}
    (named : Reference.isScheme scheme.toList) (rootless : rest.toList.head? ≠ some '/')
    {config : Config}
    (accepted : ofDsn (indent count ++ scheme ++ ":" ++ rest) = .ok config) :
    config.host = "" ∧ config.user = "" ∧ config.password = "" ∧
      (config.database = "" ↔ ¬Reference.EscapesRoot rest.toList) := by
  have whole : (indent count ++ scheme ++ ":" ++ rest).toList =
      List.replicate count ' ' ++ (scheme.toList ++ ':' :: rest.toList) := by
    simp [indent]
  have endpoint := toEndpoint_of_ofDsn accepted
  rw [whole, Reference.split_indent] at endpoint
  obtain ⟨host, user, password⟩ := Reference.endpoint_split_rootless named rootless
  rw [endpoint]
  exact ⟨host, user, password, Reference.database_endpoint_rootless_iff named rootless⟩

/-- An escaped slash alone, before options with slashes of their own. -/
theorem rootless_endpoint_slashed :
    Reference.isScheme "cH+1".toList ∧ "%2F?x=//h/db".toList.head? ≠ some '/' ∧
      ∃ config, ofDsn (indent 2 ++ "cH+1" ++ ":" ++ "%2F?x=//h/db") = .ok config ∧
        config.host = "" ∧ config.user = "" ∧ config.password = "" ∧
        (config.database = "" ↔ ¬Reference.EscapesRoot "%2F?x=//h/db".toList) := by
  have named : Reference.isScheme "cH+1".toList := by decide
  have rootless : "%2F?x=//h/db".toList.head? ≠ some '/' := by decide
  have accepted : ofDsn (indent 2 ++ "cH+1" ++ ":" ++ "%2F?x=//h/db") =
      .ok { scheme := "ch+1", host := "", params := some (.ofList [("x", "//h/db")]) } := by
    decide +kernel
  exact ⟨named, rootless, _, accepted, rootless_endpoint named rootless accepted⟩

/-- An escaped slash starts a path in which a database is named, without a slash after the
scheme. -/
theorem not_rootless_endpoint :
    ∃ config, ofDsn "a:%2Fdb" = .ok config ∧ ¬(config.host = "" ∧ config.database = "") := by
  have accepted : ofDsn "a:%2Fdb" = .ok { scheme := "a", host := "", database := "db" } := by
    decide +kernel
  refine ⟨_, accepted, ?_⟩
  rintro ⟨_, absent⟩
  exact absurd absent (by decide)

end Config

end ConnString
