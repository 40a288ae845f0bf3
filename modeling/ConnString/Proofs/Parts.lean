import ConnString.Location.Tzdata
import ConnString.Proofs.Regular
import Mathlib.Data.List.TakeWhile

/-!
# The parts of a connection string

A connection string that is put together from texts, none of which holds a character that ends it,
is split into these texts again, whatever other separators they hold (`split_text`). Decoding comes
after splitting, so a separator that is written as an escape separates nothing
(`toEndpoint_of_ofDsn_text`).
-/

namespace ConnString

open Text

/-- A cut keeps what comes before the first separator, and drops the separator. -/
theorem Text.cut_eq_takeWhile (separator : Char) (text : List Char) :
    cut separator text =
      (text.takeWhile (· ≠ separator), (text.dropWhile (· ≠ separator)).tail) := by
  cases found : cut? separator text with
  | none =>
      have absent : ∀ char ∈ text, (decide (char ≠ separator)) = true := by
        intro char member
        have other : char ≠ separator := fun same => cut?_eq_none_iff.mp found (same ▸ member)
        exact decide_eq_true other
      rw [cut, found, Option.getD_none, List.takeWhile_eq_self_iff.mpr absent,
        List.dropWhile_eq_nil_iff.mpr absent, List.tail_nil]
  | some sides =>
      obtain ⟨before, after⟩ := sides
      obtain ⟨rfl, fresh⟩ := cut?_eq_some_iff.mp found
      have passed : ∀ char ∈ before, (decide (char ≠ separator)) = true := by
        intro char member
        have other : char ≠ separator := fun same => fresh (same ▸ member)
        exact decide_eq_true other
      rw [cut_append fresh, List.takeWhile_append_of_pos passed,
        List.dropWhile_append_of_pos passed]
      simp

theorem Percent.decode_cons {char : Char} (plain : char ≠ '%') (rest : List Char) :
    decode (char :: rest) = char :: decode rest :=
  decode_eq_cons_of_octets (octets_cons plain rest)

/-- A text without slash, question mark and hash sign holds nothing that ends an authority. -/
theorem Reference.endsAuthority_eq_false {text : List Char}
    (absent : '/' ∉ text ∧ '?' ∉ text ∧ '#' ∉ text) {char : Char} (member : char ∈ text) :
    endsAuthority char = false := by
  obtain ⟨slash, question, hash⟩ := absent
  refine Bool.eq_false_iff.mpr fun ends => ?_
  have marks := List.contains_iff_mem.mp ends
  simp only [List.mem_cons, List.not_mem_nil, or_false] at marks
  rcases marks with rfl | rfl | rfl
  · exact slash member
  · exact question member
  · exact hash member

/-- The texts that a connection string is put together from. None of them holds a character that
ends it; colons may stand anywhere, and `@` anywhere but in the host. -/
structure WrittenParts where
  scheme : List Char
  /-- The text before the last `@`, if there is one. -/
  userinfo : Option (List Char)
  host : List Char
  path : List Char
  query : Option (List Char)
  fragment : Option (List Char)
  named : Reference.isScheme scheme
  inUserinfo : ∀ text ∈ userinfo, '/' ∉ text ∧ '?' ∉ text ∧ '#' ∉ text
  inHost : '/' ∉ host ∧ '?' ∉ host ∧ '#' ∉ host
  lastAt : '@' ∉ host
  rooted : ∀ char, path.head? = some char → char = '/'
  noQuery : '?' ∉ path
  noFragment : '#' ∉ path
  plain : ∀ text ∈ query, '#' ∉ text

namespace WrittenParts

/-- The user part with its `@`, and the host. -/
def authority (parts : WrittenParts) : List Char :=
  parts.userinfo.elim [] (· ++ ['@']) ++ parts.host

/-- The connection string that is put together. -/
def text (parts : WrittenParts) : String :=
  String.ofList
    (parts.scheme ++ ':' :: '/' :: '/' ::
      (parts.authority ++ (parts.path ++ Reference.tail parts.query parts.fragment)))

variable (parts : WrittenParts)

/-- Nothing in the authority that is put together ends it. -/
theorem endsAuthority_of_mem_authority {char : Char} (member : char ∈ parts.authority) :
    Reference.endsAuthority char = false := by
  rcases List.mem_append.mp member with user | host
  · cases present : parts.userinfo with
    | none =>
        rw [present] at user
        cases user
    | some text =>
        rw [present] at user
        rcases List.mem_append.mp user with inside | mark
        · exact Reference.endsAuthority_eq_false (parts.inUserinfo text present) inside
        · rw [List.mem_singleton.mp mark]
          decide
  · exact Reference.endsAuthority_eq_false parts.inHost host

/-- The authority that is put together comes apart into the same user part and host. -/
theorem parts_authority : Authority.parts parts.authority = (parts.userinfo, parts.host) := by
  rw [authority]
  cases parts.userinfo with
  | none => exact Authority.parts_of_not_mem parts.lastAt
  | some text =>
      rw [Option.elim_some, List.append_assoc, List.singleton_append,
        Authority.parts_append parts.lastAt]

/-- The text that is put together comes apart into the same parts. -/
theorem split_text :
    Reference.split parts.text.toList =
      ⟨parts.scheme.map Char.toLower, parts.authority, parts.path, parts.query.getD []⟩ := by
  rw [text, String.toList_ofList]
  exact Reference.split_append parts.named (fun _ => parts.endsAuthority_of_mem_authority)
    parts.rooted parts.noQuery parts.noFragment parts.plain parts.fragment

/-- A path that is put together is decoded to nothing or to a slash and the database. -/
theorem decode_path :
    Percent.decode parts.path = [] ∨ ∃ database, Percent.decode parts.path = '/' :: database := by
  cases letters : parts.path with
  | nil => exact .inl rfl
  | cons first rest =>
      have slash : first = '/' := parts.rooted first (by rw [letters, List.head?_cons])
      exact .inr ⟨_, by rw [slash, Percent.decode_cons (by decide)]⟩

/-- The endpoint of a connection string that is read has the parts that the text was put together
from: the scheme in small letters, the host as it is written, the path decoded without its slash,
and the decoded texts before and after the first colon of the user part. -/
theorem toEndpoint_of_ofDsn_text [ZoneDatabase] {config : Config}
    (accepted : Config.ofDsn parts.text = .ok config) :
    config.toEndpoint =
      { scheme := String.ofList (parts.scheme.map Char.toLower)
        user := String.ofList
          (Percent.decode ((parts.userinfo.getD []).takeWhile (· ≠ ':')))
        password := String.ofList
          (Percent.decode ((parts.userinfo.getD []).dropWhile (· ≠ ':')).tail)
        host := String.ofList parts.host
        database := String.ofList (Percent.decode parts.path).tail } := by
  obtain ⟨reference, read, applied⟩ := Config.exists_reference_of_ofDsn accepted
  obtain ⟨_, _, rfl⟩ := Reference.read_eq_ok_iff.mp read
  rw [Config.toEndpoint_applyPairs applied, split_text]
  simp only [Reference.endpoint, parts_authority, cut_eq_takeWhile]
  rcases parts.decode_path with empty | ⟨database, decoded⟩
  · rw [empty]
    rfl
  · rw [decoded]
    rfl

end WrittenParts

open scoped Tzdata

/-- Separators in every part that may hold them. -/
def crowded : WrittenParts where
  scheme := "cH+1".toList
  userinfo := some "a%3Ab:p@q:%2F".toList
  host := "[fe80::1%25e]:9".toList
  path := "//d%2fb:@/".toList
  query := some "x=//y:z@w?".toList
  fragment := some "#[?".toList
  named := by decide
  inUserinfo _ same := Option.some.inj same ▸ by decide
  inHost := by decide
  lastAt := by decide
  rooted char first := by simpa using first.symm
  noQuery := by decide
  noFragment := by decide
  plain _ same := Option.some.inj same ▸ by decide

/-- The endpoint of the text that is put together from them. -/
def crowdedEndpoint : Endpoint where
  scheme := "ch+1"
  user := "a:b"
  password := "p@q:/"
  host := "[fe80::1%25e]:9"
  database := "/d/b:@/"

/-- Separators in every part that may hold them. -/
theorem WrittenParts.toEndpoint_of_ofDsn_text_crowded :
    ∃ config, Config.ofDsn crowded.text = .ok config ∧ config.toEndpoint = crowdedEndpoint ∧
      config.toEndpoint =
        { scheme := String.ofList (crowded.scheme.map Char.toLower)
          user := String.ofList
            (Percent.decode ((crowded.userinfo.getD []).takeWhile (· ≠ ':')))
          password := String.ofList
            (Percent.decode ((crowded.userinfo.getD []).dropWhile (· ≠ ':')).tail)
          host := String.ofList crowded.host
          database := String.ofList (Percent.decode crowded.path).tail } := by
  have accepted : Config.ofDsn crowded.text =
      .ok { toEndpoint := crowdedEndpoint, params := some (.ofList [("x", "//y:z@w?")]) } := by
    decide +kernel
  exact ⟨_, accepted, rfl, crowded.toEndpoint_of_ofDsn_text accepted⟩

end ConnString
