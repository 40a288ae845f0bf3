import ConnString.Proofs.Endpoint

/-!
# Written texts are escaped around the host

Whatever characters user, password, database and query hold, they are written in an alphabet within
ASCII in which every percent sign starts an escape in capital digits (`Escaped`). So a connection
string and a request URL show scheme and host as they are, and nothing around the host can end its
part early: before it stands at most a user part (`UserPart`), after it a path with at most one
query (`Target`).
-/

namespace ConnString

open Text

/-- Whether a character is a hexadecimal digit that is no small letter. -/
def Text.Hex.isCapital (char : Char) : Bool :=
  char.isDigit || ['A', 'B', 'C', 'D', 'E', 'F'].contains char

/-- The digits that escapes are written with are capital. -/
theorem Text.Hex.isCapital_capital {value : Nat} (small : value < 16) :
    isCapital (capital value) := by
  have each : ∀ number : Fin 16, isCapital (capital number) := by decide
  exact each ⟨value, small⟩

/-- Whether a character may stand in an escaped text: a letter or a digit of ASCII, a mark that
stands for itself, or a mark that separates parts of a URL. -/
def isEscapedChar (char : Char) : Bool :=
  Percent.isUnreserved char || Percent.isSubDelimiter char ||
    [':', '@', '/', '?', '%'].contains char

/-- A text of the characters that an escaped text may hold, in which two capital digits follow each
percent sign. -/
structure Escaped (text : List Char) : Prop where
  char : ∀ char ∈ text, isEscapedChar char
  digits : ∀ front back, text = front ++ '%' :: back →
    ∃ high low rest, back = high :: low :: rest ∧ Hex.isCapital high ∧ Hex.isCapital low

/-- What a path keeps may stand in an escaped text. -/
theorem isEscapedChar_of_keptInPath {char : Char} (kept : Percent.keptInPath char) :
    isEscapedChar char := by
  rw [Percent.keptInPath, Percent.keptInUserinfo, Bool.or_eq_true] at kept
  rw [isEscapedChar]
  rcases kept with plain | mark
  · rw [plain, Bool.true_or]
  · have separates : [':', '@', '/', '?', '%'].contains char :=
      of_contains (motive := fun mark => [':', '@', '/', '?', '%'].contains mark) (by decide) mark
    rw [separates, Bool.or_true]

/-- A character of an escaped text is no control character, no space and none beyond ASCII. -/
theorem visible_of_isEscapedChar {char : Char} (kept : isEscapedChar char) :
    isControl char = false ∧ char ≠ ' ' ∧ char.toNat < 128 := by
  have ascii : char.toNat < 128 := by
    rw [isEscapedChar, Bool.or_eq_true] at kept
    rcases kept with plain | mark
    · exact toNat_lt_of_keptInUserinfo plain
    · exact toNat_lt_of_contains (by decide) mark
  have apart := of_ascii
    (motive := fun char => isEscapedChar char → isControl char = false ∧ char ≠ ' ')
    (by decide) ascii kept
  exact ⟨apart.1, apart.2, ascii⟩

/-! ### Escaped texts put together -/

/-- Without a percent sign the characters alone decide. -/
theorem escaped_of_signless {text : List Char} (kept : ∀ char ∈ text, isEscapedChar char)
    (signless : '%' ∉ text) : Escaped text where
  char := kept
  digits := by
    rintro front back rfl
    exact absurd (List.mem_append_right _ List.mem_cons_self) signless

namespace Escaped

theorem nil : Escaped [] :=
  escaped_of_signless (fun _ member => nomatch member) List.not_mem_nil

theorem append {front back : List Char} (left : Escaped front) (right : Escaped back) :
    Escaped (front ++ back) where
  char char member :=
    (List.mem_append.mp member).elim (left.char char) (right.char char)
  digits := by
    intro before after same
    -- The sign stands in one of the two texts, and its digits stand in the same one.
    rcases List.append_eq_append_iff.mp same with ⟨middle, _, inBack⟩ | ⟨middle, inFront, rest⟩
    · exact right.digits middle after inBack
    · cases middle with
      | nil => exact right.digits [] after rest.symm
      | cons sign middle =>
          rw [List.cons_append, List.cons.injEq] at rest
          obtain ⟨rfl, rfl⟩ := rest
          obtain ⟨high, low, more, rfl, capitals⟩ := left.digits before middle inFront
          exact ⟨high, low, more ++ back, rfl, capitals⟩

theorem cons {char : Char} {text : List Char} (kept : isEscapedChar char) (other : char ≠ '%')
    (rest : Escaped text) : Escaped (char :: text) := by
  have single : Escaped [char] :=
    escaped_of_signless (fun _ member => List.mem_singleton.mp member ▸ kept)
      fun member => other (List.mem_singleton.mp member).symm
  exact single.append rest

theorem flatMap {α : Type} {list : List α} {write : α → List Char}
    (each : ∀ item ∈ list, Escaped (write item)) : Escaped (list.flatMap write) := by
  induction list with
  | nil => exact nil
  | cons item rest ih =>
      rw [List.flatMap_cons]
      exact (each item List.mem_cons_self).append
        (ih fun other member => each other (List.mem_cons_of_mem _ member))

end Escaped

/-! ### What is written is escaped -/

/-- An escape is an escaped text. -/
theorem Percent.escaped_escape (octet : UInt8) : Escaped (escape octet) where
  char := by
    have bound : octet.toNat < 256 := octet.toNat_lt
    have digit : ∀ value < 16, isEscapedChar (Hex.capital value) := fun value small =>
      isEscapedChar_of_keptInPath (keptInPath_of_isUnreserved (isUnreserved_capital small))
    intro char member
    simp only [escape, List.mem_cons, List.not_mem_nil, or_false] at member
    rcases member with rfl | rfl | rfl
    · decide
    · exact digit _ (by omega)
    · exact digit _ (by omega)
  digits := by
    have bound : octet.toNat < 256 := octet.toNat_lt
    have high := Hex.isCapital_capital (show octet.toNat / 16 < 16 by omega)
    have low := Hex.isCapital_capital (show octet.toNat % 16 < 16 by omega)
    have noSign : Hex.isCapital '%' = false := by decide
    intro front back same
    rw [escape] at same
    -- The sign is the first of the three characters, as no digit is one.
    rcases front with _ | ⟨first, _ | ⟨second, _ | ⟨third, front⟩⟩⟩
    · cases same
      exact ⟨_, _, [], rfl, high, low⟩
    · simp only [List.cons_append, List.nil_append, List.cons.injEq] at same
      rw [same.2.1, noSign] at high
      cases high
    · simp only [List.cons_append, List.nil_append, List.cons.injEq] at same
      rw [same.2.2.1, noSign] at low
      cases low
    · simp at same

variable {keep : Char → Bool}

/-- Percent encoding that keeps no more than a path does makes an escaped text. -/
theorem Percent.escaped_encode (within : ∀ char, keep char → keptInPath char)
    (text : List Char) : Escaped (encode keep text) := by
  refine .flatMap fun char _ => ?_
  rw [encodeChar]
  by_cases kept : keep char
  · have other : char ≠ '%' := by
      rintro rfl
      exact absurd (within '%' kept) (by decide)
    rw [if_pos kept]
    exact .cons (isEscapedChar_of_keptInPath (within char kept)) other .nil
  · rw [if_neg kept]
    exact .flatMap fun octet _ => escaped_escape octet

namespace Query

/-- The encoding of queries makes an escaped text. -/
theorem escaped_encode (text : List Char) : Escaped (encode text) := by
  refine .flatMap fun char _ => ?_
  rw [encodeChar]
  split
  · exact .cons (by decide) (by decide) .nil
  · have whole := Percent.escaped_encode (fun _ => Percent.keptInPath_of_isUnreserved) [char]
    rwa [Percent.encode, List.flatMap_singleton] at whole

theorem escaped_write (pairs : List (String × String)) : Escaped (write pairs) := by
  refine intercalate_closed .nil .append (.cons (by decide) (by decide) .nil)
    fun piece member => ?_
  obtain ⟨pair, _, rfl⟩ := List.mem_map.mp member
  exact (escaped_encode _).append (.cons (by decide) (by decide) (escaped_encode _))

end Query

namespace Endpoint

theorem escaped_writtenCredentials (endpoint : Endpoint) : Escaped endpoint.writtenCredentials := by
  have component : ∀ text, Escaped (Percent.encode Percent.keptInUserinfo text) :=
    Percent.escaped_encode fun char kept => by
      rw [Percent.keptInPath, kept, Bool.true_or]
  rw [writtenCredentials]
  refine (component _).append ?_
  split
  · exact .nil
  · exact .cons (by decide) (by decide) (component _)

/-- Credentials hold one colon at most, before the password. -/
theorem count_colon_writtenCredentials (endpoint : Endpoint) :
    endpoint.writtenCredentials.count ':' ≤ 1 := by
  have fresh : ∀ text, (Percent.encode Percent.keptInUserinfo text).count ':' = 0 := fun text =>
    List.count_eq_zero.mpr (Percent.not_mem_encode
      (fun _ => Percent.keptInUserinfo_of_isUnreserved) (by decide) (by decide) text)
  rw [writtenCredentials, List.count_append, fresh, Nat.zero_add]
  split
  · simp
  · exact Nat.le_of_eq (by rw [List.count_cons_self, fresh])

/-- A query is an escaped text with its question mark as well. -/
theorem escaped_writtenQuery (query : Dict String) : Escaped (writtenQuery query) := by
  rw [writtenQuery]
  split
  · exact .nil
  · exact .cons (by decide) (by decide) (Query.escaped_write _)

/-- A written query has no question mark but the one before it. -/
theorem count_question_writtenQuery (query : Dict String) :
    (writtenQuery query).count '?' ≤ 1 := by
  rw [writtenQuery]
  split
  · simp
  · have fresh : '?' ∉ Query.write query.sorted := fun member =>
      absurd (Query.isQueryChar_of_mem_write member) (by decide)
    exact Nat.le_of_eq (by rw [List.count_cons_self, List.count_eq_zero.mpr fresh])

/-- No fragment follows a written query. -/
theorem hash_not_mem_writtenQuery (query : Dict String) : '#' ∉ writtenQuery query := by
  rw [writtenQuery]
  split
  · exact List.not_mem_nil
  · intro member
    rcases List.mem_cons.mp member with mark | inside
    · exact absurd mark (by decide)
    · exact hash_not_mem_write query inside

/-! ### What stands around the host -/

/-- Nothing, or an escaped user part with its `@` and without the delimiters of a path. -/
structure UserPart (text : List Char) : Prop where
  escaped : Escaped text
  ended : text = [] ∨ ∃ userinfo, text = userinfo ++ ['@'] ∧ '@' ∉ userinfo
  oneColon : text.count ':' ≤ 1
  noPath : '/' ∉ text
  noQuery : '?' ∉ text

/-- An escaped path with at most one query and no fragment. -/
structure Target (text : List Char) : Prop where
  escaped : Escaped text
  rooted : text.head? = some '/'
  oneQuery : text.count '?' ≤ 1
  noFragment : '#' ∉ text

/-- Written credentials with their `@` are a user part. -/
theorem userPart_writtenCredentials (endpoint : Endpoint) :
    UserPart (endpoint.writtenCredentials ++ ['@']) where
  escaped := endpoint.escaped_writtenCredentials.append (.cons (by decide) (by decide) .nil)
  ended := .inr ⟨_, rfl, not_mem_writtenCredentials (by decide) (by decide) (by decide)⟩
  oneColon := by
    rw [List.count_append]
    exact endpoint.count_colon_writtenCredentials
  noPath member := (List.mem_append.mp member).elim
    (not_mem_writtenCredentials (by decide) (by decide) (by decide)) (by decide)
  noQuery member := (List.mem_append.mp member).elim
    (not_mem_writtenCredentials (by decide) (by decide) (by decide)) (by decide)

/-- What is written before a host is a user part or nothing. -/
theorem userPart_writtenUserinfo (endpoint : Endpoint) : UserPart endpoint.writtenUserinfo := by
  by_cases anonymous : endpoint.user = ""
  · rw [writtenUserinfo_of_user_eq anonymous]
    exact ⟨.nil, .inl rfl, Nat.zero_le 1, List.not_mem_nil, List.not_mem_nil⟩
  · rw [writtenUserinfo_of_user_ne anonymous]
    exact endpoint.userPart_writtenCredentials

/-- A written path with its query is a target. -/
theorem target_write (path : List Char) (query : Dict String) :
    Target (Percent.encode Percent.keptInPath ('/' :: path) ++ writtenQuery query) where
  escaped := (Percent.escaped_encode (fun _ => id) _).append (escaped_writtenQuery query)
  rooted := rfl
  oneQuery := by
    rw [List.count_append, List.count_eq_zero.mpr (Percent.not_mem_encode_path (.inl rfl) _),
      Nat.zero_add]
    exact count_question_writtenQuery query
  noFragment member := (List.mem_append.mp member).elim
    (Percent.not_mem_encode_path (.inr rfl) _) (hash_not_mem_writtenQuery query)

/-- A text shows the scheme and the host of an endpoint as they are, with a user part before the
host and a target behind it, in which every character is visible and within ASCII. -/
structure Framed (endpoint : Endpoint) (text : String) (front back : List Char) : Prop where
  toList_eq : text.toList =
    endpoint.scheme.toList ++ [':', '/', '/'] ++ front ++ endpoint.host.toList ++ back
  userPart : UserPart front
  target : Target back
  visible : ∀ char ∈ front ++ back, isControl char = false ∧ char ≠ ' ' ∧ char.toNat < 128

/-- What is written for an endpoint frames its host. -/
theorem framed_write (endpoint : Endpoint) (path : List Char) (query : Dict String) :
    Framed endpoint (endpoint.write ('/' :: path) query) endpoint.writtenUserinfo
      (Percent.encode Percent.keptInPath ('/' :: path) ++ writtenQuery query) where
  toList_eq := by
    rw [write, String.toList_ofList]
    simp only [List.append_assoc]
  userPart := endpoint.userPart_writtenUserinfo
  target := target_write path query
  visible char member := visible_of_isEscapedChar
    ((endpoint.userPart_writtenUserinfo.escaped.append (target_write path query).escaped).char
      char member)

end Endpoint

namespace Config

/-- A connection string and a request URL are framed, whatever texts a configuration and further
entries hold. -/
theorem exists_framed {config : Config} {params : Dict String}
    (present : config.params = some params) (extra : Option (Dict String)) (inPath : Bool) :
    (∃ front back, config.toEndpoint.Framed config.toDsn front back) ∧
      ∃ text front back, config.url extra inPath = .ok text ∧
        config.toEndpoint.Framed text front back :=
  ⟨⟨_, _, config.toEndpoint.framed_write _ _⟩,
    ⟨_, _, _, url_of_params present extra inPath, config.toEndpoint.framed_write _ _⟩⟩

/-- A configuration whose texts hold ends of lines and delimiters. -/
def breaking : Config where
  scheme := "a b"
  user := "@/\n"
  password := ":%é"
  host := "h?#"
  database := "?x=1#\x00"
  params := some (.ofList [("&k=", "\r\n"), ("", "+%zz"), ("timeout", "€ ")])

/-- Ends of lines and delimiters in every part, and in a further entry. -/
theorem exists_framed_breaking :
    ∃ params, breaking.params = some params ∧
      (∃ front back, breaking.toEndpoint.Framed breaking.toDsn front back) ∧
        ∃ text front back, breaking.url (some (.ofList [("#", "?")])) false = .ok text ∧
          breaking.toEndpoint.Framed text front back := by
  have present : breaking.params =
      some (.ofList [("&k=", "\r\n"), ("", "+%zz"), ("timeout", "€ ")]) := rfl
  exact ⟨_, present, exists_framed present (some (.ofList [("#", "?")])) false⟩

end Config

end ConnString
