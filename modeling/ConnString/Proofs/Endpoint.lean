import ConnString.Config.Writer
import ConnString.Proofs.Authority
import ConnString.Proofs.Query
import ConnString.Proofs.Reference

/-!
# Endpoints read back

The text for an endpoint splits into the parts that were written (`split_write`), and reading
accepts it exactly if the host is sound as an authority of its own (`read_write_eq_ok_iff`). The
parts describe the endpoint with its path for database, but for a password without a user, which is
not written (`endpoint_writtenReference`).
-/

namespace ConnString

open Text

namespace Endpoint

/-- The user and the password as they are written before the `@`. -/
def writtenCredentials (endpoint : Endpoint) : List Char :=
  Percent.encode Percent.keptInUserinfo endpoint.user.toList ++
    if endpoint.password = "" then []
    else ':' :: Percent.encode Percent.keptInUserinfo endpoint.password.toList

/-- Without a user no user part is written, not even for a password. -/
theorem writtenUserinfo_of_user_eq {endpoint : Endpoint} (anonymous : endpoint.user = "") :
    endpoint.writtenUserinfo = [] := by
  rw [writtenUserinfo, if_pos anonymous]

/-- With a user the credentials and an `@` are written. -/
theorem writtenUserinfo_of_user_ne {endpoint : Endpoint} (named : endpoint.user ≠ "") :
    endpoint.writtenUserinfo = endpoint.writtenCredentials ++ ['@'] := by
  rw [writtenUserinfo, if_neg named, writtenCredentials]

/-- A character of written credentials is one that they keep, a percent sign or a colon. -/
theorem of_mem_writtenCredentials {endpoint : Endpoint} {char : Char}
    (member : char ∈ endpoint.writtenCredentials) :
    Percent.keptInUserinfo char ∨ char = '%' ∨ char = ':' := by
  have component : ∀ {text : List Char},
      char ∈ Percent.encode Percent.keptInUserinfo text →
        Percent.keptInUserinfo char ∨ char = '%' ∨ char = ':' := fun inside =>
    (Percent.kept_or_sign_of_mem_encode
      (fun _ => Percent.keptInUserinfo_of_isUnreserved) inside).imp_right .inl
  rw [writtenCredentials, List.mem_append] at member
  rcases member with user | password
  · exact component user
  · split at password
    · cases password
    · rcases List.mem_cons.mp password with colon | inside
      · exact .inr (.inr colon)
      · exact component inside

/-- Credentials hold no character that is escaped in them. -/
theorem not_mem_writtenCredentials {endpoint : Endpoint} {char : Char}
    (escaped : Percent.keptInUserinfo char = false) (noSign : char ≠ '%') (noColon : char ≠ ':') :
    char ∉ endpoint.writtenCredentials := by
  intro member
  rcases of_mem_writtenCredentials member with kept | sign | colon
  · rw [escaped] at kept
    cases kept
  · exact noSign sign
  · exact noColon colon

/-- Credentials hold only what could stand in a host as well. -/
theorem isHostChar_of_mem_writtenCredentials {endpoint : Endpoint} {char : Char}
    (member : char ∈ endpoint.writtenCredentials) : Host.isHostChar char := by
  rcases of_mem_writtenCredentials member with kept | rfl | rfl
  · rw [Percent.keptInUserinfo] at kept
    rw [Host.isHostChar, kept, Bool.true_or, Bool.true_or]
  · decide
  · decide

/-- No character of written credentials hides a delimiter. -/
theorem hidesDelimiter_of_mem_writtenCredentials {endpoint : Endpoint} {char : Char}
    (member : char ∈ endpoint.writtenCredentials) : Authority.hidesDelimiter char = false := by
  rcases of_mem_writtenCredentials member with kept | rfl | rfl
  · exact hidesDelimiter_of_ascii (toNat_lt_of_keptInUserinfo kept)
  · decide
  · decide

/-- Written credentials have no bad escape. -/
theorem badEscape?_writtenCredentials_append (endpoint : Endpoint) (rest : List Char) :
    Percent.badEscape? (endpoint.writtenCredentials ++ rest) = Percent.badEscape? rest := by
  rw [writtenCredentials, List.append_assoc, Percent.badEscape?_encode_append (by decide)]
  split
  · rfl
  · rw [List.cons_append, Percent.badEscape?_cons (by decide),
      Percent.badEscape?_encode_append (by decide)]

/-- Credentials are cut at their colon and read back. -/
theorem cut_writtenCredentials (endpoint : Endpoint) :
    Percent.decode (cut ':' endpoint.writtenCredentials).1 = endpoint.user.toList ∧
      Percent.decode (cut ':' endpoint.writtenCredentials).2 = endpoint.password.toList := by
  have fresh : ':' ∉ Percent.encode Percent.keptInUserinfo endpoint.user.toList :=
    Percent.not_mem_encode (fun _ => Percent.keptInUserinfo_of_isUnreserved) (by decide)
      (by decide) _
  rw [writtenCredentials]
  split
  · next empty =>
    rw [List.append_nil, cut_of_not_mem fresh, empty]
    exact ⟨Percent.decode_encode (by decide) _, rfl⟩
  · rw [cut_append fresh]
    exact ⟨Percent.decode_encode (by decide) _, Percent.decode_encode (by decide) _⟩

/-! ### The written text -/

/-- The parts of the text for an endpoint with a path and a query, as they are written. -/
def writtenReference (endpoint : Endpoint) (path : List Char) (query : Dict String) :
    Reference where
  scheme := endpoint.scheme.toList
  authority := endpoint.writtenUserinfo ++ endpoint.host.toList
  path := Percent.encode Percent.keptInPath path
  query := Query.write query.sorted

/-- The query of a written text is a tail without a fragment. -/
theorem writtenQuery_eq_tail (query : Dict String) :
    writtenQuery query =
      Reference.tail (if query.entries.isEmpty then none else some (Query.write query.sorted))
        none := by
  rw [writtenQuery]
  split <;> simp [Reference.tail]

/-- The written text, part by part. -/
theorem write_eq (endpoint : Endpoint) (path : List Char) (query : Dict String) :
    (endpoint.write path query).toList =
      endpoint.scheme.toList ++ ':' :: '/' :: '/' ::
        (endpoint.writtenUserinfo ++ endpoint.host.toList ++
          (Percent.encode Percent.keptInPath path ++
            Reference.tail
              (if query.entries.isEmpty then none else some (Query.write query.sorted)) none)) := by
  rw [write, String.toList_ofList, writtenQuery_eq_tail]
  simp only [List.append_assoc, List.cons_append, List.nil_append]

theorem query_getD (query : Dict String) :
    (if query.entries.isEmpty then none else some (Query.write query.sorted)).getD [] =
      Query.write query.sorted := by
  split
  · next empty =>
    rw [Dict.sorted, List.isEmpty_iff.mp empty, List.mergeSort_nil]
    rfl
  · rfl

theorem mem_writtenUserinfo_cases {endpoint : Endpoint} {char : Char}
    (member : char ∈ endpoint.writtenUserinfo) :
    char ∈ endpoint.writtenCredentials ∨ char = '@' := by
  by_cases anonymous : endpoint.user = ""
  · rw [writtenUserinfo_of_user_eq anonymous] at member
    cases member
  · rw [writtenUserinfo_of_user_ne anonymous, List.mem_append, List.mem_singleton] at member
    exact member

variable {endpoint : Endpoint}

/-- Nothing in a written authority ends it. -/
theorem endsAuthority_of_mem_writtenAuthority (host : Host.fault? endpoint.host.toList = none)
    {char : Char} (member : char ∈ endpoint.writtenUserinfo ++ endpoint.host.toList) :
    Reference.endsAuthority char = false := by
  rcases List.mem_append.mp member with userinfo | inside
  · rcases mem_writtenUserinfo_cases userinfo with credentials | rfl
    · exact endsAuthority_eq_false_of_isHostChar
        (isHostChar_of_mem_writtenCredentials credentials)
    · decide
  · exact endsAuthority_eq_false_of_isHostChar (Host.isHostChar_of_fault?_eq_none host inside)

/-- A written query holds no hash sign, so that no fragment starts in it. -/
theorem hash_not_mem_write (query : Dict String) : '#' ∉ Query.write query.sorted := by
  intro member
  exact absurd (Query.isQueryChar_of_mem_write member) (by decide)

/-- The text for an endpoint splits into the parts that were written. -/
theorem split_write (scheme : Reference.isSmallScheme endpoint.scheme.toList)
    (host : Host.fault? endpoint.host.toList = none) (path : List Char) (query : Dict String) :
    Reference.split (endpoint.write ('/' :: path) query).toList =
      endpoint.writtenReference ('/' :: path) query := by
  have rooted : ∀ char, (Percent.encode Percent.keptInPath ('/' :: path)).head? = some char →
      char = '/' := by
    intro char first
    cases first
    rfl
  have plain : ∀ text ∈ (if query.entries.isEmpty then none else some (Query.write query.sorted)),
      '#' ∉ text := by
    intro text member
    split at member
    · cases member
    · cases member
      exact hash_not_mem_write query
  rw [write_eq, Reference.split_append (Reference.isScheme_of_isSmallScheme scheme)
    (fun _ => endsAuthority_of_mem_writtenAuthority host) rooted
    (Percent.not_mem_encode_path (.inl rfl) _) (Percent.not_mem_encode_path (.inr rfl) _) plain
    none,
    Reference.map_toLower_of_isSmallScheme scheme, query_getD]
  rfl

/-! ### Reading the written text -/

/-- A written query holds characters of written texts only. -/
theorem isTextChar_of_mem_writtenQuery {query : Dict String} {char : Char}
    (member : char ∈ writtenQuery query) : isTextChar char := by
  rw [writtenQuery] at member
  split at member
  · cases member
  · rcases List.mem_cons.mp member with rfl | inside
    · decide
    · have kept := Query.isQueryChar_of_mem_write inside
      rw [Query.isQueryChar, Bool.or_eq_true] at kept
      rcases kept with plain | mark
      · exact isTextChar_of_isUnreserved plain
      · exact of_contains (by decide) mark

/-- A written text has no character but those of its alphabet. -/
theorem isTextChar_of_mem_write (scheme : Reference.isSmallScheme endpoint.scheme.toList)
    (host : Host.fault? endpoint.host.toList = none) {path : List Char} {query : Dict String}
    {char : Char} (member : char ∈ (endpoint.write path query).toList) : isTextChar char := by
  rw [write, String.toList_ofList] at member
  simp only [List.mem_append] at member
  rcases member with ((((named | mark) | userinfo) | place) | escaped) | rest
  · exact isTextChar_of_isSchemeChar (Reference.isSchemeChar_of_isSmallSchemeChar
      (Reference.isSmallSchemeChar_of_isSmallScheme scheme named))
  · exact of_contains (by decide) (List.contains_iff_mem.mpr mark)
  · rcases mem_writtenUserinfo_cases userinfo with credentials | rfl
    · exact isTextChar_of_isHostChar (isHostChar_of_mem_writtenCredentials credentials)
    · decide
  · exact isTextChar_of_isHostChar (Host.isHostChar_of_fault?_eq_none host place)
  · rcases Percent.kept_or_sign_of_mem_encode (fun _ => Percent.keptInPath_of_isUnreserved)
      escaped with kept | rfl
    · exact isTextChar_of_keptInPath kept
    · decide
  · exact isTextChar_of_mem_writtenQuery rest

/-- A written text with a scheme and a sound host has no fault as a text. -/
theorem textFault?_write (scheme : Reference.isSmallScheme endpoint.scheme.toList)
    (host : Host.fault? endpoint.host.toList = none) (path : List Char) (query : Dict String) :
    Reference.textFault? (endpoint.write path query).toList = none := by
  have shown : (endpoint.write path query).toList.any isControl = false := by
    rw [List.any_eq_false]
    intro char member
    rw [isControl_eq_false_of_isTextChar (isTextChar_of_mem_write scheme host member)]
    exact Bool.false_ne_true
  have named : (endpoint.write path query).toList.head? ≠ some ':' := by
    rw [write_eq]
    cases letters : endpoint.scheme.toList with
    | nil =>
        rw [letters] at scheme
        cases scheme
    | cons first others =>
        have member : first ∈ endpoint.scheme.toList := by
          rw [letters]
          exact List.mem_cons_self
        have visible := Reference.visible_of_isSchemeChar
          (Reference.isSchemeChar_of_isSmallSchemeChar
            (Reference.isSmallSchemeChar_of_isSmallScheme scheme member))
        simpa using visible.2.1
  rw [Reference.textFault?, shown, if_neg Bool.false_ne_true, if_neg named]

/-- The user part and the host of a written authority. -/
theorem parts_writtenAuthority (host : Host.fault? endpoint.host.toList = none) :
    Authority.parts (endpoint.writtenUserinfo ++ endpoint.host.toList) =
      (if endpoint.user = "" then none else some endpoint.writtenCredentials,
        endpoint.host.toList) := by
  have fresh : '@' ∉ endpoint.host.toList := Host.not_mem_of_fault?_eq_none host (by decide)
  by_cases anonymous : endpoint.user = ""
  · rw [writtenUserinfo_of_user_eq anonymous, List.nil_append, Authority.parts_of_not_mem fresh,
      if_pos anonymous]
  · rw [writtenUserinfo_of_user_ne anonymous, List.append_assoc, List.singleton_append,
      Authority.parts_append fresh, if_neg anonymous]

/-- A written authority is sound exactly if its host is sound by itself. -/
theorem fault?_writtenAuthority (host : Host.fault? endpoint.host.toList = none) :
    Authority.fault? (endpoint.writtenUserinfo ++ endpoint.host.toList) = none ↔
      Authority.fault? endpoint.host.toList = none := by
  have fresh : '@' ∉ endpoint.host.toList := Host.not_mem_of_fault?_eq_none host (by decide)
  by_cases anonymous : endpoint.user = ""
  · rw [writtenUserinfo_of_user_eq anonymous, List.nil_append]
  · rw [writtenUserinfo_of_user_ne anonymous, List.append_assoc, List.singleton_append]
    exact Authority.fault?_append_eq_none_iff
      (not_mem_writtenCredentials (by decide) (by decide) (by decide))
      (not_mem_writtenCredentials (by decide) (by decide) (by decide))
      (fun _ => hidesDelimiter_of_mem_writtenCredentials) fresh

/-- A bad escape of a written authority can only be one of its host. -/
theorem badEscape?_writtenAuthority (endpoint : Endpoint) :
    Percent.badEscape? (endpoint.writtenUserinfo ++ endpoint.host.toList) =
      Percent.badEscape? endpoint.host.toList := by
  by_cases anonymous : endpoint.user = ""
  · rw [writtenUserinfo_of_user_eq anonymous, List.nil_append]
  · rw [writtenUserinfo_of_user_ne anonymous, List.append_assoc, List.singleton_append,
      badEscape?_writtenCredentials_append, Percent.badEscape?_cons (by decide)]

/-- A written text comes apart into sound parts exactly if its host is sound as an authority. -/
theorem fault?_writtenReference (host : Host.fault? endpoint.host.toList = none)
    (escapes : Percent.badEscape? endpoint.host.toList = none) (path : List Char)
    (query : Dict String) :
    Reference.fault? (endpoint.writtenReference path query) = none ↔
      Authority.fault? endpoint.host.toList = none := by
  simp only [Reference.fault?, Reference.escapeFault?, writtenReference, Option.or_eq_none_iff,
    Option.map_eq_none_iff, fault?_writtenAuthority host, badEscape?_writtenAuthority, escapes,
    Percent.badEscape?_encode (show Percent.keptInPath '%' = false by decide),
    parts_writtenAuthority host, host, and_true]

/-- The text for an endpoint is accepted, part for part, exactly if the host is sound as an
authority of its own. -/
theorem read_write_eq_ok_iff (scheme : Reference.isSmallScheme endpoint.scheme.toList)
    (host : Host.fault? endpoint.host.toList = none)
    (escapes : Percent.badEscape? endpoint.host.toList = none) {path : List Char}
    {query : Dict String} {reference : Reference} :
    Reference.read (endpoint.write ('/' :: path) query).toList = .ok reference ↔
      Authority.fault? endpoint.host.toList = none ∧
        endpoint.writtenReference ('/' :: path) query = reference := by
  rw [Reference.read_eq_ok_iff, split_write scheme host, textFault?_write scheme host]
  constructor
  · rintro ⟨_, sound, rfl⟩
    exact ⟨(fault?_writtenReference host escapes _ _).mp sound, rfl⟩
  · rintro ⟨sound, rfl⟩
    exact ⟨rfl, (fault?_writtenReference host escapes _ _).mpr sound, rfl⟩

/-- What is read back of an endpoint: a password without a user is not written. -/
def readBack (endpoint : Endpoint) : Endpoint :=
  { endpoint with password := if endpoint.user = "" then "" else endpoint.password }

/-- The written parts describe the endpoint that is read back, with the path for database. -/
theorem endpoint_writtenReference (host : Host.fault? endpoint.host.toList = none)
    (query : Dict String) :
    (endpoint.writtenReference ('/' :: endpoint.database.toList) query).endpoint =
      endpoint.readBack := by
  have path : Percent.decode
      (Percent.encode Percent.keptInPath ('/' :: endpoint.database.toList)) =
        '/' :: endpoint.database.toList := Percent.decode_encode (by decide) _
  obtain ⟨user, password⟩ := cut_writtenCredentials endpoint
  simp only [Reference.endpoint, writtenReference, parts_writtenAuthority host, path,
    String.ofList_toList]
  by_cases anonymous : endpoint.user = ""
  · simp only [readBack, anonymous, ↓reduceIte, Option.getD_none]
    rfl
  · simp only [readBack, anonymous, ↓reduceIte, Option.getD_some, user, password,
      String.ofList_toList]

end Endpoint

end ConnString
