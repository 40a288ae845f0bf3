import ConnString.Proofs.RoundTrip

/-!
# Request URLs

A request URL is the connection string of a configuration without typed options, whose parameters
are all that the request merges into its query (`url_eq_toDsn`). If the scheme and the host of the
configuration can be written, the URL is read without a fault, and its parts decode to exactly what
was asked for: scheme, credentials, host and path, and a query that has each key once, in ascending
order, with the value that was merged last (`exists_url_asks`).
-/

namespace ConnString

open Text

namespace Config

/-! ### The query of a request -/

/-- The database as a parameter, unless it is empty. -/
def databaseParam (config : Config) : Dict String :=
  .ofList (if config.database = "" then [] else [("database", config.database)])

/-- The database is a parameter under its own key unless it is empty. -/
theorem get?_databaseParam (config : Config) (key : String) :
    config.databaseParam.get? key =
      if key = "database" ∧ config.database ≠ "" then some config.database else none := by
  rw [databaseParam]
  by_cases empty : config.database = ""
  · rw [if_pos empty, if_neg fun both => both.2 empty]
    rfl
  · have fresh : ([("database", config.database)].map Prod.fst).Nodup := List.nodup_singleton _
    rw [if_neg empty, Dict.get?_ofList fresh, List.lookup_cons]
    by_cases same : key = "database"
    · simp [same, empty]
    · simp [beq_eq_false_iff_ne.mpr same, same]

section

variable (config : Config) (params : Dict String) (extra : Option (Dict String))

/-- A request with the database in its path merges the parameters and the further entries. -/
theorem requestQuery_inPath :
    config.requestQuery params extra true = params.insertAll (extra.getD ∅).entries := by
  rw [requestQuery, if_pos (.inr rfl)]
  exact congrArg (Dict.insertAll · _) params.ofList_entries

/-- With the database out of the path the query has all three layers. -/
theorem requestQuery_notInPath :
    config.requestQuery params extra false =
      (config.databaseParam.insertAll params.entries).insertAll (extra.getD ∅).entries := by
  rw [requestQuery, databaseParam]
  by_cases empty : config.database = ""
  · rw [if_pos (.inl empty), if_pos empty]
    rfl
  · rw [if_neg (by simpa using empty), if_neg empty]
    rfl

/-- The value that a request has for a key: further entries win over parameters, and parameters over
the database, which is left out if it is empty or in the path. -/
def requested (inPath : Bool) (key : String) : Option String :=
  ((extra.getD ∅).get? key).or
    ((params.get? key).or
      (if key = "database" ∧ config.database ≠ "" ∧ inPath = false then some config.database
        else none))

/-- The query of a request has what is requested under each key. -/
theorem get?_requestQuery (inPath : Bool) (key : String) :
    (config.requestQuery params extra inPath).get? key =
      config.requested params extra inPath key := by
  cases inPath with
  | true =>
      rw [requestQuery_inPath, Dict.get?_insertAll_entries]
      simp only [requested, Bool.true_eq_false, and_false, ↓reduceIte, Option.or_none]
  | false =>
      rw [requestQuery_notInPath, Dict.get?_insertAll_entries, Dict.get?_insertAll_entries,
        get?_databaseParam]
      simp only [requested, and_true]

end

/-! ### The connection string of a request -/

/-- A configuration with the default options and with other parameters. -/
def untyped (config : Config) (params : Dict String) : Config :=
  { config with toTypedOptions := {}, params := some params }

/-- Without typed options the parameters are the whole query. -/
theorem dsnQuery_untyped (config : Config) (params : Dict String) :
    (config.untyped params).dsnQuery = params := by
  have unwritten : ({} : TypedOptions).written = [] := by decide
  rw [dsnQuery, untyped, unwritten]
  exact params.ofList_entries

/-- A request URL is the connection string of the configuration without typed options and with all
that is merged for parameters; the database goes before them, or else it is the path. -/
theorem url_eq_toDsn {config : Config} {params : Dict String}
    (present : config.params = some params) (extra : Option (Dict String)) :
    config.url extra true =
      .ok (config.untyped (params.insertAll (extra.getD ∅).entries)).toDsn ∧
    config.url extra false =
      .ok (untyped { config with database := "" }
        ((config.databaseParam.insertAll params.entries).insertAll
          (extra.getD ∅).entries)).toDsn := by
  constructor
  · rw [url_of_params present, toDsn, dsnQuery_untyped, requestQuery_inPath]
    rfl
  · rw [url_of_params present, toDsn, dsnQuery_untyped, requestQuery_notInPath]
    rfl

/-- A configuration with separators in every part that may hold them, and with parameters that have
the keys of an option and of the database. -/
def layered : Config :=
  { unusual with
    database := "/d b&=+#"
    params := some (.ofList [("z&", "="), ("", ""), ("database", "p"), ("timeout", "5s")]) }

/-- Entries of which some have the keys of its parameters. -/
def layers : Dict String := .ofList [("timeout", "\n"), ("é+", ""), ("z&", "%3D #")]

/-- Parameters and further entries under the keys of an option and of the database. -/
theorem url_eq_toDsn_layered :
    ∃ params, layered.params = some params ∧
      layered.url (some layers) true =
        .ok (layered.untyped (params.insertAll layers.entries)).toDsn ∧
      layered.url (some layers) false =
        .ok (untyped { layered with database := "" }
          ((layered.databaseParam.insertAll params.entries).insertAll layers.entries)).toDsn := by
  have present : layered.params =
      some (.ofList [("z&", "="), ("", ""), ("database", "p"), ("timeout", "5s")]) := rfl
  exact ⟨_, present, url_eq_toDsn present (some layers)⟩

end Config

/-! ### What a request URL says -/

/-- The user and the password that a user part stands for: the texts around its first colon. -/
def Authority.credentials (userinfo : List Char) : String × String :=
  (String.ofList (Percent.decode (cut ':' userinfo).1),
    String.ofList (Percent.decode (cut ':' userinfo).2))

/-- The written authority stands for the user and the password, or for none without a user. -/
theorem Endpoint.credentials_writtenAuthority {endpoint : Endpoint}
    (host : Host.fault? endpoint.host.toList = none) :
    (Authority.parts (endpoint.writtenUserinfo ++ endpoint.host.toList)).1.map
        Authority.credentials =
      if endpoint.user = "" then none else some (endpoint.user, endpoint.password) := by
  rw [parts_writtenAuthority host]
  by_cases anonymous : endpoint.user = ""
  · rw [if_pos anonymous, if_pos anonymous, Option.map_none]
  · obtain ⟨user, password⟩ := cut_writtenCredentials endpoint
    rw [if_neg anonymous, if_neg anonymous, Option.map_some, Authority.credentials, user, password,
      String.ofList_toList, String.ofList_toList]

/-- The parts of a reference decode to what a configuration asks for. There is no user part without
a user, and each key of the query comes once, in ascending order, with its value alone. -/
structure Reference.Asks (reference : Reference) (config : Config) (inPath : Bool)
    (requested : String → Option String) : Prop where
  scheme : reference.scheme = config.scheme.toList
  host : (Authority.parts reference.authority).2 = config.host.toList
  credentials : (Authority.parts reference.authority).1.map Authority.credentials =
    if config.user = "" then none else some (config.user, config.password)
  path : Percent.decode reference.path = '/' :: if inPath then config.database.toList else []
  ascending : (Query.read reference.query).keys.Pairwise (· < ·)
  values : ∀ key, (Query.read reference.query).get? key =
    (requested key).map fun value => [value]

namespace Config

/-- The parts of a written request URL decode to what was asked for. -/
theorem asks_writtenReference {config : Config} (host : Host.fault? config.host.toList = none)
    (params : Dict String) (extra : Option (Dict String)) (inPath : Bool) :
    (config.toEndpoint.writtenReference (config.requestPath inPath)
      (config.requestQuery params extra inPath)).Asks config inPath
        (config.requested params extra inPath) where
  scheme := rfl
  host := by
    rw [Endpoint.writtenReference, Endpoint.parts_writtenAuthority host]
  credentials := Endpoint.credentials_writtenAuthority host
  path := Percent.decode_encode (by decide) _
  ascending := by
    rw [Endpoint.writtenReference, Query.read_write_sorted, Dict.keys_singletons]
    exact Dict.strict_keys_sorted _
  values := by
    intro key
    rw [Endpoint.writtenReference, Query.read_write_sorted, Dict.get?_singletons,
      get?_requestQuery]

/-- There is a request URL, it is read without a fault, it has no fragment, and its parts decode to
what was asked for. -/
theorem exists_url_asks [ZoneDatabase] {config : Config} {params : Dict String}
    (scheme : Reference.isSmallScheme config.scheme.toList) (host : Host.StandsAlone config.host)
    (present : config.params = some params) (extra : Option (Dict String)) (inPath : Bool) :
    ∃ text reference, config.url extra inPath = .ok text ∧ '#' ∉ text.toList ∧
      Reference.read text.toList = .ok reference ∧
      reference.Asks config inPath (config.requested params extra inPath) := by
  have writable : config.toEndpoint.Writable := host.writable scheme
  refine ⟨_, _, url_of_params present extra inPath, ?_, writable.read_write _ _,
    asks_writtenReference writable.host params extra inPath⟩
  intro fragment
  have shown := Endpoint.isTextChar_of_mem_write writable.scheme writable.host fragment
  exact absurd shown (by decide)

open scoped Tzdata

/-- Separators in every part, and keys that all three layers have. -/
theorem exists_url_asks_layered :
    Reference.isSmallScheme layered.scheme.toList ∧ Host.StandsAlone layered.host ∧
      ∃ params, layered.params = some params ∧
        ∃ text reference, layered.url (some layers) false = .ok text ∧ '#' ∉ text.toList ∧
          Reference.read text.toList = .ok reference ∧
          reference.Asks layered false (layered.requested params (some layers) false) := by
  have scheme : Reference.isSmallScheme layered.scheme.toList := by decide
  have host : Host.StandsAlone layered.host :=
    ⟨{ host := "[fe80::1%25e]:9440" }, by decide +kernel, rfl⟩
  exact ⟨scheme, host, _, rfl, exists_url_asks scheme host rfl (some layers) false⟩

end Config

end ConnString
