import ConnString.Proofs.DsnQuery
import ConnString.Proofs.Endpoint
import ConnString.Proofs.Regular

/-!
# Connection strings read back

Reading the connection string of a configuration whose endpoint is `Writable` sets its sorted query
on top of its endpoint (`ofDsn_toDsn`). The typed options come back, so the outcome is that of
setting the parameters in ascending order of their keys (`ofDsn_toDsn_of_located`). If none of them
has a reserved key, the configuration read back is `Config.readBack`, which is written alike
(`toDsn_readBack`). The connection string of a regular configuration is read exactly if its endpoint
is writable (`ofDsn_toDsn_eq_ok_iff`).
-/

namespace ConnString

namespace Endpoint

/-- The scheme is in small letters and the host is sound as an authority of its own. -/
structure Writable (endpoint : Endpoint) : Prop where
  scheme : Reference.isSmallScheme endpoint.scheme.toList
  host : Host.fault? endpoint.host.toList = none
  escapes : Percent.badEscape? endpoint.host.toList = none
  authority : Authority.fault? endpoint.host.toList = none

/-- The text for a writable endpoint is read, part for part. -/
theorem Writable.read_write {endpoint : Endpoint} (writable : endpoint.Writable)
    (path : List Char) (query : Dict String) :
    Reference.read (endpoint.write ('/' :: path) query).toList =
      .ok (endpoint.writtenReference ('/' :: path) query) :=
  (read_write_eq_ok_iff writable.scheme writable.host writable.escapes).mpr
    ⟨writable.authority, rfl⟩

/-- A regular endpoint can be written exactly if it has a scheme, and a bracket at the front of its
host if there is a closing one. -/
theorem Regular.writable_iff {endpoint : Endpoint} (regular : endpoint.Regular) :
    endpoint.Writable ↔ endpoint.scheme ≠ "" ∧
      (']' ∈ endpoint.host.toList → endpoint.host.toList.head? = some '[') := by
  have sound : Authority.fault? endpoint.host.toList = none ↔
      (']' ∈ endpoint.host.toList → endpoint.host.toList.head? = some '[') := by
    obtain ⟨authority, sound, place⟩ := regular.placed
    have accepted := regular.host
    rw [← place] at accepted ⊢
    exact Authority.fault?_host_eq_none_iff sound accepted
  constructor
  · intro writable
    refine ⟨?_, sound.mp writable.authority⟩
    intro empty
    have small := writable.scheme
    rw [empty] at small
    exact absurd small (by decide)
  · rintro ⟨named, closed⟩
    exact ⟨regular.scheme.resolve_left named, regular.host, regular.escapes, sound.mpr closed⟩

/-- A text without a scheme starts with the colon after it. -/
theorem textFault?_write_of_scheme_eq {endpoint : Endpoint} (empty : endpoint.scheme = "")
    (path : List Char) (query : Dict String) :
    Reference.textFault? (endpoint.write path query).toList ≠ none := by
  have first : (endpoint.write path query).toList.head? = some ':' := by
    rw [write_eq, empty]
    rfl
  rw [Reference.textFault?, if_pos first]
  split <;> exact Option.some_ne_none _

/-- Only a writable endpoint is read back. -/
theorem Regular.writable_of_read {endpoint : Endpoint} (regular : endpoint.Regular)
    {path : List Char} {query : Dict String} {reference : Reference}
    (accepted : Reference.read (endpoint.write ('/' :: path) query).toList = .ok reference) :
    endpoint.Writable := by
  rcases regular.scheme with empty | small
  · have sound := (Reference.read_eq_ok_iff.mp accepted).1
    exact absurd sound (textFault?_write_of_scheme_eq empty _ _)
  · have authority := (read_write_eq_ok_iff small regular.host regular.escapes).mp accepted
    exact ⟨small, regular.host, regular.escapes, authority.1⟩

/-- An endpoint is read back as it is unless it has a password without a user. -/
theorem readBack_eq_self {endpoint : Endpoint}
    (anonymous : endpoint.user = "" → endpoint.password = "") : endpoint.readBack = endpoint := by
  obtain ⟨scheme, user, password, host, database⟩ := endpoint
  by_cases empty : user = ""
  · rw [readBack, if_pos empty, ← anonymous empty]
  · rw [readBack, if_neg empty]

/-- A password without a user makes no difference to what is written. -/
theorem write_readBack (endpoint : Endpoint) (path : List Char) (query : Dict String) :
    endpoint.readBack.write path query = endpoint.write path query := by
  by_cases empty : endpoint.user = ""
  · have none : endpoint.readBack.user = "" := empty
    rw [write, write, writtenUserinfo_of_user_eq none, writtenUserinfo_of_user_eq empty]
    rfl
  · rw [readBack_eq_self fun anonymous => absurd anonymous empty]

/-- The order of a query makes no difference to the text. -/
theorem write_congr (endpoint : Endpoint) (path : List Char) {left right : Dict String}
    (same : left.Same right) : endpoint.write path left = endpoint.write path right := by
  have length : left.entries.isEmpty = right.entries.isEmpty := List.Perm.isEmpty_eq same
  rw [write, write, writtenQuery, writtenQuery, length, Dict.sorted_congr same]

end Endpoint

namespace Config

/-- The first values of singletons are the sorted entries. -/
theorem firstValues_singletons (dict : Dict String) :
    firstValues dict.singletons = dict.sorted := by
  rw [firstValues, Dict.singletons, List.filterMap_map]
  exact List.filterMap_some

/-- The configuration that is read back if no parameter has a reserved key: the parameters come in
ascending order of their keys. -/
def readBack (config : Config) : Config :=
  { config with
    toEndpoint := config.toEndpoint.readBack
    params := some (config.params.getD ∅).ascending }

/-- A configuration and the one that is read back have the same connection string. -/
theorem toDsn_readBack (config : Config) : config.readBack.toDsn = config.toDsn := by
  have same : config.readBack.dsnQuery.Same config.dsnQuery := by
    rw [Dict.same_iff_get?_eq]
    intro key
    have params := Dict.same_iff_get?_eq.mp (config.params.getD ∅).ascending_same key
    rw [get?_dsnQuery, get?_dsnQuery]
    change ((config.params.getD ∅).ascending.get? key).or _ = _
    rw [params]
    rfl
  change config.toEndpoint.readBack.write ('/' :: config.database.toList) config.readBack.dsnQuery =
    config.toEndpoint.write ('/' :: config.database.toList) config.dsnQuery
  rw [Endpoint.write_readBack, Endpoint.write_congr _ _ same]

/-- What is read back is the same configuration unless a password has no user. -/
theorem same_readBack_iff {config : Config} {zone : Zone} {params : Dict String}
    (located : config.location = some (.named zone)) (present : config.params = some params) :
    config.readBack.Same config ↔ config.user ≠ "" ∨ config.password = "" := by
  have options : config.readBack.toTypedOptions.Same config.toTypedOptions := by
    refine ⟨rfl, ?_⟩
    change SameLocation config.location config.location
    rw [located]
    rfl
  have parameters : SameParams config.readBack.params config.params := by
    change SameParams (some (config.params.getD ∅).ascending) config.params
    rw [present]
    exact params.ascending_same
  constructor
  · rintro ⟨endpoint, _, _⟩
    by_cases empty : config.user = ""
    · have password : (if config.user = "" then "" else config.password) = config.password :=
        congrArg Endpoint.password endpoint
      rw [if_pos empty] at password
      exact .inr password.symm
    · exact .inl empty
  · intro anonymous
    have endpoint : config.toEndpoint.readBack = config.toEndpoint :=
      Endpoint.readBack_eq_self fun empty => anonymous.resolve_left (not_not.mpr empty)
    exact ⟨endpoint, options, parameters⟩

/-- Parameters without reserved keys take the place of no typed option. -/
theorem overriddenKeys_of_free {config : Config}
    (free : ∀ key ∈ (config.params.getD ∅).keys, key ∉ OptionKey.reservedKeys) :
    config.overriddenKeys = [] := by
  rw [overriddenKeys, List.filter_eq_nil_iff]
  intro key member written
  exact free key member
    (TypedOptions.mem_reservedKeys_of_mem_written (List.contains_iff_mem.mp written))

variable [ZoneDatabase]

/-- Reading a connection string sets its sorted query on top of its endpoint. -/
theorem ofDsn_toDsn {config : Config} (writable : config.toEndpoint.Writable) :
    ofDsn config.toDsn =
      (applyPairs { toEndpoint := config.toEndpoint.readBack } config.dsnQuery.sorted).mapError
        .option := by
  have accepted : Reference.read config.toDsn.toList =
      .ok (config.toEndpoint.writtenReference ('/' :: config.database.toList) config.dsnQuery) :=
    writable.read_write _ _
  rw [ofDsn, accepted]
  simp only [ofReference, applied_eq_applyPairs, Endpoint.endpoint_writtenReference writable.host]
  rw [Endpoint.writtenReference, Query.read_write_sorted, firstValues_singletons]

/-- The typed options come back before the parameters are set. -/
theorem ofDsn_toDsn_of_located {config : Config} (writable : config.toEndpoint.Writable)
    {zone : Zone} (located : config.location = some (.named zone))
    (loads : Location.load? zone.key = some zone) :
    ofDsn config.toDsn =
      (applyPairs { config with toEndpoint := config.toEndpoint.readBack, params := some ∅ }
        (config.params.getD ∅).sorted).mapError .option := by
  rw [ofDsn_toDsn writable, applyPairs_dsnQuery located loads]

/-- Without reserved keys among the parameters, every option is read back as it was. -/
theorem ofDsn_toDsn_of_free {config : Config} (writable : config.toEndpoint.Writable)
    {zone : Zone} (located : config.location = some (.named zone))
    (loads : Location.load? zone.key = some zone)
    (free : ∀ key ∈ (config.params.getD ∅).keys, key ∉ OptionKey.reservedKeys) :
    ofDsn config.toDsn = .ok config.readBack := by
  have freeSorted : ∀ pair ∈ (config.params.getD ∅).sorted,
      pair.1 ∉ OptionKey.reservedKeys := fun pair member =>
    free pair.1 (Dict.mem_keys_sorted.mp (List.mem_map_of_mem member))
  have empty : ({ config with toEndpoint := config.toEndpoint.readBack, params := some ∅ } :
      Config).params = some ∅ := rfl
  rw [ofDsn_toDsn_of_located writable located loads, applyPairs_of_free empty freeSorted, readBack,
    ← Dict.ofList_sorted]
  rfl

/-- The connection string of a regular configuration is read exactly if its endpoint is writable. -/
theorem Regular.ofDsn_toDsn_eq_ok_iff {config again : Config} (regular : config.Regular) :
    ofDsn config.toDsn = .ok again ↔ config.toEndpoint.Writable ∧ config.readBack = again := by
  obtain ⟨zone, located, loads⟩ := regular.location
  constructor
  · intro accepted
    obtain ⟨reference, split, _⟩ := exists_reference_of_ofDsn accepted
    have writable := regular.endpoint.writable_of_read split
    rw [ofDsn_toDsn_of_free writable located loads regular.free] at accepted
    exact ⟨writable, Except.ok.inj accepted⟩
  · rintro ⟨writable, rfl⟩
    exact ofDsn_toDsn_of_free writable located loads regular.free

end Config

end ConnString
