import ConnString.Proofs.DsnQuery
import ConnString.Proofs.Endpoint

/-!
# What a connection string lists

After its path a connection string lists each parameter and each option that departs from its
default, unless a parameter has the option's key; it lists each key once, in ascending order, and
without a question mark if there is nothing to list. The parameters that take the place of an option
that departs are reported in their order, and nothing else is (`format_lists`).
-/

namespace ConnString

/-- A list of pairs as it stands after a path: nothing for no pairs, and otherwise a question mark
and a query that comes apart into them. -/
inductive Query.Lists : List Char → List (String × String) → Prop
  | nothing : Lists [] []
  | pairs {query : List Char} {pair : String × String} {rest : List (String × String)}
      (apart : fields query = (pair :: rest).map fun pair => [pair.1, pair.2]) :
      Lists ('?' :: query) (pair :: rest)

namespace Endpoint

/-- The text for an endpoint up to the end of its path. -/
def writtenFront (endpoint : Endpoint) (path : List Char) : List Char :=
  endpoint.scheme.toList ++ [':', '/', '/'] ++ endpoint.writtenUserinfo ++ endpoint.host.toList ++
    Percent.encode Percent.keptInPath path

theorem toList_write (endpoint : Endpoint) (path : List Char) (query : Dict String) :
    (endpoint.write path query).toList = endpoint.writtenFront path ++ writtenQuery query := by
  rw [write, String.toList_ofList, writtenFront]

/-- A written query lists the entries in ascending order of their keys. -/
theorem lists_writtenQuery (query : Dict String) :
    Query.Lists (writtenQuery query) query.sorted := by
  rw [writtenQuery, ← query.sorted_perm.isEmpty_eq]
  cases listed : query.sorted with
  | nil => exact .nothing
  | cons pair rest => exact .pairs (Query.fields_write (List.cons_ne_nil _ _))

end Endpoint

/-- An option differs from its default, by its key and as its value is written. -/
inductive TypedOptions.Departs (options : TypedOptions) : String → String → Prop
  | duration (option : DurationOption)
      (other : options.duration option ≠ ({} : TypedOptions).duration option) :
      Departs options option.key (options.duration option).format
  | location (other : locationName options.location ≠ "UTC") :
      Departs options "location" (locationName options.location)
  | debug (on : options.debug = true) : Departs options "debug" "1"

/-- The options that are written are those that depart from their defaults. -/
theorem TypedOptions.mem_written_iff_departs {options : TypedOptions} {key value : String} :
    (key, value) ∈ options.written ↔ options.Departs key value := by
  rw [mem_written]
  constructor
  · rintro (⟨option, other, same⟩ | ⟨other, same⟩ | ⟨on, same⟩)
    · cases same
      exact .duration option other
    · cases same
      rw [isUtc, decide_eq_false_iff_not] at other
      exact .location other
    · cases same
      exact .debug on
  · intro departs
    cases departs with
    | duration option other => exact .inl ⟨option, other, rfl⟩
    | location other =>
        refine .inr (.inl ⟨?_, rfl⟩)
        rw [isUtc, decide_eq_false_iff_not]
        exact other
    | debug on => exact .inr (.inr ⟨on, rfl⟩)

namespace Config

/-- What a connection string lists: the parameters, and the options that depart from their defaults
under keys that no parameter has. -/
inductive Lists (config : Config) : String → String → Prop
  | param {key value : String} (stored : (config.params.getD ∅).get? key = some value) :
      Lists config key value
  | option {key value : String} (free : key ∉ (config.params.getD ∅).keys)
      (departs : config.toTypedOptions.Departs key value) : Lists config key value

/-- The query of a connection string has the entries that it should list. -/
theorem mem_sorted_dsnQuery {config : Config} {key value : String} :
    (key, value) ∈ config.dsnQuery.sorted ↔ config.Lists key value := by
  rw [Dict.mem_sorted, ← Dict.get?_eq_some_iff, get?_dsnQuery, Option.or_eq_some_iff,
    Dict.get?_eq_none_iff, Dict.lookup_eq_some_iff_mem config.toTypedOptions.nodup_keys_written,
    TypedOptions.mem_written_iff_departs]
  constructor
  · rintro (stored | ⟨free, departs⟩)
    · exact .param stored
    · exact .option free departs
  · intro listed
    cases listed with
    | param stored => exact .inl stored
    | option free departs => exact .inr ⟨free, departs⟩

/-- The keys that are reported are those of parameters that take the place of an option. -/
theorem mem_overriddenKeys {config : Config} {key : String} :
    key ∈ config.overriddenKeys ↔
      key ∈ (config.params.getD ∅).keys ∧ ∃ value, config.toTypedOptions.Departs key value := by
  rw [overriddenKeys, List.mem_filter, List.contains_iff_mem, List.mem_map]
  refine and_congr_right fun _ => ?_
  constructor
  · rintro ⟨⟨_, value⟩, written, rfl⟩
    exact ⟨value, TypedOptions.mem_written_iff_departs.mp written⟩
  · rintro ⟨value, departs⟩
    exact ⟨(key, value), TypedOptions.mem_written_iff_departs.mpr departs, rfl⟩

/-- A connection string lists exactly the parameters and the other options that depart from their
defaults, in strictly ascending order of their keys. The parameters in the place of such an option
are reported as warnings, in their own order. -/
theorem format_lists (config : Config) :
    (∃ query listing,
      config.format.value.toList =
        config.toEndpoint.writtenFront ('/' :: config.database.toList) ++ query ∧
      Query.Lists query listing ∧
      (listing.map Prod.fst).Pairwise (· < ·) ∧
      ∀ key value, (key, value) ∈ listing ↔ config.Lists key value) ∧
    ∃ overridden : List String,
      config.format.events = overridden.map .overridden ∧
      (∀ event ∈ config.format.events, event.level = Log.warningLevel) ∧
      overridden.Sublist (config.params.getD ∅).keys ∧
      ∀ key, key ∈ overridden ↔
        key ∈ (config.params.getD ∅).keys ∧ ∃ value, config.toTypedOptions.Departs key value := by
  refine ⟨⟨Endpoint.writtenQuery config.dsnQuery, config.dsnQuery.sorted, ?_, ?_, ?_, ?_⟩,
    config.overriddenKeys, rfl, ?_, ?_, ?_⟩
  · exact Endpoint.toList_write _ _ _
  · exact Endpoint.lists_writtenQuery _
  · exact Dict.strict_keys_sorted _
  · exact fun _ _ => mem_sorted_dsnQuery
  · intro event reported
    obtain ⟨key, _, rfl⟩ := List.mem_map.mp reported
    rfl
  · exact List.filter_sublist
  · exact fun _ => mem_overriddenKeys

/-- A parameter takes the place of an option that is on, and is reported. -/
example :
    ({ debug := true, params := some (.ofList [("debug", "é ")]) } : Config).format.value =
        "http://localhost:8123/?debug=%C3%A9+" ∧
      ({ debug := true, params := some (.ofList [("debug", "é ")]) } : Config).format.events =
        [.overridden "debug"] := by
  decide +kernel

end Config

end ConnString
