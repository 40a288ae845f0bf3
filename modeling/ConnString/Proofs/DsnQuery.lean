import ConnString.Config.Writer
import ConnString.Proofs.Dict
import ConnString.Proofs.Duration
import ConnString.Proofs.Setting

/-!
# The query of a connection string

Every written option can be set to what it holds (`holds_of_mem_written`), and an option that is not
written holds its default. A parameter with the key of a written option takes its place. So setting
the whole query starting from the defaults is setting the parameters alone starting from the typed
options (`applyPairs_dsnQuery`).
-/

namespace ConnString

namespace TypedOptions

/-! ### The written options -/

/-- The durations that are written are those that differ from their defaults. -/
theorem mem_writtenDurations {options : TypedOptions} {pair : String × String} :
    pair ∈ options.writtenDurations ↔
      ∃ option, options.duration option ≠ ({} : TypedOptions).duration option ∧
        (option.key, (options.duration option).format) = pair := by
  simp only [writtenDurations, List.mem_map, List.mem_filter, DurationOption.mem_all, true_and,
    decide_eq_true_eq]

/-- What is written of the typed options: durations and a location other than their defaults, and a
debug flag that is on. -/
theorem mem_written {options : TypedOptions} {pair : String × String} :
    pair ∈ options.written ↔
      (∃ option, options.duration option ≠ ({} : TypedOptions).duration option ∧
        (option.key, (options.duration option).format) = pair) ∨
      (isUtc options.location = false ∧ pair = ("location", locationName options.location)) ∨
      (options.debug = true ∧ pair = ("debug", "1")) := by
  rw [written, List.mem_append, List.mem_append, mem_writtenDurations, or_assoc]
  cases isUtc options.location <;> cases options.debug <;> simp

/-- The keys of the written options stand in the order of all typed keys. -/
theorem keys_written_sublist (options : TypedOptions) :
    (options.written.map Prod.fst).Sublist OptionKey.typedKeys := by
  have durations : (options.writtenDurations.map Prod.fst).Sublist
      (DurationOption.all.map DurationOption.key) := by
    rw [writtenDurations, List.map_map]
    exact List.filter_sublist.map _
  have location : ((if isUtc options.location then []
      else [("location", locationName options.location)]).map Prod.fst).Sublist ["location"] := by
    split
    · exact List.nil_sublist _
    · exact List.Sublist.refl _
  have debug : ((if options.debug then [("debug", "1")]
      else []).map (Prod.fst : String × String → String)).Sublist ["debug"] := by
    split
    · exact List.Sublist.refl _
    · exact List.nil_sublist _
  rw [written, List.map_append, List.map_append]
  exact (durations.append location).append debug

/-- No option is written twice. -/
theorem nodup_keys_written (options : TypedOptions) : (options.written.map Prod.fst).Nodup :=
  options.keys_written_sublist.nodup (by decide)

/-- The options are written under reserved keys. -/
theorem mem_reservedKeys_of_mem_written {options : TypedOptions} {key : String}
    (member : key ∈ options.written.map Prod.fst) : key ∈ OptionKey.reservedKeys :=
  List.mem_append_left _ (options.keys_written_sublist.subset member)

/-! ### The options that are not written -/

/-- A duration that is not written is its default. -/
theorem duration_of_not_mem_written {options : TypedOptions} {option : DurationOption}
    (absent : option.key ∉ options.written.map Prod.fst) :
    options.duration option = ({} : TypedOptions).duration option := by
  by_contra different
  refine absent (List.mem_map.mpr ⟨(option.key, (options.duration option).format), ?_, rfl⟩)
  exact mem_written.mpr (.inl ⟨option, different, rfl⟩)

/-- A zone that is not written is UTC. -/
theorem location_of_not_mem_written {options : TypedOptions} {zone : Zone}
    (located : options.location = some (.named zone))
    (absent : "location" ∉ options.written.map Prod.fst) : options.location = some .utc := by
  have named : isUtc options.location = true := by
    by_contra other
    refine absent (List.mem_map.mpr ⟨("location", locationName options.location), ?_, rfl⟩)
    exact mem_written.mpr (.inr (.inl ⟨Bool.eq_false_iff.mpr other, rfl⟩))
  rw [located, isUtc, decide_eq_true_eq] at named
  have same : zone = .utc := Zone.ext named
  rw [located, same]
  rfl

theorem debug_of_not_mem_written {options : TypedOptions}
    (absent : "debug" ∉ options.written.map Prod.fst) : options.debug = false := by
  by_contra other
  refine absent (List.mem_map.mpr ⟨("debug", "1"), ?_, rfl⟩)
  exact mem_written.mpr (.inr (.inr ⟨eq_true_of_ne_false other, rfl⟩))

end TypedOptions

namespace Config

/-- The typed options of two configurations agree but under the keys that one of them writes, if
the other one has the defaults. -/
theorem agreeOff_written {config : Config} {zone : Zone}
    (located : config.location = some (.named zone)) (endpoint : Endpoint) {keys : List String}
    (covered : ∀ key ∈ config.toTypedOptions.written.map Prod.fst, key ∈ keys) :
    AgreeOff keys { toEndpoint := endpoint }
      { config with toEndpoint := endpoint, params := some ∅ } where
  endpoint := rfl
  params := rfl
  duration := by
    intro option absent
    have unwritten := TypedOptions.duration_of_not_mem_written fun member =>
      absent (covered _ member)
    exact unwritten.symm
  location := by
    intro absent
    have unwritten := TypedOptions.location_of_not_mem_written located fun member =>
      absent (covered _ member)
    exact unwritten.symm
  debug := by
    intro absent
    have unwritten := TypedOptions.debug_of_not_mem_written fun member =>
      absent (covered _ member)
    exact unwritten.symm

/-- The query of a connection string has a parameter before an option under the same key. -/
theorem get?_dsnQuery (config : Config) (key : String) :
    config.dsnQuery.get? key =
      ((config.params.getD ∅).get? key).or (config.toTypedOptions.written.lookup key) := by
  rw [dsnQuery, Dict.get?_insertAll_entries,
    Dict.get?_ofList config.toTypedOptions.nodup_keys_written]

variable [ZoneDatabase]

/-- Setting a written option to what is written changes nothing. -/
theorem holds_of_mem_written {config : Config} {zone : Zone}
    (located : config.location = some (.named zone))
    (loads : Location.load? zone.key = some zone) {pair : String × String}
    (member : pair ∈ config.toTypedOptions.written) : config.Holds pair := by
  refine ⟨TypedOptions.mem_reservedKeys_of_mem_written (List.mem_map_of_mem member), ?_⟩
  rcases TypedOptions.mem_written.mp member with ⟨option, _, rfl⟩ | ⟨_, rfl⟩ | ⟨on, rfl⟩
  · refine ⟨_, .duration option (Duration.parse_format _), ?_⟩
    cases option <;> rfl
  · rw [located]
    refine ⟨_, .location loads, ?_⟩
    rw [set, ← located]
  · have spelled : Flag.parse? "1" = some true := by decide
    refine ⟨_, .debug spelled, ?_⟩
    rw [set, ← on]

/-- Setting the query of a connection string starting from the defaults is setting the parameters
starting from the typed options. -/
theorem applyPairs_dsnQuery {config : Config} {zone : Zone}
    (located : config.location = some (.named zone))
    (loads : Location.load? zone.key = some zone) (endpoint : Endpoint) :
    applyPairs { toEndpoint := endpoint } config.dsnQuery.sorted =
      applyPairs { config with toEndpoint := endpoint, params := some ∅ }
        (config.params.getD ∅).sorted := by
  rw [← Dict.filter_sorted_insertAll (Dict.ofList config.toTypedOptions.written)
    (config.params.getD ∅)]
  refine applyPairs_filter config.dsnQuery.nodup_keys_sorted
    (agreeOff_written located endpoint ?_) ?_
  -- The query has the key of every written option, be it with the value of a parameter.
  · intro key member
    rw [Dict.mem_keys_sorted]
    by_contra absent
    have missing := Dict.get?_eq_none_iff.mpr absent
    rw [get?_dsnQuery, Option.or_eq_none_iff] at missing
    exact Dict.lookup_eq_none_iff_not_mem.mp missing.2 member
  -- A pair that is dropped has no parameter's key, so it is a written option.
  · rintro ⟨key, value⟩ member dropped
    have free : key ∉ (config.params.getD ∅).keys := by
      simpa only [List.contains_eq_mem, decide_eq_false_iff_not] using dropped
    have stored := Dict.get?_eq_some_iff.mpr (Dict.mem_sorted.mp member)
    rw [get?_dsnQuery, Dict.get?_eq_none_iff.mpr free, Option.none_or,
      Dict.lookup_eq_some_iff_mem config.toTypedOptions.nodup_keys_written] at stored
    have sameLocation :
        ({ config with toEndpoint := endpoint, params := some ∅ } : Config).location =
          some (.named zone) := located
    exact holds_of_mem_written sameLocation loads stored

end Config

end ConnString
