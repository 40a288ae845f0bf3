import ConnString.Config.Reader
import ConnString.Proofs.Apply
import ConnString.Proofs.Authority
import ConnString.Proofs.Reference

/-!
# Regular configurations

The endpoint of a text that is read has a scheme in small letters, if it has one, and a host that
came out of a sound authority (`Endpoint.regular_of_read`). Setting a key keeps the location a zone
that its key loads and the parameters apart from the reserved keys (`Config.Regular.set`). So every
configuration that is read is regular (`Config.regular_of_ofDsn`).
-/

namespace ConnString

/-- The scheme is empty or in small letters and the host is that of a sound authority. -/
structure Endpoint.Regular (endpoint : Endpoint) : Prop where
  scheme : endpoint.scheme = "" ∨ Reference.isSmallScheme endpoint.scheme.toList
  host : Host.fault? endpoint.host.toList = none
  escapes : Percent.badEscape? endpoint.host.toList = none
  placed : ∃ authority, Authority.fault? authority = none ∧
    (Authority.parts authority).2 = endpoint.host.toList

/-- The parts of a text that is read have no fault. -/
theorem Reference.sound_of_read {text : List Char} {reference : Reference}
    (accepted : read text = .ok reference) :
    Authority.fault? reference.authority = none ∧
      Percent.badEscape? reference.authority = none ∧
      Percent.badEscape? reference.path = none ∧
      Host.fault? (Authority.parts reference.authority).2 = none := by
  obtain ⟨_, sound, _⟩ := read_eq_ok_iff.mp accepted
  simpa only [fault?, escapeFault?, Option.or_eq_none_iff, Option.map_eq_none_iff] using sound

/-- A text that is read has a regular endpoint. -/
theorem Endpoint.regular_of_read {text : List Char} {reference : Reference}
    (accepted : Reference.read text = .ok reference) : reference.endpoint.Regular := by
  obtain ⟨authority, escapes, _, host⟩ := Reference.sound_of_read accepted
  obtain ⟨_, _, rfl⟩ := Reference.read_eq_ok_iff.mp accepted
  generalize named : Reference.split text = reference at *
  have place : reference.endpoint.host.toList = (Authority.parts reference.authority).2 :=
    String.toList_ofList
  obtain ⟨front, whole⟩ := Authority.host_suffix reference.authority
  refine ⟨?_, place ▸ host, ?_, reference.authority, authority, place.symm⟩
  · have small := Reference.scheme_split text
    rw [named] at small
    rcases small with empty | small
    · exact .inl (congrArg String.ofList empty)
    · refine .inr ?_
      rw [Reference.endpoint, String.toList_ofList]
      exact small
  · rw [← whole] at escapes
    rw [place]
    exact Percent.badEscape?_of_append escapes

namespace Config

/-- The words for an error of an option do not hide the configuration of a reading that succeeds. -/
theorem mapError_option_eq_ok_iff {outcome : Except OptionError Config} {config : Config} :
    outcome.mapError DsnError.option = .ok config ↔ outcome = .ok config := by
  cases outcome <;> simp only [Except.mapError, reduceCtorEq, Except.ok.injEq]

variable [ZoneDatabase]

/-- The endpoint is regular, the location is a zone that its key loads, and there are parameters,
none of them with a reserved key. -/
structure Regular (config : Config) : Prop where
  endpoint : config.toEndpoint.Regular
  location : ∃ zone, config.location = some (.named zone) ∧ Location.load? zone.key = some zone
  params : ∃ params, config.params = some params ∧
    ∀ key ∈ params.keys, key ∉ OptionKey.reservedKeys

/-- The defaults are regular with any regular endpoint. -/
theorem regular_of_endpoint {endpoint : Endpoint} (regular : endpoint.Regular) :
    Regular { toEndpoint := endpoint } where
  endpoint := regular
  location := ⟨.utc, rfl, Location.load?_utc⟩
  params := by
    refine ⟨∅, rfl, ?_⟩
    intro key member
    cases member

theorem Regular.free {config : Config} (regular : config.Regular) :
    ∀ key ∈ (config.params.getD ∅).keys, key ∉ OptionKey.reservedKeys := by
  obtain ⟨params, present, free⟩ := regular.params
  rw [present]
  exact free

/-- Setting a key keeps a configuration regular. -/
theorem Regular.set {config : Config} (regular : config.Regular) {key value : String}
    {setting : Setting} (reads : Setting.Reads key value setting) :
    (config.set setting).Regular where
  endpoint := by
    rw [toEndpoint_set]
    exact regular.endpoint
  location := by
    cases reads with
    | duration option parsed =>
        rw [location_set_of_ne config (.duration option parsed) option.key_ne_location]
        exact regular.location
    | location loaded => exact ⟨_, rfl, Location.load?_key loaded⟩
    | debug spelled => exact regular.location
    | param free => exact regular.location
  params := by
    obtain ⟨params, present, free⟩ := regular.params
    rw [params_set reads]
    by_cases reserved : key ∈ OptionKey.reservedKeys
    · rw [if_pos reserved]
      exact ⟨params, present, free⟩
    · rw [if_neg reserved, present, Option.getD_some]
      refine ⟨_, rfl, ?_⟩
      intro other member
      rcases Dict.mem_keys_insert.mp member with old | new
      · exact free other old
      · rwa [new]

/-- Settings in a row keep a configuration regular. -/
theorem Regular.applyPairs {pairs : List (String × String)} {config result : Config}
    (regular : config.Regular) (applied : config.applyPairs pairs = .ok result) :
    result.Regular := by
  induction pairs generalizing config with
  | nil =>
      cases applied
      exact regular
  | cons pair rest ih =>
      obtain ⟨setting, reads, later⟩ := applyPairs_cons_eq_ok_iff.mp applied
      exact ih (regular.set reads) later

/-- The query of a text is set on top of its endpoint. -/
theorem ofDsn_of_read {dsn : String} {reference : Reference}
    (read : Reference.read dsn.toList = .ok reference) :
    ofDsn dsn =
      (applyPairs { toEndpoint := reference.endpoint }
        (firstValues (Query.read reference.query))).mapError .option := by
  rw [ofDsn, read]
  simp only [ofReference, applied_eq_applyPairs]

/-- A configuration is read from the parts of its text. -/
theorem exists_reference_of_ofDsn {dsn : String} {config : Config}
    (accepted : ofDsn dsn = .ok config) :
    ∃ reference, Reference.read dsn.toList = .ok reference ∧
      applyPairs { toEndpoint := reference.endpoint } (firstValues (Query.read reference.query)) =
        .ok config := by
  cases split : Reference.read dsn.toList with
  | error cause =>
      rw [ofDsn, split] at accepted
      cases accepted
  | ok reference =>
      rw [ofDsn_of_read split] at accepted
      exact ⟨reference, rfl, mapError_option_eq_ok_iff.mp accepted⟩

/-- The endpoint of a configuration that is read is that of the parts of its text. -/
theorem toEndpoint_of_ofDsn {dsn : String} {config : Config} (accepted : ofDsn dsn = .ok config) :
    config.toEndpoint = (Reference.split dsn.toList).endpoint := by
  obtain ⟨reference, read, applied⟩ := exists_reference_of_ofDsn accepted
  obtain ⟨_, _, rfl⟩ := Reference.read_eq_ok_iff.mp read
  rw [toEndpoint_applyPairs applied]

/-- Every configuration that is read is regular. -/
theorem regular_of_ofDsn {dsn : String} {config : Config} (accepted : ofDsn dsn = .ok config) :
    config.Regular := by
  obtain ⟨reference, split, applied⟩ := exists_reference_of_ofDsn accepted
  exact (regular_of_endpoint (Endpoint.regular_of_read split)).applyPairs applied

end Config

end ConnString
