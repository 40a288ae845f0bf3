import ConnString.Config.Basic

/-!
# Settings one after another

Reading the value of a key has one outcome for each kind of key (`Setting.read_eq_ok_iff`,
`Setting.read_eq_error_iff`). Pairs of a key and a value are set one by one as long as the values
can be read (`applyPairs_cons_eq_ok_iff`). What the typed options held before is lost under the keys
that are set: two configurations that agree off those keys end up the same (`AgreeOff.set`,
`AgreeOff.eq`).
-/

namespace ConnString

namespace DurationOption

/-- No two options share a key. -/
theorem key_injective {left right : DurationOption} (same : left.key = right.key) :
    left = right := by
  have found := ofKey?_key left
  rw [same, ofKey?_key] at found
  exact (Option.some.inj found).symm

theorem key_ne_location (option : DurationOption) : option.key ≠ "location" := by
  cases option <;> decide

theorem key_ne_debug (option : DurationOption) : option.key ≠ "debug" := by
  cases option <;> decide

theorem key_mem_reservedKeys (option : DurationOption) : option.key ∈ OptionKey.reservedKeys := by
  cases option <;> decide

end DurationOption

namespace OptionKey

theorem of_key (option : DurationOption) : of option.key = .duration option := by
  rw [of, DurationOption.ofKey?_key]

theorem of_refused {key : String} (refused : key ∈ refusedKeys) : of key = .refused := by
  simp only [refusedKeys, List.mem_cons, List.not_mem_nil, or_false] at refused
  rcases refused with rfl | rfl | rfl <;> decide

/-- What a key stands for says which key it is. -/
theorem of_cases (key : String) :
    (∃ option : DurationOption, key = option.key ∧ of key = .duration option) ∨
      (key = "location" ∧ of key = .location) ∨ (key = "debug" ∧ of key = .debug) ∨
      (key ∈ refusedKeys ∧ of key = .refused) ∨
      (key ∉ reservedKeys ∧ of key = .passthrough) := by
  by_cases reserved : key ∈ reservedKeys
  · rw [reservedKeys, typedKeys, List.mem_append, List.mem_append, List.mem_map] at reserved
    rcases reserved with (⟨option, _, rfl⟩ | typed) | refused
    · exact .inl ⟨option, rfl, of_key option⟩
    · simp only [List.mem_cons, List.not_mem_nil, or_false] at typed
      rcases typed with rfl | rfl
      · exact .inr (.inl ⟨rfl, by decide⟩)
      · exact .inr (.inr (.inl ⟨rfl, by decide⟩))
    · exact .inr (.inr (.inr (.inl ⟨refused, of_refused refused⟩)))
  · exact .inr (.inr (.inr (.inr ⟨reserved, of_eq_passthrough_iff.mpr reserved⟩)))

end OptionKey

namespace Config

/-! ### Agreement off some keys -/

/-- Two configurations agree but for the typed options under some keys. -/
structure AgreeOff (keys : List String) (left right : Config) : Prop where
  endpoint : left.toEndpoint = right.toEndpoint
  params : left.params = right.params
  duration : ∀ option : DurationOption, option.key ∉ keys →
    left.toTypedOptions.duration option = right.toTypedOptions.duration option
  location : "location" ∉ keys → left.location = right.location
  debug : "debug" ∉ keys → left.debug = right.debug

/-- Configurations that agree off no key are equal. -/
theorem AgreeOff.eq {left right : Config} (agree : AgreeOff [] left right) : left = right := by
  have timeout := agree.duration .timeout List.not_mem_nil
  have idleTimeout := agree.duration .idleTimeout List.not_mem_nil
  have readTimeout := agree.duration .readTimeout List.not_mem_nil
  have writeTimeout := agree.duration .writeTimeout List.not_mem_nil
  have location := agree.location List.not_mem_nil
  have debug := agree.debug List.not_mem_nil
  obtain ⟨endpoint, params, _, _, _⟩ := agree
  obtain ⟨leftEndpoint, ⟨_, _, _, _, _, _⟩, _⟩ := left
  obtain ⟨rightEndpoint, ⟨_, _, _, _, _, _⟩, _⟩ := right
  cases endpoint
  cases params
  cases timeout
  cases idleTimeout
  cases readTimeout
  cases writeTimeout
  cases location
  cases debug
  rfl

/-! ### What one setting leaves alone -/

/-- No setting changes the endpoint. -/
theorem toEndpoint_set (config : Config) (setting : Setting) :
    (config.set setting).toEndpoint = config.toEndpoint := by
  cases setting <;> rfl

/-- A duration that is set is held. -/
theorem duration_set (config : Config) (option : DurationOption) (length : Duration) :
    (config.set (.duration option length)).toTypedOptions.duration option = length :=
  (TypedOptions.duration_setDuration _ _ _ _).trans (if_pos rfl)

end Config

variable [ZoneDatabase]

/-! ### Reading one setting -/

/-- A key and a value read as a setting. -/
inductive Setting.Reads : String → String → Setting → Prop
  | duration (option : DurationOption) {value : String} {length : Duration}
      (parsed : Duration.parse value = .ok length) :
      Reads option.key value (.duration option length)
  | location {value : String} {zone : Zone} (loaded : Location.load? value = some zone) :
      Reads "location" value (.location zone)
  | debug {value : String} {on : Bool} (spelled : Flag.parse? value = some on) :
      Reads "debug" value (.debug on)
  | param {key value : String} (free : key ∉ OptionKey.reservedKeys) :
      Reads key value (.param key value)

/-- The relation of keys and values to settings is what is read of them. -/
theorem Setting.read_eq_ok_iff {key value : String} {setting : Setting} :
    Setting.read key value = .ok setting ↔ Setting.Reads key value setting := by
  constructor
  · intro read
    rcases OptionKey.of_cases key with ⟨option, rfl, kind⟩ | ⟨rfl, kind⟩ | ⟨rfl, kind⟩ |
      ⟨_, kind⟩ | ⟨free, kind⟩
    · simp only [Setting.read, kind] at read
      split at read
      · next length parsed =>
        cases read
        exact .duration option parsed
      · cases read
    · simp only [Setting.read, kind] at read
      split at read
      · next zone loaded =>
        cases read
        exact .location loaded
      · cases read
    · simp only [Setting.read, kind] at read
      split at read
      · next on spelled =>
        cases read
        exact .debug spelled
      · cases read
    · simp only [Setting.read, kind] at read
      cases read
    · simp only [Setting.read, kind] at read
      cases read
      exact .param free
  · intro reads
    cases reads with
    | duration option parsed => simp only [Setting.read, OptionKey.of_key, parsed]
    | location loaded =>
        have kind : OptionKey.of "location" = .location := by decide
        simp only [Setting.read, kind, loaded]
    | debug spelled =>
        have kind : OptionKey.of "debug" = .debug := by decide
        simp only [Setting.read, kind, spelled]
    | param free => simp only [Setting.read, OptionKey.of_eq_passthrough_iff.mpr free]

/-- A key and a value that cannot be read, with the error. -/
inductive Setting.Fails : String → String → OptionError → Prop
  | duration (option : DurationOption) {value : String} {fault : Duration.Fault}
      (unread : Duration.parse value = .error fault) :
      Fails option.key value (.duration option value fault)
  | location {value : String} (unknown : Location.load? value = none) :
      Fails "location" value (.timeZone value)
  | debug {value : String} (misspelled : Flag.parse? value = none) :
      Fails "debug" value (.flag value)
  | refused {key : String} (refused : key ∈ OptionKey.refusedKeys) (value : String) :
      Fails key value (.refused key)

/-- The relation of keys and values to errors is what fails of them. -/
theorem Setting.read_eq_error_iff {key value : String} {error : OptionError} :
    Setting.read key value = .error error ↔ Setting.Fails key value error := by
  constructor
  · intro read
    rcases OptionKey.of_cases key with ⟨option, rfl, kind⟩ | ⟨rfl, kind⟩ | ⟨rfl, kind⟩ |
      ⟨refused, kind⟩ | ⟨_, kind⟩
    · simp only [Setting.read, kind] at read
      split at read
      · cases read
      · next fault unread =>
        cases read
        exact .duration option unread
    · simp only [Setting.read, kind] at read
      split at read
      · cases read
      · next unknown =>
        cases read
        exact .location unknown
    · simp only [Setting.read, kind] at read
      split at read
      · cases read
      · next misspelled =>
        cases read
        exact .debug misspelled
    · simp only [Setting.read, kind] at read
      cases read
      exact .refused refused value
    · simp only [Setting.read, kind] at read
      cases read
  · intro fails
    cases fails with
    | duration option unread => simp only [Setting.read, OptionKey.of_key, unread]
    | location unknown =>
        have kind : OptionKey.of "location" = .location := by decide
        simp only [Setting.read, kind, unknown]
    | debug misspelled =>
        have kind : OptionKey.of "debug" = .debug := by decide
        simp only [Setting.read, kind, misspelled]
    | refused refused => simp only [Setting.read, OptionKey.of_refused refused]

namespace Config

/-! ### Setting pairs one after another -/

/-- Set keys to values one after another, up to the first value that cannot be read. -/
def applyPairs (config : Config) : List (String × String) → Except OptionError Config
  | [] => .ok config
  | pair :: rest =>
    match Setting.read pair.1 pair.2 with
    | .ok setting => applyPairs (config.set setting) rest
    | .error error => .error error

/-- A pair that can be read is set before the rest. -/
theorem applyPairs_cons_ok {config : Config} {pair : String × String} {setting : Setting}
    (read : Setting.read pair.1 pair.2 = .ok setting) (rest : List (String × String)) :
    config.applyPairs (pair :: rest) = (config.set setting).applyPairs rest := by
  rw [applyPairs, read]

/-- A pair that cannot be read is the end, and its error the outcome. -/
theorem applyPairs_cons_error {config : Config} {pair : String × String} {error : OptionError}
    (read : Setting.read pair.1 pair.2 = .error error) (rest : List (String × String)) :
    config.applyPairs (pair :: rest) = .error error := by
  rw [applyPairs, read]

/-- Setting pairs succeeds exactly if the first pair can be read and the others can be set after
it. -/
theorem applyPairs_cons_eq_ok_iff {config result : Config} {pair : String × String}
    {rest : List (String × String)} :
    config.applyPairs (pair :: rest) = .ok result ↔
      ∃ setting, Setting.Reads pair.1 pair.2 setting ∧
        (config.set setting).applyPairs rest = .ok result := by
  constructor
  · intro applied
    cases read : Setting.read pair.1 pair.2 with
    | error error =>
        rw [applyPairs_cons_error read] at applied
        cases applied
    | ok setting =>
        rw [applyPairs_cons_ok read] at applied
        exact ⟨setting, Setting.read_eq_ok_iff.mp read, applied⟩
  · rintro ⟨setting, reads, applied⟩
    rw [applyPairs_cons_ok (Setting.read_eq_ok_iff.mpr reads), applied]

/-- Pairs in two runs succeed exactly if the first run does and the second does on its result. -/
theorem applyPairs_append_eq_ok_iff {config result : Config}
    {front back : List (String × String)} :
    config.applyPairs (front ++ back) = .ok result ↔
      ∃ between, config.applyPairs front = .ok between ∧ between.applyPairs back = .ok result := by
  induction front generalizing config with
  | nil =>
      constructor
      · exact fun applied => ⟨config, rfl, applied⟩
      · rintro ⟨_, ⟨⟩, applied⟩
        exact applied
  | cons pair rest ih =>
      simp only [List.cons_append, applyPairs_cons_eq_ok_iff, ih]
      constructor
      · rintro ⟨setting, reads, between, first, second⟩
        exact ⟨between, ⟨setting, reads, first⟩, second⟩
      · rintro ⟨between, ⟨setting, reads, first⟩, second⟩
        exact ⟨setting, reads, between, first, second⟩

/-- Pairs that can be set can each be read. -/
theorem exists_reads_of_applyPairs {config result : Config} {pairs : List (String × String)}
    (applied : config.applyPairs pairs = .ok result) {pair : String × String}
    (member : pair ∈ pairs) : ∃ setting, Setting.Reads pair.1 pair.2 setting := by
  obtain ⟨front, back, rfl⟩ := List.append_of_mem member
  obtain ⟨_, _, later⟩ := applyPairs_append_eq_ok_iff.mp applied
  obtain ⟨setting, reads, _⟩ := applyPairs_cons_eq_ok_iff.mp later
  exact ⟨setting, reads⟩

/-- The error of pairs that cannot be set is that of one of them. -/
theorem exists_fails_of_applyPairs {config : Config} {pairs : List (String × String)}
    {error : OptionError} (failed : config.applyPairs pairs = .error error) :
    ∃ pair ∈ pairs, Setting.Fails pair.1 pair.2 error := by
  induction pairs generalizing config with
  | nil => cases failed
  | cons pair rest ih =>
      cases read : Setting.read pair.1 pair.2 with
      | error cause =>
          rw [applyPairs_cons_error read, Except.error.injEq] at failed
          exact ⟨pair, List.mem_cons_self, Setting.read_eq_error_iff.mp (failed ▸ read)⟩
      | ok setting =>
          rw [applyPairs_cons_ok read] at failed
          obtain ⟨other, member, fails⟩ := ih failed
          exact ⟨other, List.mem_cons_of_mem _ member, fails⟩

/-- Settings leave the endpoint as it is. -/
theorem toEndpoint_applyPairs {pairs : List (String × String)} {config result : Config}
    (applied : config.applyPairs pairs = .ok result) :
    result.toEndpoint = config.toEndpoint := by
  induction pairs generalizing config with
  | nil =>
      cases applied
      rfl
  | cons pair rest ih =>
      obtain ⟨setting, _, later⟩ := applyPairs_cons_eq_ok_iff.mp applied
      rw [ih later, toEndpoint_set]

/-- Setting pairs does not look at the endpoint. -/
theorem applyPairs_withEndpoint (pairs : List (String × String)) (config : Config)
    (endpoint : Endpoint) :
    applyPairs { config with toEndpoint := endpoint } pairs =
      (config.applyPairs pairs).map fun result => { result with toEndpoint := endpoint } := by
  induction pairs generalizing config with
  | nil => rfl
  | cons pair rest ih =>
      cases read : Setting.read pair.1 pair.2 with
      | error error =>
          rw [applyPairs_cons_error read, applyPairs_cons_error read]
          rfl
      | ok setting =>
          have apart : set { config with toEndpoint := endpoint } setting =
              { config.set setting with toEndpoint := endpoint } := by
            cases setting <;> rfl
          rw [applyPairs_cons_ok read, applyPairs_cons_ok read, apart, ih]

/-- Only a key that is not reserved goes to the parameters. -/
theorem params_set {config : Config} {key value : String} {setting : Setting}
    (reads : Setting.Reads key value setting) :
    (config.set setting).params =
      if key ∈ OptionKey.reservedKeys then config.params
      else some ((config.params.getD ∅).insert key value) := by
  cases reads with
  | duration option parsed =>
      rw [if_pos option.key_mem_reservedKeys]
      rfl
  | location loaded => rfl
  | debug spelled => rfl
  | param free =>
      rw [if_neg free]
      rfl

/-- Setting keys that pass through stores them as parameters. -/
theorem applyPairs_of_free {pairs : List (String × String)} {config : Config}
    {params : Dict String} (present : config.params = some params)
    (free : ∀ pair ∈ pairs, pair.1 ∉ OptionKey.reservedKeys) :
    config.applyPairs pairs = .ok { config with params := some (params.insertAll pairs) } := by
  induction pairs generalizing config params with
  | nil =>
      change Except.ok config = .ok { config with params := some params }
      rw [← present]
  | cons pair rest ih =>
      have read : Setting.read pair.1 pair.2 = .ok (.param pair.1 pair.2) :=
        Setting.read_eq_ok_iff.mpr (.param (free pair List.mem_cons_self))
      have stored : (config.set (.param pair.1 pair.2)).params =
          some (params.insert pair.1 pair.2) := by
        simp only [set, present, Option.getD_some]
      rw [applyPairs_cons_ok read,
        ih stored fun other later => free other (List.mem_cons_of_mem _ later)]
      rfl

/-! ### What is lost -/

section set

variable {key value : String} {setting : Setting}

/-- Another key leaves a duration as it is. -/
theorem duration_set_of_ne (config : Config) (reads : Setting.Reads key value setting)
    {option : DurationOption} (different : option.key ≠ key) :
    (config.set setting).toTypedOptions.duration option =
      config.toTypedOptions.duration option := by
  cases reads with
  | duration other parsed =>
      have apart : option ≠ other := fun same => different (same ▸ rfl)
      exact (TypedOptions.duration_setDuration _ _ _ _).trans (if_neg apart)
  | location loaded => cases option <;> rfl
  | debug spelled => cases option <;> rfl
  | param free => rfl

theorem location_set_of_ne (config : Config) (reads : Setting.Reads key value setting)
    (different : key ≠ "location") : (config.set setting).location = config.location := by
  cases reads with
  | duration option parsed => cases option <;> rfl
  | location loaded => exact absurd rfl different
  | debug spelled => rfl
  | param free => rfl

theorem debug_set_of_ne (config : Config) (reads : Setting.Reads key value setting)
    (different : key ≠ "debug") : (config.set setting).debug = config.debug := by
  cases reads with
  | duration option parsed => cases option <;> rfl
  | location loaded => rfl
  | debug spelled => exact absurd rfl different
  | param free => rfl

/-- Setting a key makes two configurations agree on it. -/
theorem AgreeOff.set {keys : List String} {left right : Config}
    (agree : AgreeOff (key :: keys) left right) (reads : Setting.Reads key value setting) :
    AgreeOff keys (left.set setting) (right.set setting) where
  endpoint := by rw [toEndpoint_set, toEndpoint_set, agree.endpoint]
  params := by rw [params_set reads, params_set reads, agree.params]
  duration := by
    intro option absent
    by_cases same : option.key = key
    · cases reads with
      | @duration other _ length parsed =>
          cases DurationOption.key_injective same
          rw [duration_set, duration_set]
      | location loaded => exact absurd same option.key_ne_location
      | debug spelled => exact absurd same option.key_ne_debug
      | param free => exact absurd (same ▸ option.key_mem_reservedKeys) free
    · rw [duration_set_of_ne left reads same, duration_set_of_ne right reads same]
      exact agree.duration option (List.not_mem_cons_of_ne_of_not_mem same absent)
  location := by
    intro absent
    by_cases same : key = "location"
    · cases reads with
      | duration option parsed => exact absurd same option.key_ne_location
      | location loaded => rfl
      | debug spelled => exact absurd same (by decide)
      | param free => exact absurd (same ▸ by decide) free
    · rw [location_set_of_ne left reads same, location_set_of_ne right reads same]
      exact agree.location (List.not_mem_cons_of_ne_of_not_mem (Ne.symm same) absent)
  debug := by
    intro absent
    by_cases same : key = "debug"
    · cases reads with
      | duration option parsed => exact absurd same option.key_ne_debug
      | location loaded => exact absurd same (by decide)
      | debug spelled => rfl
      | param free => exact absurd (same ▸ by decide) free
    · rw [debug_set_of_ne left reads same, debug_set_of_ne right reads same]
      exact agree.debug (List.not_mem_cons_of_ne_of_not_mem (Ne.symm same) absent)

/-- A typed option and another key can be set in either order. -/
theorem set_comm {first second : Setting} {other content : String} (config : Config)
    (reads : Setting.Reads key value first) (typed : Setting.Reads other content second)
    (different : key ≠ other) (reserved : other ∈ OptionKey.reservedKeys) :
    (config.set first).set second = (config.set second).set first := by
  cases typed with
  | param free => exact absurd reserved free
  | location loaded =>
      cases reads with
      | location => exact absurd rfl different
      | duration option parsed => cases option <;> rfl
      | debug spelled => rfl
      | param free => rfl
  | debug spelled =>
      cases reads with
      | debug => exact absurd rfl different
      | duration option parsed => cases option <;> rfl
      | location loaded => rfl
      | param free => rfl
  | duration option parsed =>
      cases reads with
      | duration earlier =>
          cases earlier <;> cases option <;> first | rfl | exact absurd rfl different
      | location loaded => cases option <;> rfl
      | debug spelled => cases option <;> rfl
      | param free => cases option <;> rfl

/-- Setting a typed option of a configuration to what it holds. -/
def Holds (config : Config) (pair : String × String) : Prop :=
  pair.1 ∈ OptionKey.reservedKeys ∧
    ∃ setting, Setting.Reads pair.1 pair.2 setting ∧ config.set setting = config

/-- What an option holds is not changed under another key. -/
theorem Holds.set {config : Config} {pair : String × String} (holds : config.Holds pair)
    (reads : Setting.Reads key value setting) (different : key ≠ pair.1) :
    (config.set setting).Holds pair := by
  obtain ⟨reserved, held, typed, same⟩ := holds
  refine ⟨reserved, held, typed, ?_⟩
  rw [set_comm config reads typed different reserved, same]

end set

/-- Pairs that a configuration holds make no difference to it: setting them in another
configuration, which agrees with it but for the keys that are set, has the same outcome as leaving
them out. -/
theorem applyPairs_filter {pairs : List (String × String)} {left right : Config}
    (fresh : (pairs.map Prod.fst).Nodup) (agree : AgreeOff (pairs.map Prod.fst) left right)
    {keep : String → Bool}
    (held : ∀ pair ∈ pairs, keep pair.1 = false → right.Holds pair) :
    left.applyPairs pairs = right.applyPairs (pairs.filter fun pair => keep pair.1) := by
  -- The two sides keep agreeing off the keys still to come, so they are equal at the end.
  induction pairs generalizing left right with
  | nil => exact congrArg Except.ok agree.eq
  | cons pair rest ih =>
      obtain ⟨new, later⟩ := List.nodup_cons.mp fresh
      have heldLater : ∀ other ∈ rest, keep other.1 = false → right.Holds other :=
        fun other member => held other (List.mem_cons_of_mem _ member)
      by_cases kept : keep pair.1
      · rw [List.filter_cons, if_pos kept]
        cases read : Setting.read pair.1 pair.2 with
        | error error => rw [applyPairs_cons_error read, applyPairs_cons_error read]
        | ok setting =>
            have reads := Setting.read_eq_ok_iff.mp read
            rw [applyPairs_cons_ok read, applyPairs_cons_ok read]
            refine ih later (agree.set reads) fun other member dropped => ?_
            have different : pair.1 ≠ other.1 := fun same =>
              new (List.mem_map.mpr ⟨other, member, same.symm⟩)
            exact (heldLater other member dropped).set reads different
      · obtain ⟨_, setting, reads, same⟩ :=
          held pair List.mem_cons_self (Bool.eq_false_iff.mpr kept)
        have agreeLater := agree.set reads
        rw [same] at agreeLater
        rw [List.filter_cons, if_neg kept, applyPairs_cons_ok (Setting.read_eq_ok_iff.mpr reads)]
        exact ih later agreeLater heldLater

end Config

end ConnString
