import ConnString.Proofs.Session

/-!
# Mappings applied one after another

A key that is set again takes its new value in its old place, whatever was set in between
(`applyPairs_store`), so setting pairs one after another is setting the dictionary that they make
(`applyPairs_ofList`). A mapping that fails leaves behind what it found. Together: applying mappings
one after another to one configuration is applying, once and without a failure, the merge of those
that do not fail (`apply_merge_accepted`).
-/

namespace ConnString

section

variable [ZoneDatabase]

/-- A key that is not reserved is read as a parameter. -/
theorem Setting.Reads.eq_param {key value : String} {setting : Setting}
    (reads : Setting.Reads key value setting) (free : key ∉ OptionKey.reservedKeys) :
    setting = .param key value := by
  cases reads with
  | duration option parsed => exact absurd option.key_mem_reservedKeys free
  | location loaded => exact absurd (by decide) free
  | debug spelled => exact absurd (by decide) free
  | param _ => rfl

namespace Config

/-! ### Setting a key again -/

/-- A key that has its place: it is reserved, or a parameter has it. -/
def Has (config : Config) (key : String) : Prop :=
  key ∈ OptionKey.reservedKeys ∨ key ∈ (config.params.getD ∅).keys

section set

variable {key value other content : String}

/-- A key has its place once it has been set. -/
theorem has_set {setting : Setting} (config : Config) (reads : Setting.Reads key value setting) :
    (config.set setting).Has key := by
  by_cases reserved : key ∈ OptionKey.reservedKeys
  · exact .inl reserved
  · refine .inr ?_
    rw [params_set reads, if_neg reserved, Option.getD_some, Dict.mem_keys_insert]
    exact .inr rfl

/-- A key keeps its place whatever is set. -/
theorem Has.set {config : Config} {setting : Setting} (has : config.Has key)
    (reads : Setting.Reads other content setting) : (config.set setting).Has key := by
  refine has.imp_right fun present => ?_
  rw [params_set reads]
  split
  · exact present
  · rw [Option.getD_some, Dict.mem_keys_insert]
    exact .inl present

/-- Setting a reserved key changes nothing but what it is the key of. -/
theorem agreeOff_set {setting : Setting} (config : Config)
    (reads : Setting.Reads key value setting) (reserved : key ∈ OptionKey.reservedKeys) :
    AgreeOff [key] (config.set setting) config where
  endpoint := toEndpoint_set config setting
  params := by rw [params_set reads, if_pos reserved]
  duration option absent :=
    duration_set_of_ne config reads fun same => absent (List.mem_singleton.mpr same)
  location absent :=
    location_set_of_ne config reads fun same => absent (List.mem_singleton.mpr same.symm)
  debug absent :=
    debug_set_of_ne config reads fun same => absent (List.mem_singleton.mpr same.symm)

variable {first second : Setting}

/-- The later of two settings of one key wins. -/
theorem set_set (config : Config) (before : Setting.Reads key value first)
    (again : Setting.Reads key content second) :
    (config.set first).set second = config.set second := by
  by_cases reserved : key ∈ OptionKey.reservedKeys
  · exact ((agreeOff_set config before reserved).set again).eq
  · rw [before.eq_param reserved, again.eq_param reserved]
    simp only [Config.set, Option.getD_some, Dict.insert_insert]

/-- A key that has its place can be set before or after another one. -/
theorem set_comm_of_has {config : Config} (has : config.Has other)
    (reads : Setting.Reads key value first) (again : Setting.Reads other content second)
    (different : key ≠ other) :
    (config.set first).set second = (config.set second).set first := by
  by_cases reserved : other ∈ OptionKey.reservedKeys
  · exact set_comm config reads again different reserved
  · by_cases typed : key ∈ OptionKey.reservedKeys
    · exact (set_comm config again reads (Ne.symm different) typed).symm
    · have present := has.resolve_left reserved
      rw [reads.eq_param typed, again.eq_param reserved]
      simp only [Config.set, Option.getD_some, Dict.insert_comm present (Ne.symm different)]

/-- A key that has its place can be set before or after pairs of other keys. -/
theorem applyPairs_set {config : Config} (has : config.Has key)
    (reads : Setting.Reads key value first) {pairs : List (String × String)}
    (absent : key ∉ pairs.map Prod.fst) :
    (config.set first).applyPairs pairs = (config.applyPairs pairs).map (·.set first) := by
  induction pairs generalizing config with
  | nil => rfl
  | cons pair rest ih =>
      rw [List.map_cons, List.mem_cons, not_or] at absent
      cases read : Setting.read pair.1 pair.2 with
      | error error =>
          rw [applyPairs_cons_error read, applyPairs_cons_error read]
          rfl
      | ok setting =>
          have other := Setting.read_eq_ok_iff.mp read
          rw [applyPairs_cons_ok read, applyPairs_cons_ok read, ← ih (has.set other) absent.2,
            set_comm_of_has has other reads (Ne.symm absent.1)]

/-- Pairs with a key set to another value, in its place, give what setting the key last gives. -/
theorem applyPairs_store {pairs : List (String × String)} (fresh : (pairs.map Prod.fst).Nodup)
    {config result : Config} (applied : config.applyPairs pairs = .ok result)
    (reads : Setting.Reads key value first) :
    config.applyPairs (Dict.store key value pairs) = .ok (result.set first) := by
  have read := Setting.read_eq_ok_iff.mpr reads
  induction pairs generalizing config with
  | nil =>
      cases applied
      rw [Dict.store, applyPairs_cons_ok read]
      rfl
  | cons pair rest ih =>
      obtain ⟨new, later⟩ := List.nodup_cons.mp fresh
      obtain ⟨setting, before, rested⟩ := applyPairs_cons_eq_ok_iff.mp applied
      by_cases same : pair.1 = key
      -- The old value is set first and overwritten after the rest, so it may as well not be set.
      · rw [same] at before new
        rw [Dict.store, if_pos same, applyPairs_cons_ok read, ← set_set config before reads,
          applyPairs_set (has_set config before) reads new, rested]
        rfl
      · rw [Dict.store, if_neg same]
        exact applyPairs_cons_eq_ok_iff.mpr ⟨setting, before, ih later rested⟩

end set

/-- Setting pairs one after another, keys that come again included, is setting the dictionary that
they make. -/
theorem applyPairs_ofList {pairs : List (String × String)} {config result : Config}
    (applied : config.applyPairs pairs = .ok result) :
    config.applyPairs (Dict.ofList pairs).entries = .ok result := by
  -- The last pair finds the dictionary of the pairs before it already set.
  induction pairs using List.reverseRecOn generalizing result with
  | nil => exact applied
  | append_singleton front last ih =>
      obtain ⟨between, set, final⟩ := applyPairs_append_eq_ok_iff.mp applied
      obtain ⟨setting, reads, last⟩ := applyPairs_cons_eq_ok_iff.mp final
      cases last
      rw [Dict.ofList_concat]
      exact applyPairs_store (Dict.ofList front).nodup (ih set) reads

end Config

end

namespace Config

/-! ### Mappings -/

/-- The keys of a mapping that have values. -/
def valued (mapping : Dict (List String)) : List (String × List String) :=
  mapping.entries.filter fun entry => !entry.2.isEmpty

/-- One mapping for several: each key that has values has those of the last mapping that gives it
some, in the place where the key first came. -/
def merge (mappings : List (Dict (List String))) : Dict (List String) :=
  Dict.ofList (mappings.flatMap valued)

/-- The first values of a mapping are those of its keys that have values. -/
theorem pick_valued (mapping : Dict (List String)) :
    Dict.pick List.head? (valued mapping) = firstValues mapping := by
  rw [valued, Dict.pick, List.filterMap_filter, firstValues]
  refine List.filterMap_congr fun entry _ => ?_
  cases entry.2 <;> rfl

/-- The first values of a merge are those of its mappings, the last ones for each key. -/
theorem firstValues_merge (mappings : List (Dict (List String))) :
    firstValues (merge mappings) = (Dict.ofList (mappings.flatMap firstValues)).entries := by
  have whole : ∀ pair ∈ mappings.flatMap valued, pair.2.head?.isSome := by
    intro pair member
    obtain ⟨mapping, _, inside⟩ := List.mem_flatMap.mp member
    have full := (List.mem_filter.mp inside).2
    cases values : pair.2 with
    | nil =>
        rw [values] at full
        cases full
    | cons value rest => rfl
  have parts : Dict.pick List.head? (mappings.flatMap valued) = mappings.flatMap firstValues := by
    rw [Dict.pick, List.filterMap_flatMap]
    exact congrArg (mappings.flatMap ·) (funext pick_valued)
  rw [← parts]
  exact Dict.pick_entries_ofList whole

variable [ZoneDatabase]

/-- What mappings leave of a configuration that they are applied to one after another, failures
ignored. -/
def applyEach (config : Config) (mappings : List (Dict (List String))) : Config :=
  mappings.foldl (fun left mapping => (left.apply mapping).2) config

/-- The mappings that do not fail where mappings are applied one after another to what those before
them leave. -/
def accepted (config : Config) : List (Dict (List String)) → List (Dict (List String))
  | [] => []
  | mapping :: rest =>
    match config.apply mapping with
    | (.ok _, left) => mapping :: accepted left rest
    | (.error _, left) => accepted left rest

/-- A mapping that fails leaves the next ones what it found, and the others set their keys. -/
theorem applyPairs_accepted (config : Config) (mappings : List (Dict (List String))) :
    config.applyPairs ((config.accepted mappings).flatMap firstValues) =
      .ok (config.applyEach mappings) := by
  induction mappings generalizing config with
  | nil => rfl
  | cons mapping rest ih =>
      rw [accepted, applyEach, List.foldl_cons, ← applyEach]
      cases outcome : config.applied mapping with
      | error error =>
          rw [apply_of_applied_error outcome]
          exact ih config
      | ok changed =>
          rw [apply_of_applied_ok outcome]
          rw [applied_eq_applyPairs] at outcome
          change config.applyPairs ((mapping :: changed.accepted rest).flatMap firstValues) = _
          rw [List.flatMap_cons, applyPairs_append_eq_ok_iff]
          exact ⟨changed, outcome, ih changed⟩

/-- A session that applies mappings leaves behind what the mappings leave. -/
theorem after_map_apply (config : Config) (mappings : List (Dict (List String))) :
    Session.after config (mappings.map .apply) = config.applyEach mappings := by
  induction mappings generalizing config with
  | nil => rfl
  | cons mapping rest ih =>
      rw [List.map_cons, Session.after_cons, Session.config_step_apply, ih]
      rfl

/-- Applying mappings one after another to one configuration, failures ignored, leaves behind what
applying the merge of those that do not fail leaves behind, and the merge does not fail. A session
does the same. -/
theorem apply_merge_accepted (config : Config) (mappings : List (Dict (List String))) :
    config.apply (merge (config.accepted mappings)) = (.ok (), config.applyEach mappings) ∧
      Session.after config (mappings.map .apply) = config.applyEach mappings := by
  refine ⟨apply_of_applied_ok ?_, after_map_apply config mappings⟩
  rw [applied_eq_applyPairs, firstValues_merge]
  exact applyPairs_ofList (applyPairs_accepted config mappings)

end Config

end ConnString
