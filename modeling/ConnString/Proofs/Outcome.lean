import ConnString.Location.Tzdata
import ConnString.Proofs.FirstValue

/-!
# The outcome of one mapping

Applying a mapping fails at the first entry that cannot be set, with that entry's error
(`applyPairs_pick_eq_error_iff`). Otherwise each typed option is what the first value of its key
says, or what it was if the key has no value (`OwnedBy.applyPairs_of_mem`,
`OwnedBy.applyPairs_of_not_mem`), and the keys that pass through are stored among the parameters
(`params_applyPairs`). Nothing else is to be known about the result (`Updated.unique`), so this is
the whole outcome (`apply_outcome`).
-/

namespace ConnString

namespace Config

/-! ### First values -/

/-- The first value of a key of a mapping, if it has one. -/
def first? (mapping : Dict (List String)) (key : String) : Option String :=
  (mapping.get? key).bind List.head?

/-- A key without a first value is not among the first values. -/
theorem not_mem_firstValues {mapping : Dict (List String)} {key : String}
    (absent : first? mapping key = none) : key ∉ (firstValues mapping).map Prod.fst := by
  intro member
  obtain ⟨⟨_, value⟩, present, rfl⟩ := List.mem_map.mp member
  cases absent.symm.trans (mem_firstValues.mp present)

/-- The pairs whose keys pass through. -/
def passing (pairs : List (String × String)) : List (String × String) :=
  pairs.filter fun pair => decide (pair.1 ∉ OptionKey.reservedKeys)

end Config

section

variable [ZoneDatabase]

/-! ### Typed options -/

namespace Setting.Reads

variable {value : String} {setting : Setting}

/-- The key of a duration is read as a duration for it. -/
theorem exists_duration {option : DurationOption} (reads : Reads option.key value setting) :
    ∃ length, Duration.parse value = .ok length ∧ setting = .duration option length := by
  have read := read_eq_ok_iff.mpr reads
  simp only [Setting.read, OptionKey.of_key] at read
  split at read
  · next length parsed =>
    cases read
    exact ⟨length, parsed, rfl⟩
  · cases read

/-- The key of the location is read as a zone that loads. -/
theorem exists_location (reads : Reads "location" value setting) :
    ∃ zone, Location.load? value = some zone ∧ setting = .location zone := by
  have kind : OptionKey.of "location" = .location := by decide
  have read := read_eq_ok_iff.mpr reads
  simp only [Setting.read, kind] at read
  split at read
  · next zone loaded =>
    cases read
    exact ⟨zone, loaded, rfl⟩
  · cases read

/-- The key of the debug flag is read as a flag. -/
theorem exists_debug (reads : Reads "debug" value setting) :
    ∃ on, Flag.parse? value = some on ∧ setting = .debug on := by
  have kind : OptionKey.of "debug" = .debug := by decide
  have read := read_eq_ok_iff.mpr reads
  simp only [Setting.read, kind] at read
  split at read
  · next on spelled =>
    cases read
    exact ⟨on, spelled, rfl⟩
  · cases read

end Setting.Reads

namespace Config

/-! ### Failures -/

/-- An entry of a mapping that cannot be set: its first value cannot be read. -/
def Blocks (entry : String × List String) (error : OptionError) : Prop :=
  ∃ value, entry.2.head? = some value ∧ Setting.Fails entry.1 value error

/-- The error of the first entry that cannot be set. -/
inductive FirstError : List (String × List String) → OptionError → Prop
  | here {entry : String × List String} {rest : List (String × List String)} {error : OptionError}
      (blocks : Blocks entry error) : FirstError (entry :: rest) error
  | later {entry : String × List String} {rest : List (String × List String)}
      {error : OptionError} (passes : ∀ other, ¬Blocks entry other)
      (first : FirstError rest error) : FirstError (entry :: rest) error

/-- There is an error exactly if an entry cannot be set. -/
theorem exists_firstError_iff {entries : List (String × List String)} :
    (∃ error, FirstError entries error) ↔ ∃ entry ∈ entries, ∃ error, Blocks entry error := by
  constructor
  · rintro ⟨error, first⟩
    induction first with
    | here blocks => exact ⟨_, List.mem_cons_self, _, blocks⟩
    | later _ _ ih =>
        obtain ⟨entry, member, blocked⟩ := ih
        exact ⟨entry, List.mem_cons_of_mem _ member, blocked⟩
  · rintro ⟨entry, member, blocked⟩
    induction entries with
    | nil => cases member
    | cons head rest ih =>
        by_cases stops : ∃ error, Blocks head error
        · obtain ⟨error, blocks⟩ := stops
          exact ⟨error, .here blocks⟩
        · rcases List.mem_cons.mp member with rfl | inside
          · exact absurd blocked stops
          · obtain ⟨error, first⟩ := ih inside
            exact ⟨error, .later (not_exists.mp stops) first⟩

/-- Setting the first values of entries fails with the error of the first entry that cannot be
set. -/
theorem applyPairs_pick_eq_error_iff {entries : List (String × List String)} {config : Config}
    {error : OptionError} :
    config.applyPairs (Dict.pick List.head? entries) = .error error ↔
      FirstError entries error := by
  induction entries generalizing config with
  | nil =>
      constructor
      · rintro ⟨⟩
      · rintro ⟨⟩
  | cons entry rest ih =>
      cases found : entry.2.head? with
      | none =>
          have skipped : Dict.pick List.head? (entry :: rest) = Dict.pick List.head? rest :=
            List.filterMap_cons_none (by rw [found, Option.map_none])
          have passes : ∀ other, ¬Blocks entry other := by
            rintro other ⟨value, present, _⟩
            cases found.symm.trans present
          rw [skipped, ih]
          constructor
          · exact .later passes
          · intro first
            cases first with
            | here blocks => exact absurd blocks (passes error)
            | later _ first => exact first
      | some value =>
          have blocks_iff : ∀ other,
              Blocks entry other ↔ Setting.read entry.1 value = .error other := by
            intro other
            simp only [Blocks, found, Option.some.injEq, exists_eq_left',
              Setting.read_eq_error_iff]
          rw [Dict.pick_cons found]
          cases read : Setting.read entry.1 value with
          | error cause =>
              rw [applyPairs_cons_error read, Except.error.injEq]
              constructor
              · rintro rfl
                exact .here ((blocks_iff cause).mpr read)
              · intro first
                cases first with
                | here blocks =>
                    exact Except.error.inj (read.symm.trans ((blocks_iff error).mp blocks))
                | later passes _ => exact absurd ((blocks_iff cause).mpr read) (passes cause)
          | ok setting =>
              have passes : ∀ other, ¬Blocks entry other := by
                intro other blocks
                cases read.symm.trans ((blocks_iff other).mp blocks)
              rw [applyPairs_cons_ok read, ih]
              constructor
              · exact .later passes
              · intro first
                cases first with
                | here blocks => exact absurd blocks (passes error)
                | later _ first => exact first

/-! ### Parts that one key sets -/

section part

variable {α : Type} {key value : String} {part : Config → α}

/-- No key but one changes a part of a configuration. -/
def OwnedBy (key : String) (part : Config → α) : Prop :=
  ∀ (config : Config) {other value : String} {setting : Setting},
    Setting.Reads other value setting → other ≠ key → part (config.set setting) = part config

/-- Only its own key changes a duration. -/
theorem ownedBy_duration (option : DurationOption) :
    OwnedBy option.key fun config => config.toTypedOptions.duration option :=
  fun config _ _ _ reads different => duration_set_of_ne config reads (Ne.symm different)

theorem ownedBy_location : OwnedBy "location" fun config => config.location :=
  fun config _ _ _ reads different => location_set_of_ne config reads different

theorem ownedBy_debug : OwnedBy "debug" fun config => config.debug :=
  fun config _ _ _ reads different => debug_set_of_ne config reads different

/-- A part whose key is not among the pairs stays as it is. -/
theorem OwnedBy.applyPairs_of_not_mem (owned : OwnedBy key part)
    {pairs : List (String × String)} {config result : Config}
    (applied : config.applyPairs pairs = .ok result) (absent : key ∉ pairs.map Prod.fst) :
    part result = part config := by
  induction pairs generalizing config with
  | nil =>
      cases applied
      rfl
  | cons pair rest ih =>
      rw [List.map_cons, List.mem_cons, not_or] at absent
      obtain ⟨setting, reads, later⟩ := applyPairs_cons_eq_ok_iff.mp applied
      rw [ih later absent.2, owned config reads (Ne.symm absent.1)]

/-- The pairs before and after the one with the key leave the part alone. -/
theorem OwnedBy.applyPairs_of_mem (owned : OwnedBy key part) {pairs : List (String × String)}
    (fresh : (pairs.map Prod.fst).Nodup) {config result : Config}
    (applied : config.applyPairs pairs = .ok result) (member : (key, value) ∈ pairs) :
    ∃ (before : Config) (setting : Setting), Setting.Reads key value setting ∧
      part result = part (before.set setting) := by
  obtain ⟨front, back, rfl⟩ := List.append_of_mem member
  obtain ⟨before, _, final⟩ := applyPairs_append_eq_ok_iff.mp applied
  obtain ⟨setting, reads, later⟩ := applyPairs_cons_eq_ok_iff.mp final
  have absent : key ∉ back.map Prod.fst := by
    rw [List.map_append, List.map_cons] at fresh
    exact (List.nodup_cons.mp (List.nodup_append.mp fresh).2.1).1
  exact ⟨before, setting, reads, owned.applyPairs_of_not_mem later absent⟩

end part

/-! ### Parameters -/

/-- The pairs that pass through are stored; missing parameters stay missing if there are none. -/
theorem params_applyPairs {pairs : List (String × String)} {config result : Config}
    (applied : config.applyPairs pairs = .ok result) :
    result.params =
      if passing pairs = [] then config.params
      else some ((config.params.getD ∅).insertAll (passing pairs)) := by
  induction pairs generalizing config with
  | nil =>
      cases applied
      rfl
  | cons pair rest ih =>
      obtain ⟨setting, reads, later⟩ := applyPairs_cons_eq_ok_iff.mp applied
      rw [ih later, params_set reads]
      by_cases reserved : pair.1 ∈ OptionKey.reservedKeys
      · have dropped : passing (pair :: rest) = passing rest :=
          List.filter_cons_of_neg (by simpa using reserved)
        rw [if_pos reserved, dropped]
      · have kept : passing (pair :: rest) = pair :: passing rest :=
          List.filter_cons_of_pos (by simpa using reserved)
        rw [if_neg reserved, kept, if_neg (List.cons_ne_nil _ _), Option.getD_some]
        split
        · next empty =>
          rw [empty]
          rfl
        · rfl

/-! ### The whole outcome -/

/-- What a mapping makes of a configuration: the typed options whose keys have values hold what
the first values say, and the pairs that pass through are laid over the parameters, where keys that
are there keep their places and new keys follow. -/
structure Updated (config : Config) (mapping : Dict (List String)) (result : Config) : Prop where
  endpoint : result.toEndpoint = config.toEndpoint
  duration : ∀ option : DurationOption,
    match first? mapping option.key with
    | some value => Duration.parse value = .ok (result.toTypedOptions.duration option)
    | none => result.toTypedOptions.duration option = config.toTypedOptions.duration option
  location :
    match first? mapping "location" with
    | some value => ∃ zone, Location.load? value = some zone ∧ result.location = some (.named zone)
    | none => result.location = config.location
  debug :
    match first? mapping "debug" with
    | some value => Flag.parse? value = some result.debug
    | none => result.debug = config.debug
  missing : result.params = none ↔ config.params = none ∧ passing (firstValues mapping) = []
  keys : (result.params.getD ∅).keys =
    (config.params.getD ∅).keys ++ ((passing (firstValues mapping)).map Prod.fst).filter
      fun key => decide (key ∉ (config.params.getD ∅).keys)
  values : ∀ key, (result.params.getD ∅).get? key =
    ((passing (firstValues mapping)).lookup key).or ((config.params.getD ∅).get? key)

/-- A mapping makes one thing only of a configuration. -/
theorem Updated.unique {config one other : Config} {mapping : Dict (List String)}
    (first : Updated config mapping one) (second : Updated config mapping other) :
    one = other := by
  have params : one.params = other.params := by
    have same : one.params.getD ∅ = other.params.getD ∅ := by
      apply Dict.eq_of_keys_eq
      · rw [first.keys, second.keys]
      · intro key
        rw [first.values, second.values]
    have absent := first.missing.trans second.missing.symm
    cases here : one.params with
    | none => exact (absent.mp here).symm
    | some left =>
        cases there : other.params with
        | none => cases here.symm.trans (absent.mpr there)
        | some right =>
            rw [here, there] at same
            exact congrArg some same
  refine AgreeOff.eq ⟨first.endpoint.trans second.endpoint.symm, params, ?_, ?_, ?_⟩
  · intro option _
    have left := first.duration option
    have right := second.duration option
    cases found : first? mapping option.key with
    | none =>
        rw [found] at left right
        exact left.trans right.symm
    | some value =>
        rw [found] at left right
        exact Except.ok.inj (left.symm.trans right)
  · intro _
    have left := first.location
    have right := second.location
    cases found : first? mapping "location" with
    | none =>
        rw [found] at left right
        exact left.trans right.symm
    | some value =>
        rw [found] at left right
        obtain ⟨zone, loaded, here⟩ := left
        obtain ⟨_, again, there⟩ := right
        cases loaded.symm.trans again
        exact here.trans there.symm
  · intro _
    have left := first.debug
    have right := second.debug
    cases found : first? mapping "debug" with
    | none =>
        rw [found] at left right
        exact left.trans right.symm
    | some value =>
        rw [found] at left right
        exact Option.some.inj (left.symm.trans right)

/-- What an accepted mapping leaves is what it should make of the configuration. -/
theorem updated_of_applied {config result : Config} {mapping : Dict (List String)}
    (applied : config.applied mapping = .ok result) : Updated config mapping result := by
  rw [applied_eq_applyPairs] at applied
  have fresh := nodup_keys_firstValues mapping
  have params := params_applyPairs applied
  have freshPassing : ((passing (firstValues mapping)).map Prod.fst).Nodup :=
    fresh.sublist (List.filter_sublist.map Prod.fst)
  have stored : result.params.getD ∅ =
      (config.params.getD ∅).insertAll (passing (firstValues mapping)) := by
    rw [params]
    split
    · next empty =>
      rw [empty]
      rfl
    · rfl
  refine ⟨toEndpoint_applyPairs applied, ?_, ?_, ?_, ?_, ?_, ?_⟩
  · intro option
    cases found : first? mapping option.key with
    | none =>
        exact (ownedBy_duration option).applyPairs_of_not_mem applied (not_mem_firstValues found)
    | some value =>
        obtain ⟨before, setting, reads, same⟩ :=
          (ownedBy_duration option).applyPairs_of_mem fresh applied (mem_firstValues.mpr found)
        obtain ⟨length, parsed, rfl⟩ := reads.exists_duration
        have held := same.trans (duration_set before option length)
        exact parsed.trans (congrArg Except.ok held.symm)
  · cases found : first? mapping "location" with
    | none => exact ownedBy_location.applyPairs_of_not_mem applied (not_mem_firstValues found)
    | some value =>
        obtain ⟨_, setting, reads, same⟩ :=
          ownedBy_location.applyPairs_of_mem fresh applied (mem_firstValues.mpr found)
        obtain ⟨zone, loaded, rfl⟩ := reads.exists_location
        exact ⟨zone, loaded, same⟩
  · cases found : first? mapping "debug" with
    | none => exact ownedBy_debug.applyPairs_of_not_mem applied (not_mem_firstValues found)
    | some value =>
        obtain ⟨_, setting, reads, same⟩ :=
          ownedBy_debug.applyPairs_of_mem fresh applied (mem_firstValues.mpr found)
        obtain ⟨on, spelled, rfl⟩ := reads.exists_debug
        exact spelled.trans (congrArg some same.symm)
  · rw [params]
    split
    · next empty => simp only [empty, and_true]
    · next found => simp only [found, and_false, reduceCtorEq]
  · rw [stored, Dict.keys_insertAll freshPassing]
  · intro key
    rw [stored, Dict.get?_insertAll freshPassing]

/-- A mapping fails exactly if an entry cannot be set, with the error of the first such entry. -/
theorem applied_eq_error_iff {config : Config} {mapping : Dict (List String)}
    {error : OptionError} :
    config.applied mapping = .error error ↔ FirstError mapping.entries error := by
  rw [applied_eq_applyPairs]
  exact applyPairs_pick_eq_error_iff

/-- A mapping makes a configuration exactly if no entry is in the way, and then the one that it
says. -/
theorem applied_eq_ok_iff {config result : Config} {mapping : Dict (List String)} :
    config.applied mapping = .ok result ↔
      (∀ entry ∈ mapping.entries, ∀ error, ¬Blocks entry error) ∧
        Updated config mapping result := by
  constructor
  · intro applied
    refine ⟨fun entry member error blocks => ?_, updated_of_applied applied⟩
    obtain ⟨cause, first⟩ := exists_firstError_iff.mpr ⟨entry, member, error, blocks⟩
    cases applied.symm.trans (applied_eq_error_iff.mpr first)
  · rintro ⟨passes, updated⟩
    cases applied : config.applied mapping with
    | error error =>
        obtain ⟨entry, member, cause, blocks⟩ :=
          exists_firstError_iff.mp ⟨error, applied_eq_error_iff.mp applied⟩
        exact absurd blocks (passes entry member cause)
    | ok other => rw [(updated_of_applied applied).unique updated]

end Config

end

open scoped Tzdata

/-- A parameter that is there keeps its place, and a key without values is passed over. -/
example :
    ({ params := some (.ofList [("b", "0"), ("a", "1")]) } : Config).apply
        (.ofList [("timeout", []), ("c", ["2"]), ("b", ["3", "4"]), ("debug", ["t"])]) =
      (.ok (),
        { params := some (.ofList [("b", "3"), ("a", "1"), ("c", "2")]), debug := true }) := by
  decide +kernel

/-- A mapping that fails at its last key leaves the configuration as it was. -/
example :
    ({ debug := true } : Config).apply
        (.ofList [("timeout", ["5s"]), ("c", ["2"]), ("location", ["Mars/Base"])]) =
      (.error (.timeZone "Mars/Base"), { debug := true }) := by
  decide +kernel

end ConnString
