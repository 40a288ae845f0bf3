import ConnString.Proofs.Dict
import ConnString.Proofs.Setting

/-!
# Applying a mapping

Applying a mapping takes two passes. The first reads the values and leaves the configuration alone,
whether or not it comes to its end (`run_foldlM_collect`); the second sets what was read and comes
to its end (`run_forM_set`). So a mapping that fails leaves behind the configuration that it found
(`apply_of_applied_error`). That typed options are set before parameters makes no difference
(`foldl_set_put`): a mapping that does not fail sets its keys one after another
(`applied_eq_applyPairs`).
-/

namespace ConnString.Config

/-- The keys that have values, with their first values. -/
def firstValues (mapping : Dict (List String)) : List (String × String) :=
  mapping.entries.filterMap fun entry => entry.2.head?.map fun value => (entry.1, value)

/-! ### Runs of changes -/

section run

variable {α β : Type} {config left : Config}

/-- What comes after a change starts from what that change leaves behind, and is not done if that
change fails. -/
theorem run_bind (first : Change α) (next : α → Change β) (config : Config) :
    Change.run (first >>= next) config =
      match first.run config with
      | (.ok value, left) => (next value).run left
      | (.error error, left) => (.error error, left) := by
  simp only [Change.run, ExceptT.run_bind, StateT.run_bind, Id.run_bind]
  cases Id.run (StateT.run (ExceptT.run first) config) with
  | mk outcome left => cases outcome <;> rfl

theorem run_bind_ok {first : Change α} {value : α} (ran : first.run config = (.ok value, left))
    (next : α → Change β) : Change.run (first >>= next) config = (next value).run left := by
  rw [run_bind, ran]

theorem run_bind_error {first : Change α} {error : OptionError}
    (ran : first.run config = (.error error, left)) (next : α → Change β) :
    Change.run (first >>= next) config = (.error error, left) := by
  rw [run_bind, ran]

/-- Setting what was read comes to its end, one setting after another. -/
theorem run_forM_set (settings : List Setting) (config : Config) :
    Change.run (settings.forM fun setting => modify fun current => current.set setting) config =
      (.ok (), settings.foldl set config) := by
  induction settings generalizing config with
  | nil => rfl
  | cons setting rest ih =>
      have first : Change.run (modify fun current => current.set setting) config =
          (.ok ⟨⟩, config.set setting) := rfl
      exact (run_bind_ok first _).trans (ih (config.set setting))

end run

/-! ### What is collected -/

/-- A typed option can be set before or after parameters. -/
theorem foldl_set_params {option : Setting} (pairs : List (String × String))
    (apart : ∀ (config : Config) (key value : String),
      (config.set option).set (.param key value) = (config.set (.param key value)).set option)
    (config : Config) :
    (pairs.map fun pair => Setting.param pair.1 pair.2).foldl set (config.set option) =
      ((pairs.map fun pair => Setting.param pair.1 pair.2).foldl set config).set option := by
  induction pairs generalizing config with
  | nil => rfl
  | cons pair rest ih =>
      rw [List.map_cons, List.foldl_cons, List.foldl_cons, apart, ih]

/-- A typed option that is kept is set before the parameters, as if it came last. -/
theorem foldl_set_options {option : Setting} (collected : Collected)
    (apart : ∀ (config : Config) (key value : String),
      (config.set option).set (.param key value) = (config.set (.param key value)).set option)
    (config : Config) :
    (Collected.settings { collected with options := collected.options ++ [option] }).foldl set
        config =
      (collected.settings.foldl set config).set option := by
  rw [Collected.settings, Collected.settings, List.foldl_append, List.foldl_append,
    List.foldl_append]
  exact foldl_set_params collected.params.entries apart _

variable [ZoneDatabase]

section put

variable {key value : String} {setting : Setting}

/-- Setting what was collected with one more setting, under a new key, sets this one last. -/
theorem foldl_set_put {collected : Collected} (reads : Setting.Reads key value setting)
    (new : key ∉ collected.params.keys) (config : Config) :
    (collected.put setting).settings.foldl set config =
      (collected.settings.foldl set config).set setting := by
  cases reads with
  | duration option parsed =>
      exact foldl_set_options collected (fun _ _ _ => by cases option <;> rfl) config
  | location loaded => exact foldl_set_options collected (fun _ _ _ => rfl) config
  | debug spelled => exact foldl_set_options collected (fun _ _ _ => rfl) config
  | param free =>
      have last : (collected.params.insert key value).entries =
          collected.params.entries ++ [(key, value)] := Dict.store_of_not_mem new value
      rw [Collected.put, Collected.settings, last, List.map_append, ← List.append_assoc,
        List.foldl_append]
      rfl

/-- Collecting a key adds no other key to the parameters. -/
theorem keys_put_sublist {collected : Collected} (reads : Setting.Reads key value setting) :
    (collected.put setting).params.keys.Sublist (collected.params.keys ++ [key]) := by
  cases reads with
  | duration option parsed => exact List.sublist_append_left _ _
  | location loaded => exact List.sublist_append_left _ _
  | debug spelled => exact List.sublist_append_left _ _
  | param free =>
      rw [Collected.put, Dict.keys_insert]
      split
      · exact List.sublist_append_left _ _
      · exact List.Sublist.refl _

end put

/-- A key without values is passed over. -/
theorem run_collect_nil (collected : Collected) (key : String) (config : Config) :
    (collect collected (key, [])).run config = (.ok collected, config) := rfl

/-- Reading the first value of a key leaves the configuration alone. -/
theorem run_collect_cons (collected : Collected) (key value : String) (others : List String)
    (config : Config) :
    (collect collected (key, value :: others)).run config =
      ((Setting.read key value).map collected.put, config) := by
  rw [collect]
  dsimp only
  cases Setting.read key value <;> rfl

/-- Reading keys leaves the configuration alone, also where one of them cannot be read. To set what
was read is to set the keys one after another. -/
theorem run_foldlM_collect {entries : List (String × List String)} {collected : Collected}
    (fresh : (collected.params.keys ++ entries.map Prod.fst).Nodup) (config : Config) :
    ∃ outcome, Change.run (entries.foldlM collect collected) config = (outcome, config) ∧
      (outcome.map fun read => read.settings.foldl set config) =
        (collected.settings.foldl set config).applyPairs (Dict.pick List.head? entries) := by
  induction entries generalizing collected with
  | nil => exact ⟨.ok collected, rfl, rfl⟩
  | cons entry rest ih =>
      obtain ⟨key, values⟩ := entry
      rw [List.map_cons, List.append_cons] at fresh
      rw [List.foldlM_cons]
      cases values with
      | nil =>
          have kept : (collected.params.keys ++ rest.map Prod.fst).Nodup :=
            fresh.sublist ((List.sublist_append_left _ _).append_right _)
          rw [run_bind_ok (run_collect_nil collected key config)]
          exact ih kept
      | cons value others =>
          have ran := run_collect_cons collected key value others config
          have picked : Dict.pick List.head? ((key, value :: others) :: rest) =
              (key, value) :: Dict.pick List.head? rest := rfl
          rw [picked]
          cases read : Setting.read key value with
          | error error =>
              rw [read] at ran
              rw [run_bind_error ran, applyPairs_cons_error read]
              exact ⟨.error error, rfl, rfl⟩
          | ok setting =>
              have reads := Setting.read_eq_ok_iff.mp read
              have new : key ∉ collected.params.keys := by
                intro member
                exact (List.nodup_append.mp (List.nodup_append.mp fresh).1).2.2 key member key
                  List.mem_cons_self rfl
              rw [read] at ran
              rw [run_bind_ok ran, applyPairs_cons_ok read, ← foldl_set_put reads new]
              exact ih (fresh.sublist ((keys_put_sublist reads).append_right _))

/-! ### The outcome -/

/-- A mapping sets its keys one after another, or it leaves the configuration as it was. -/
theorem apply_eq_applyPairs (config : Config) (mapping : Dict (List String)) :
    config.apply mapping =
      match config.applyPairs (firstValues mapping) with
      | .ok result => (.ok (), result)
      | .error error => (.error error, config) := by
  have fresh : ((∅ : Dict String).keys ++ mapping.entries.map Prod.fst).Nodup := mapping.nodup
  obtain ⟨outcome, ran, set⟩ := @run_foldlM_collect _ mapping.entries {} fresh config
  have pairs : firstValues mapping = Dict.pick List.head? mapping.entries := rfl
  rw [apply, change, pairs]
  change _ = config.applyPairs _ at set
  rw [← set]
  cases outcome with
  | error error => exact run_bind_error ran _
  | ok read => exact (run_bind_ok ran _).trans (run_forM_set read.settings config)

/-- A mapping that does not fail sets its keys one after another. -/
theorem applied_eq_applyPairs (config : Config) (mapping : Dict (List String)) :
    config.applied mapping = config.applyPairs (firstValues mapping) := by
  rw [applied, apply_eq_applyPairs]
  cases config.applyPairs (firstValues mapping) <;> rfl

variable {config result : Config} {mapping : Dict (List String)}

/-- A mapping that does not fail leaves behind the configuration that it makes. -/
theorem apply_of_applied_ok (applied : config.applied mapping = .ok result) :
    config.apply mapping = (.ok (), result) := by
  rw [applied_eq_applyPairs] at applied
  rw [apply_eq_applyPairs, applied]

/-- A mapping that fails leaves behind the configuration that it found. -/
theorem apply_of_applied_error {error : OptionError}
    (failed : config.applied mapping = .error error) :
    config.apply mapping = (.error error, config) := by
  rw [applied_eq_applyPairs] at failed
  rw [apply_eq_applyPairs, failed]

end ConnString.Config
