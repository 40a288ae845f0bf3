import ConnString.Proofs.Session

/-!
# Missing parameters

Writing a connection string and applying a mapping treat missing parameters as none: it makes no
difference whether they are filled in before or after (`Config.format_filled`,
`Config.apply_filled`). So a session of such requests gives the same answers and reports either way
(`Session.run_filled`). Request URLs are the exception: they can be written where there are no
parameters, but not where parameters are missing (`Config.filled_alike`).
-/

namespace ConnString

namespace Config

/-- The configuration with no parameters where they are missing. -/
def filled (config : Config) : Config := { config with params := some (config.params.getD ∅) }

theorem filled_of_params {config : Config} {params : Dict String}
    (present : config.params = some params) : config.filled = config := by
  rw [filled, present, Option.getD_some, ← present]

/-- A setting treats missing parameters as none. -/
theorem filled_set (config : Config) (setting : Setting) :
    (config.set setting).filled = config.filled.set setting := by
  cases setting <;> rfl

/-- A request URL fails exactly where the parameters are missing. -/
theorem url_eq_error_iff {config : Config} {extra : Option (Dict String)} {inPath : Bool} :
    config.url extra inPath = .error .read ↔ config.params = none := by
  cases present : config.params with
  | none =>
      rw [url, present]
      exact iff_of_true rfl rfl
  | some params =>
      rw [url_of_params present]
      simp only [reduceCtorEq]

theorem format_filled (config : Config) : config.filled.format = config.format := rfl

variable [ZoneDatabase]

/-- Settings in a row treat missing parameters as none. -/
theorem applyPairs_filled (pairs : List (String × String)) (config : Config) :
    config.filled.applyPairs pairs = (config.applyPairs pairs).map filled := by
  induction pairs generalizing config with
  | nil => rfl
  | cons pair rest ih =>
      cases read : Setting.read pair.1 pair.2 with
      | error error =>
          rw [applyPairs_cons_error read, applyPairs_cons_error read]
          rfl
      | ok setting =>
          rw [applyPairs_cons_ok read, applyPairs_cons_ok read, ← filled_set, ih]

/-- Missing parameters can be filled in before a mapping is applied or afterwards, whether or not it
fails. -/
theorem apply_filled (config : Config) (mapping : Dict (List String)) :
    config.filled.apply mapping = ((config.apply mapping).1, (config.apply mapping).2.filled) := by
  rw [apply_eq_applyPairs, apply_eq_applyPairs, applyPairs_filled]
  cases config.applyPairs (firstValues mapping) <;> rfl

end Config

namespace Session

/-- What a step leaves behind, with no parameters where they are missing. -/
def Outcome.filled (outcome : Outcome) : Outcome :=
  { outcome with config := outcome.config.filled }

/-- Whether a request treats missing parameters as none. -/
def Step.fills : Step → Bool
  | .renew | .parse _ | .apply _ | .format => true
  | .assign _ | .put _ _ | .url _ _ | .reparse => false

variable [ZoneDatabase]

/-- A mapping treats missing parameters as none. -/
theorem step_apply_filled (config : Config) (mapping : Dict (List String)) :
    step config.filled (.apply mapping) = (step config (.apply mapping)).filled := by
  unfold step
  dsimp only
  rw [config.apply_filled]
  rcases config.apply mapping with ⟨_ | _, _⟩ <;> rfl

/-- Parsing does not look at the parameters that are there. -/
theorem step_parse_filled (config : Config) (dsn : Argument) :
    step config.filled (.parse dsn) = (step config (.parse dsn)).filled := by
  cases dsn with
  | other kind => rfl
  | text dsn =>
      unfold step
      simp only [Config.parseArgument, Config.value_parse]
      cases read : Config.ofDsn dsn with
      | error error => rfl
      | ok result =>
          obtain ⟨params, present, _⟩ := (Config.regular_of_ofDsn read).params
          simp only [Outcome.filled, Config.filled_of_params present]

/-- Missing parameters can be filled in before such a request or after it. -/
theorem step_filled (config : Config) {request : Step} (fills : request.fills) :
    step config.filled request = (step config request).filled := by
  cases request with
  | renew => rfl
  | parse dsn => exact step_parse_filled config dsn
  | apply mapping => exact step_apply_filled config mapping
  | format => rfl
  | assign | put | url | reparse => cases fills

/-- A session of such requests has the same answers and reports whether parameters are missing or
there are none. -/
theorem run_filled (config : Config) {steps : List Step}
    (fills : ∀ request ∈ steps, request.fills) :
    run config.filled steps = (run config steps).map Outcome.filled := by
  induction steps generalizing config with
  | nil => rfl
  | cons request rest ih =>
      have first := step_filled config (fills request List.mem_cons_self)
      have later := ih (step config request).config
        fun other member => fills other (List.mem_cons_of_mem _ member)
      simp only [run, List.map_cons, first]
      exact congrArg ((step config request).filled :: ·) later

end Session

namespace Config

/-- Missing parameters are treated as none where a connection string is written and where a mapping
is applied, also if it fails. They make a difference to a request URL, and always do: it can be
written without parameters but not if they are missing. -/
theorem filled_alike [ZoneDatabase] (config : Config) :
    config.filled.format = config.format ∧
      (∀ mapping, config.filled.apply mapping =
          ((config.apply mapping).1, (config.apply mapping).2.filled) ∧
        Session.step config.filled (.apply mapping) =
          (Session.step config (.apply mapping)).filled) ∧
      ∀ extra inPath, (∃ text, config.filled.url extra inPath = .ok text) ∧
        (config.url extra inPath = config.filled.url extra inPath ↔ config.params ≠ none) ∧
        (config.url extra inPath = .error .read ↔ config.params = none) := by
  refine ⟨config.format_filled, ?_, ?_⟩
  · intro mapping
    exact ⟨config.apply_filled mapping, Session.step_apply_filled config mapping⟩
  · intro extra inPath
    have present : config.filled.params = some (config.params.getD ∅) := rfl
    have written := url_of_params present extra inPath
    refine ⟨⟨_, written⟩, ⟨?_, ?_⟩, url_eq_error_iff⟩
    · intro same missing
      rw [url_eq_error_iff.mpr missing, written] at same
      cases same
    · intro stored
      obtain ⟨params, found⟩ := Option.ne_none_iff_exists'.mp stored
      rw [filled_of_params found]

/-- The default configuration has a request URL without parameters, but not with missing ones. -/
theorem not_url_filled :
    url { params := none } none false = .error .read ∧
      url (filled { params := none }) none false = .ok "http://localhost:8123/" := by
  decide +kernel

end Config

end ConnString
