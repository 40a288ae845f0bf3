import ConnString.Location.Tzdata
import ConnString.Proofs.ReadBack
import ConnString.Session

/-!
# Sessions

Whatever a session reads, writes or applies, its configuration stays regular, also where a request
fails (`regular_step`); only assigning to it could change that. So after any such run from the
defaults no reserved key is among the parameters, and writing neither reports an overridden option
nor fails (`regular_after`).
-/

namespace ConnString

open Text

/-- The endpoint of a new configuration is regular. -/
theorem Endpoint.regular_default : Endpoint.Regular {} where
  scheme := .inr (by decide)
  host := by decide
  escapes := by decide
  placed := ⟨"localhost:8123".toList, by decide, by decide⟩

section

variable [ZoneDatabase]

namespace Config

/-- A mapping leaves a regular configuration behind, whether or not it fails. -/
theorem Regular.apply {config : Config} (regular : config.Regular)
    (mapping : Dict (List String)) : (config.apply mapping).2.Regular := by
  cases outcome : config.applied mapping with
  | error error =>
      rw [apply_of_applied_error outcome]
      exact regular
  | ok result =>
      rw [apply_of_applied_ok outcome]
      rw [applied_eq_applyPairs] at outcome
      exact regular.applyPairs outcome

/-- Formatting a regular configuration records nothing. -/
theorem Regular.events_format {config : Config} (regular : config.Regular) :
    config.format.events = [] := by
  rw [format, overriddenKeys_of_free regular.free, List.map_nil]

/-- A regular configuration has a request URL. -/
theorem Regular.exists_url {config : Config} (regular : config.Regular)
    (extra : Option (Dict String)) (inPath : Bool) :
    ∃ text, config.url extra inPath = .ok text := by
  obtain ⟨params, present, _⟩ := regular.params
  exact ⟨_, url_of_params present extra inPath⟩

end Config

namespace Session

/-- Whether a request writes into the configuration without reading what it writes. -/
def Step.assigns : Step → Bool
  | .assign _ => true
  | .put _ _ => true
  | _ => false

/-- The configuration that a run leaves behind. -/
def after (config : Config) (steps : List Step) : Config :=
  ((run config steps).map Outcome.config).getLastD config

theorem after_cons (config : Config) (request : Step) (rest : List Step) :
    after config (request :: rest) = after (step config request).config rest := by
  simp only [after, run, List.map_cons, List.getLastD_cons]

/-! ### One request -/

/-- Parsing leaves the configuration or puts what it accepts in its place. -/
theorem config_step_parse (config : Config) (dsn : Argument) :
    (step config (.parse dsn)).config = config ∨
      ∃ text, Config.ofDsn text = .ok (step config (.parse dsn)).config := by
  cases dsn with
  | other kind => exact .inl rfl
  | text dsn =>
      unfold step
      simp only [Config.parseArgument, Config.value_parse]
      cases read : Config.ofDsn dsn with
      | error error => exact .inl rfl
      | ok result => exact .inr ⟨dsn, read⟩

/-- Reading back leaves the configuration or puts what it accepts in its place. -/
theorem config_step_reparse (config : Config) :
    (step config .reparse).config = config ∨
      Config.ofDsn config.toDsn = .ok (step config .reparse).config := by
  unfold step
  simp only [Config.format, Config.value_parse]
  cases read : Config.ofDsn config.toDsn with
  | error error => exact .inl rfl
  | ok result => exact .inr rfl

/-- A mapping leaves what applying it leaves, on failure too. -/
theorem config_step_apply (config : Config) (mapping : Dict (List String)) :
    (step config (.apply mapping)).config = (config.apply mapping).2 := by
  unfold step
  dsimp only
  rcases config.apply mapping with ⟨_ | _, _⟩ <;> rfl

theorem config_step_url (config : Config) (extra : Option (Dict String)) (inPath : Bool) :
    (step config (.url extra inPath)).config = config := by
  unfold step
  dsimp only
  cases config.url extra inPath <;> rfl

/-- A request that assigns nothing keeps a configuration regular, whether or not it fails. -/
theorem regular_step {config : Config} (regular : config.Regular) {request : Step}
    (unassigned : request.assigns = false) : (step config request).config.Regular := by
  -- Only reading and applying replace the configuration, each by one that reading made.
  cases request with
  | assign change => cases unassigned
  | put key value => cases unassigned
  | renew => exact Config.regular_of_endpoint Endpoint.regular_default
  | parse dsn =>
      rcases config_step_parse config dsn with kept | ⟨text, read⟩
      · rw [kept]
        exact regular
      · exact Config.regular_of_ofDsn read
  | apply mapping =>
      rw [config_step_apply]
      exact regular.apply mapping
  | format => exact regular
  | url extra inPath =>
      rw [config_step_url]
      exact regular
  | reparse =>
      rcases config_step_reparse config with kept | read
      · rw [kept]
        exact regular
      · exact Config.regular_of_ofDsn read

/-! ### Runs -/

/-- A run that assigns nothing keeps a configuration regular. -/
theorem regular_run {config : Config} (regular : config.Regular) {steps : List Step}
    (unassigned : ∀ request ∈ steps, request.assigns = false) : (after config steps).Regular := by
  induction steps generalizing config with
  | nil => exact regular
  | cons request rest ih =>
      rw [after_cons]
      refine ih (regular_step regular (unassigned request List.mem_cons_self)) ?_
      exact fun later member => unassigned later (List.mem_cons_of_mem _ member)

/-- After any run from the defaults that assigns nothing, there are parameters without reserved
keys, the location is a zone that its name loads, the scheme is empty or in small letters and the
host is sound; writing reports nothing and a request URL can be written. -/
theorem regular_after {steps : List Step} (unassigned : ∀ request ∈ steps, request.assigns = false)
    {config : Config} (reached : after {} steps = config) :
    (∃ params, config.params = some params ∧ ∀ key ∈ params.keys, key ∉ OptionKey.reservedKeys) ∧
      (∃ zone, config.location = some (.named zone) ∧ Location.load? zone.key = some zone) ∧
      (config.scheme = "" ∨ Reference.isSmallScheme config.scheme.toList) ∧
      Host.fault? config.host.toList = none ∧
      config.format.events = [] ∧
      ∀ extra inPath, ∃ text, config.url extra inPath = .ok text := by
  have regular : config.Regular :=
    reached ▸ regular_run (Config.regular_of_endpoint Endpoint.regular_default) unassigned
  exact ⟨regular.params, regular.location, regular.endpoint.scheme, regular.endpoint.host,
    regular.events_format, regular.exists_url⟩

end Session

end

namespace Session

open scoped Tzdata

/-- A run with an option in escapes, reading back what is written, a mapping that fails at its
second key, a mapping with a key that has no values, and a text that is not read. -/
def mixed : List Step :=
  [.parse (.text "CH://u:p%40@[::1]:9000/d?%74imeout=5s"), .reparse,
    .apply (.ofList [("a b", ["1"]), ("location", ["America/Lima", "?"])]),
    .apply (.ofList [("debug", ["1"]), ("query", ["x"])]),
    .apply (.ofList [("query", []), ("c", ["2", "3"])]),
    .parse (.text ":bad"), .format, .url none true]

/-- The configuration after the run. -/
def mixedResult : Config where
  scheme := "ch"
  user := "u"
  password := "p@"
  host := "[::1]:9000"
  database := "d"
  timeout := ⟨5000000, by decide, by decide⟩
  location := some (.named ⟨"America/Lima", by decide⟩)
  params := some (.ofList [("a b", "1"), ("c", "2")])

/-- The invariant at the end of a run whose requests succeed and fail. -/
theorem regular_after_mixed :
    (∀ request ∈ mixed, request.assigns = false) ∧ after {} mixed = mixedResult ∧
      (∃ params, mixedResult.params = some params ∧
        ∀ key ∈ params.keys, key ∉ OptionKey.reservedKeys) ∧
      (∃ zone, mixedResult.location = some (.named zone) ∧
        Location.load? zone.key = some zone) ∧
      (mixedResult.scheme = "" ∨ Reference.isSmallScheme mixedResult.scheme.toList) ∧
      Host.fault? mixedResult.host.toList = none ∧
      mixedResult.format.events = [] ∧
      ∀ extra inPath, ∃ text, mixedResult.url extra inPath = .ok text := by
  have unassigned : ∀ request ∈ mixed, request.assigns = false := by decide
  have reached : after {} mixed = mixedResult := by decide +kernel
  exact ⟨unassigned, reached, regular_after unassigned reached⟩

end Session

end ConnString
