import ConnString.Config.Reader
import ConnString.Config.Writer

/-!
# Sessions

A session works on one current configuration. A step answers or fails, reports events and leaves a
configuration behind. Reading a connection string puts a new configuration in place of the current
one if it succeeds; applying a mapping works on the current one, and the step leaves behind what
that leaves of it.
-/

namespace ConnString

open Log

namespace Session

/-- A request to a session. -/
inductive Step
  /-- Start anew with the defaults. -/
  | renew
  /-- Read what should be a connection string. -/
  | parse (dsn : Argument)
  /-- Set the keys of a mapping. -/
  | apply (mapping : Dict (List String))
  /-- Assign to fields of the configuration. -/
  | assign (change : Config → Config)
  /-- Store a parameter. -/
  | put (key value : String)
  /-- Write a connection string. -/
  | format
  /-- Write a request URL. -/
  | url (extra : Option (Dict String)) (inPath : Bool)
  /-- Write a connection string and read it back. -/
  | reparse

/-- The answer to a request. -/
inductive Answer
  /-- The request is carried out. -/
  | done
  /-- A connection string. -/
  | dsn (text : String)
  /-- A request URL. -/
  | url (text : String)
  /-- Whether the configuration read back is the same. -/
  | reparsed (same : Bool)
deriving DecidableEq, Repr

/-- Why a request fails. -/
inductive Failure
  | dsn (error : DsnError)
  | params (error : MissingParams)
deriving DecidableEq, Repr

/-- What a step leaves behind. -/
structure Outcome where
  /-- The answer, or why there is none. -/
  answer : Except Failure Answer
  /-- The events reported, in their order. -/
  events : List Event
  /-- The configuration after the step. -/
  config : Config

section

variable [ZoneDatabase]

/-- Carry out a request. -/
def step (config : Config) : Step → Outcome
  | .renew => ⟨.ok .done, [], {}⟩
  | .parse dsn =>
    let parsed := Config.parseArgument dsn
    match parsed.value with
    | .ok read => ⟨.ok .done, parsed.events, read⟩
    | .error error => ⟨.error (.dsn error), parsed.events, config⟩
  | .apply mapping =>
    match config.apply mapping with
    | (.ok _, changed) => ⟨.ok .done, [], changed⟩
    | (.error error, changed) => ⟨.error (.dsn (.option error)), [], changed⟩
  | .assign change => ⟨.ok .done, [], change config⟩
  | .put key value =>
    match config.putParam key value with
    | .ok changed => ⟨.ok .done, [], changed⟩
    | .error error => ⟨.error (.params error), [], config⟩
  | .format =>
    let formatted := config.format
    ⟨.ok (.dsn formatted.value), formatted.events, config⟩
  | .url extra inPath =>
    match config.url extra inPath with
    | .ok text => ⟨.ok (.url text), [], config⟩
    | .error error => ⟨.error (.params error), [], config⟩
  | .reparse =>
    let formatted := config.format
    let parsed := Config.parse formatted.value
    let events := formatted.events ++ parsed.events
    match parsed.value with
    | .ok read => ⟨.ok (.reparsed (decide (read.Same config))), events, read⟩
    | .error error => ⟨.error (.dsn error), events, config⟩

/-- Carry out requests one after another. -/
def run (config : Config) : List Step → List Outcome
  | [] => []
  | request :: rest =>
    let outcome := step config request
    outcome :: run outcome.config rest

end

end Session

end ConnString
