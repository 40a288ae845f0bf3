import ConnString.Config.Basic
import ConnString.Log.Event
import ConnString.Query

/-!
# Reading connection strings

A connection string has the form
`scheme://[user[:password]@]host[:port]/[database][?key=value&...]`.
Its endpoint is read before its options; a text that is read reports its scheme, host, database and
parameter keys, and a text that is not read reports nothing (`events_parse`).
-/

namespace ConnString

open Log

/-- Why there is no configuration. -/
inductive DsnError
  /-- The connection string, if it is a text, has no endpoint. -/
  | malformed (dsn : Option String) (cause : Malformation)
  /-- An option cannot be set. -/
  | option (cause : OptionError)
  /-- The variable of the environment has no value. -/
  | unset (name : String)
deriving DecidableEq, Repr

/-- The words for the error. -/
def DsnError.message : DsnError → String
  | malformed _ cause => cause.message
  | option cause => cause.message
  | unset name => "Environment variable " ++ name ++ " is not set"

/-- A connection string that is asked for, or something else. -/
inductive Argument
  /-- A text. -/
  | text (dsn : String)
  /-- Something of another kind, by the name of the kind. -/
  | other (kind : String)
deriving DecidableEq, Repr

namespace Config

/-- The report that a configuration was read. -/
def parsed (config : Config) : Event :=
  .parsed config.scheme config.host config.database
    (((config.params.getD ∅).sorted).map Prod.fst)

section

variable [ZoneDatabase]

/-- The configuration that the parts of a reference describe: the options of the query are set in a
new configuration with its endpoint. -/
def ofReference (reference : Reference) : Except OptionError Config :=
  applied { toEndpoint := reference.endpoint } (Query.read reference.query)

/-- The configuration that a connection string describes. -/
def ofDsn (dsn : String) : Except DsnError Config :=
  match Reference.read dsn.toList with
  | .error cause => .error (.malformed (some dsn) cause)
  | .ok reference => (ofReference reference).mapError .option

/-- Read a connection string and report it. -/
def parse (dsn : String) : Logged (Except DsnError Config) :=
  match ofDsn dsn with
  | .ok config => ⟨.ok config, [config.parsed]⟩
  | .error error => ⟨.error error, []⟩

/-- Read what should be a connection string. -/
def parseArgument : Argument → Logged (Except DsnError Config)
  | .text dsn => parse dsn
  | .other kind => ⟨.error (.malformed none (.notText kind)), []⟩

/-- Read the connection string in a variable of an environment; an empty one does not count. -/
def ofEnvironment (environment : String → Option String) (name : String) :
    Logged (Except DsnError Config) :=
  match environment name with
  | some value => if value = "" then ⟨.error (.unset name), []⟩ else parse value
  | none => ⟨.error (.unset name), []⟩

/-- Reporting does not change what is read. -/
theorem value_parse (dsn : String) : (parse dsn).value = ofDsn dsn := by
  unfold parse
  split <;> simp_all

/-- A configuration that is read is reported, and nothing else is. -/
theorem events_parse (dsn : String) :
    (parse dsn).events =
      match ofDsn dsn with
      | .ok config => [config.parsed]
      | .error _ => [] := by
  unfold parse
  split <;> simp_all

end

end Config

end ConnString
