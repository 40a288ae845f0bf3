/-!
# Events

What reading and writing connection strings reports. Neither event shows a password. An event has a
level, which is a number: the greater it is, the graver the event. Six levels have a name of their
own. Loggers are named below one logger of the package.
-/

namespace ConnString.Log

/-- The level of events of interest to developers. -/
def debugLevel : Int := 10

/-- The level from which records are written unless another is asked for. -/
def infoLevel : Int := 20

/-- The level of events that may be mistakes. -/
def warningLevel : Int := 30

/-- The name of a level. -/
def levelName (level : Int) : String :=
  if level = 0 then "NOTSET"
  else if level = debugLevel then "DEBUG"
  else if level = infoLevel then "INFO"
  else if level = warningLevel then "WARNING"
  else if level = 40 then "ERROR"
  else if level = 50 then "CRITICAL"
  else s!"Level {level}"

/-- The name of the logger above all others of the package. -/
def rootLogger : String := "clickhouse_dsn"

/-- The name of a logger of the package. -/
def loggerName (name : String) : String := rootLogger ++ "." ++ name

/-- Something to report. -/
inductive Event
  /-- A connection string was read; the keys of its parameters are in ascending order. -/
  | parsed (scheme host database : String) (params : List String)
  /-- A parameter takes the place of a typed option. -/
  | overridden (key : String)
deriving DecidableEq, Repr

namespace Event

/-- The level of an event. -/
def level : Event → Int
  | parsed .. => debugLevel
  | overridden _ => warningLevel

/-- The words for an event. -/
def message : Event → String
  | parsed scheme host database _ => "Parsed DSN " ++ scheme ++ "://" ++ host ++ "/" ++ database
  | overridden key =>
    "Passthrough parameter '" ++ key ++ "' overrides the typed option of the same name"

/-- The keys of parameters that an event carries beside its words. -/
def params? : Event → Option (List String)
  | parsed _ _ _ params => some params
  | overridden _ => none

/-- The logger that events are reported to. -/
def logger : String := loggerName "dsn"

end Event

/-- A result and the events reported on the way to it. -/
structure Logged (α : Type) where
  /-- The result. -/
  value : α
  /-- The events, in their order. -/
  events : List Event

end ConnString.Log
