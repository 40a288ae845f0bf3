import ConnString.Duration.Reader
import ConnString.Location.Basic
import ConnString.Options.Key

/-!
# Settings

A setting is one key of a query with its value read: a typed option or a parameter for the server.
Reading fails on a refused key and on a value that is none of its option's. A flag has six spellings
of each value; no other text is one.
-/

namespace ConnString

namespace Flag

/-- The spellings of a set flag. -/
def trueSpellings : List String := ["1", "t", "T", "TRUE", "true", "True"]

/-- The spellings of a flag that is not set. -/
def falseSpellings : List String := ["0", "f", "F", "FALSE", "false", "False"]

/-- The value that a text spells. -/
def parse? (text : String) : Option Bool :=
  if trueSpellings.contains text then some true
  else if falseSpellings.contains text then some false
  else none

/-- The words for a text that spells no flag. -/
def invalidMessage (text : String) : String := "invalid boolean " ++ Text.quoted text

end Flag

/-- One key of a query with its value read. -/
inductive Setting
  | duration (option : DurationOption) (value : Duration)
  | location (zone : Zone)
  | debug (on : Bool)
  | param (key value : String)
deriving DecidableEq

/-- Why a key of a query cannot be set. -/
inductive OptionError
  /-- The value is no duration. -/
  | duration (option : DurationOption) (value : String) (fault : Duration.Fault)
  /-- The value names no time zone. -/
  | timeZone (value : String)
  /-- The value spells no flag. -/
  | flag (value : String)
  /-- The key is refused. -/
  | refused (key : String)
deriving DecidableEq, Repr

namespace OptionError

/-- The key that cannot be set. -/
def key : OptionError → String
  | duration option _ _ => option.key
  | timeZone _ => "location"
  | flag _ => "debug"
  | refused key => key

/-- The value that cannot be read, if the value is at fault. -/
def value? : OptionError → Option String
  | duration _ value _ => some value
  | timeZone value => some value
  | flag value => some value
  | refused _ => none

/-- The words for what is wrong with the value, if the value is at fault. -/
def cause? : OptionError → Option String
  | duration _ value fault => some (fault.message value)
  | timeZone value => some (Location.unknownMessage value)
  | flag value => some (Flag.invalidMessage value)
  | refused _ => none

/-- The words for the error. -/
def message : OptionError → String
  | duration option value _ =>
    "Invalid duration value for '" ++ option.key ++ "': " ++ Text.quoted value
  | timeZone value => "Unknown time zone " ++ Text.quoted value
  | flag value => "Invalid boolean value for 'debug': " ++ Text.quoted value
  | refused key => "unknown option '" ++ key ++ "'"

end OptionError

/-- Read the value of a key. -/
def Setting.read [ZoneDatabase] (key value : String) : Except OptionError Setting :=
  match OptionKey.of key with
  | .duration option =>
    match Duration.parse value with
    | .ok length => .ok (.duration option length)
    | .error fault => .error (.duration option value fault)
  | .location =>
    match Location.load? value with
    | some zone => .ok (.location zone)
    | none => .error (.timeZone value)
  | .debug =>
    match Flag.parse? value with
    | some on => .ok (.debug on)
    | none => .error (.flag value)
  | .refused => .error (.refused key)
  | .passthrough => .ok (.param key value)

end ConnString
