/-!
# Option keys

Some keys of a query set typed options, some are refused, and all others pass through to the server.
The reserved keys are those that do not pass through (`OptionKey.of_eq_passthrough_iff`).
-/

namespace ConnString

/-- The options that hold a duration. -/
inductive DurationOption
  | timeout | idleTimeout | readTimeout | writeTimeout
deriving DecidableEq, Repr

namespace DurationOption

/-- The options that hold a duration, in the order in which they are written. -/
def all : List DurationOption := [timeout, idleTimeout, readTimeout, writeTimeout]

/-- The key of an option. -/
def key : DurationOption → String
  | timeout => "timeout"
  | idleTimeout => "idle_timeout"
  | readTimeout => "read_timeout"
  | writeTimeout => "write_timeout"

/-- The option with a key. -/
def ofKey? (key : String) : Option DurationOption := all.find? fun option => option.key == key

theorem mem_all (option : DurationOption) : option ∈ all := by
  cases option <;> decide

theorem ofKey?_key (option : DurationOption) : ofKey? option.key = some option := by
  cases option <;> decide

/-- An option is found under its own key only. -/
theorem key_of_ofKey? {key : String} {option : DurationOption} (found : ofKey? key = some option) :
    option.key = key := by
  simpa using List.find?_some found

/-- A key names no option exactly if it is none of their keys. -/
theorem ofKey?_eq_none_iff {key : String} :
    ofKey? key = none ↔ key ∉ all.map DurationOption.key := by
  simp [ofKey?]

end DurationOption

/-- What a key of a query stands for. -/
inductive OptionKey
  /-- A typed option that holds a duration. -/
  | duration (option : DurationOption)
  /-- The typed option that holds the location. -/
  | location
  /-- The typed option that holds the debugging flag. -/
  | debug
  /-- An option that a connection string may not set. -/
  | refused
  /-- A parameter for the server. -/
  | passthrough
deriving DecidableEq, Repr

namespace OptionKey

/-- The keys of the typed options. -/
def typedKeys : List String := DurationOption.all.map DurationOption.key ++ ["location", "debug"]

/-- The keys that a connection string may not set. -/
def refusedKeys : List String := ["default_format", "query", "database"]

/-- The keys that do not pass through. -/
def reservedKeys : List String := typedKeys ++ refusedKeys

/-- What a key stands for. -/
def of (key : String) : OptionKey :=
  match DurationOption.ofKey? key with
  | some option => .duration option
  | none =>
    if key = "location" then .location
    else if key = "debug" then .debug
    else if refusedKeys.contains key then .refused
    else .passthrough

/-- The keys that pass through are those that are not reserved. -/
theorem of_eq_passthrough_iff {key : String} : of key = .passthrough ↔ key ∉ reservedKeys := by
  unfold of
  cases found : DurationOption.ofKey? key with
  | some option =>
    have member : key ∈ DurationOption.all.map DurationOption.key := by
      rw [← DurationOption.key_of_ofKey? found]
      exact List.mem_map_of_mem option.mem_all
    simp only [reduceCtorEq, reservedKeys, typedKeys, List.mem_append, member, true_or,
      not_true_eq_false]
  | none =>
    have absent := DurationOption.ofKey?_eq_none_iff.1 found
    simp only [reservedKeys, typedKeys, List.mem_append, absent, false_or, List.mem_cons,
      List.not_mem_nil, or_false, not_or]
    by_cases location : key = "location"
    · simp [location]
    · by_cases debug : key = "debug"
      · simp [debug]
      · by_cases refused : key ∈ refusedKeys <;> simp [location, debug, refused]

end OptionKey

end ConnString
