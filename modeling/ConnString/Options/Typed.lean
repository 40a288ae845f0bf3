import ConnString.Duration.Basic
import ConnString.Location.Basic
import ConnString.Options.Key

/-!
# Typed options

The options that a connection string sets besides the endpoint and the parameters for the server.
A duration of zero stands for no limit of one's own; the idle timeout starts at one hour. Only
options that differ from their defaults are written, and a location does so if its name does.
-/

namespace ConnString

/-- The options of a connection that have a type of their own. -/
structure TypedOptions where
  /-- The time allowed for a request. -/
  timeout : Duration := .zero
  /-- The time after which an idle connection is closed. -/
  idleTimeout : Duration := .hour
  /-- The time allowed for reading. -/
  readTimeout : Duration := .zero
  /-- The time allowed for writing. -/
  writeTimeout : Duration := .zero
  /-- The location of times without a zone; none stands for Coordinated Universal Time. -/
  location : Option Location := some .utc
  /-- Whether debugging is on. -/
  debug : Bool := false
deriving DecidableEq

namespace TypedOptions

/-- The duration that an option holds. -/
def duration (options : TypedOptions) : DurationOption → Duration
  | .timeout => options.timeout
  | .idleTimeout => options.idleTimeout
  | .readTimeout => options.readTimeout
  | .writeTimeout => options.writeTimeout

/-- Let an option hold a duration. -/
def setDuration (options : TypedOptions) (option : DurationOption) (value : Duration) :
    TypedOptions :=
  match option with
  | .timeout => { options with timeout := value }
  | .idleTimeout => { options with idleTimeout := value }
  | .readTimeout => { options with readTimeout := value }
  | .writeTimeout => { options with writeTimeout := value }

/-- Setting one option leaves the others as they are. -/
theorem duration_setDuration (options : TypedOptions) (option other : DurationOption)
    (value : Duration) :
    (options.setDuration option value).duration other =
      if other = option then value else options.duration other := by
  cases option <;> cases other <;> rfl

/-- The durations that differ from their defaults, as they are written. -/
def writtenDurations (options : TypedOptions) : List (String × String) :=
  (DurationOption.all.filter fun option =>
    decide (options.duration option ≠ ({} : TypedOptions).duration option)).map fun option =>
      (option.key, (options.duration option).format)

/-- The options that differ from their defaults, as they are written. -/
def written (options : TypedOptions) : List (String × String) :=
  options.writtenDurations ++
    (if isUtc options.location then [] else [("location", locationName options.location)]) ++
    if options.debug then [("debug", "1")] else []

/-- Two sets of options agree; locations are compared as locations. -/
def Same (left right : TypedOptions) : Prop :=
  { left with location := none } = { right with location := none } ∧
    SameLocation left.location right.location

instance (left right : TypedOptions) : Decidable (Same left right) :=
  inferInstanceAs (Decidable (_ ∧ _))

theorem Same.refl (options : TypedOptions) : options.Same options :=
  ⟨rfl, SameLocation.refl options.location⟩

end TypedOptions

end ConnString
