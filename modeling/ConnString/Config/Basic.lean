import ConnString.Dict
import ConnString.Options.Setting
import ConnString.Options.Typed
import ConnString.Url.Endpoint

/-!
# Configurations

A configuration is an endpoint with typed options and parameters for the server. The parameters may
be missing altogether, which differs from there being none. Applying a mapping of keys to their
values works on the configuration at hand: what it has changed stays changed if it fails. It reads
the first value of every key, and stops at the first that cannot be read, before it sets any.
-/

namespace ConnString

/-- How to connect and with what options. -/
structure Config extends Endpoint, TypedOptions where
  /-- The parameters passed through to the server, in insertion order. -/
  params : Option (Dict String) := some ∅
deriving DecidableEq

namespace Config

/-- Two sets of parameters are both missing or hold the same entries. -/
def SameParams : Option (Dict String) → Option (Dict String) → Prop
  | none, none => True
  | some left, some right => left.Same right
  | _, _ => False

instance : (left right : Option (Dict String)) → Decidable (SameParams left right)
  | none, none => inferInstanceAs (Decidable True)
  | some left, some right => inferInstanceAs (Decidable (left.Same right))
  | none, some _ => inferInstanceAs (Decidable False)
  | some _, none => inferInstanceAs (Decidable False)

/-- Two configurations agree; the order of the parameters does not count. -/
def Same (left right : Config) : Prop :=
  left.toEndpoint = right.toEndpoint ∧ left.toTypedOptions.Same right.toTypedOptions ∧
    SameParams left.params right.params

instance (left right : Config) : Decidable (Same left right) :=
  inferInstanceAs (Decidable (_ ∧ _))

/-- Put a setting into a configuration. -/
def set (config : Config) : Setting → Config
  | .duration option value =>
    { config with toTypedOptions := config.toTypedOptions.setDuration option value }
  | .location zone => { config with location := some (.named zone) }
  | .debug on => { config with debug := on }
  | .param key value => { config with params := some ((config.params.getD ∅).insert key value) }

/-! ### Applying a mapping -/

/-- A change of a configuration that may fail on the way; what it has done by then stays done. -/
abbrev Change (α : Type) := ExceptT OptionError (StateM Config) α

/-- The outcome of a change, and the configuration that it leaves behind. -/
def Change.run {α : Type} (change : Change α) (config : Config) : Except OptionError α × Config :=
  Id.run (StateT.run (ExceptT.run change) config)

/-- What is read of a mapping before anything is set. -/
structure Collected where
  /-- The typed options, in the mapping's order. -/
  options : List Setting := []
  /-- The parameters for the server. -/
  params : Dict String := ∅

/-- Keep a setting until all are set. -/
def Collected.put (collected : Collected) : Setting → Collected
  | .param key value => { collected with params := collected.params.insert key value }
  | option => { collected with options := collected.options ++ [option] }

/-- The settings in the order in which they are set: the typed options come first. -/
def Collected.settings (collected : Collected) : List Setting :=
  collected.options ++ collected.params.entries.map fun entry => .param entry.1 entry.2

section

variable [ZoneDatabase]

/-- Read the first value of a key, if it has one. -/
def collect (collected : Collected) (entry : String × List String) : Change Collected :=
  match entry.2 with
  | [] => return collected
  | value :: _ => return collected.put (← MonadExcept.ofExcept (Setting.read entry.1 value))

/-- Read the first value of every key of a mapping, then set the keys. -/
def change (mapping : Dict (List String)) : Change Unit := do
  let collected ← mapping.entries.foldlM collect {}
  collected.settings.forM fun setting => modify fun config => config.set setting

/-- Set the keys of a mapping to their first values. The configuration that is left behind belongs
to the outcome, also if that is a failure. -/
def apply (config : Config) (mapping : Dict (List String)) : Except OptionError Unit × Config :=
  (change mapping).run config

/-- The configuration that setting the keys of a mapping makes, unless it fails. -/
def applied (config : Config) (mapping : Dict (List String)) : Except OptionError Config :=
  match config.apply mapping with
  | (.ok _, result) => .ok result
  | (.error error, _) => .error error

end

end Config

end ConnString
