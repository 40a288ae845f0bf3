import ConnString.Proofs.WrittenAlike

/-!
# Locations by their names

A connection string keeps nothing of a location but its name, and leaves out the name `UTC`. A name
that loads a zone comes back as the name of that zone, which reading finds whatever kind of location
was written. A name that loads nothing is refused under that name, since every other entry of the
query can be read (`Config.reads_or_location`). So a location comes back under its name or not at
all (`Config.location_kept_or_refused`). The one name that is lost is the empty one, which stands
for `UTC`.
-/

namespace ConnString

namespace Location

/-- An offset that carries no name has one. -/
theorem offsetName_ne_empty (offset : Int) : offsetName offset ≠ "" := by
  rw [offsetName]
  split
  · decide
  · simp only [ne_eq, String.append_eq_empty_iff, String.reduceEq, false_and, not_false_eq_true]

end Location

/-- Only an offset can be called by the empty text. -/
theorem locationName_ne_empty {location : Option Location}
    (named : ∀ offset, location ≠ some (.fixed offset (some ""))) : locationName location ≠ "" := by
  rcases location with _ | zone | ⟨offset, _ | name⟩
  · decide
  · exact zone.called
  · exact Location.offsetName_ne_empty offset
  · rintro rfl
    exact named offset rfl

namespace Config

section

variable [ZoneDatabase]

/-- Without reserved keys among the parameters, an entry of a connection string can be read unless
it is the location. -/
theorem reads_or_location {config : Config}
    (free : ∀ key ∈ (config.params.getD ∅).keys, key ∉ OptionKey.reservedKeys)
    {key value : String} (listed : config.Lists key value) :
    (∃ setting, Setting.Reads key value setting) ∨
      (key = "location" ∧ value = locationName config.location) := by
  cases listed with
  | param stored =>
      have member : key ∈ (config.params.getD ∅).keys :=
        List.mem_map_of_mem (Dict.get?_eq_some_iff.mp stored)
      exact .inl ⟨_, .param (free key member)⟩
  | option _ departs =>
      cases departs with
      | duration option _ => exact .inl ⟨_, .duration option (Duration.parse_format _)⟩
      | location _ => exact .inr ⟨rfl, rfl⟩
      | debug _ =>
          have spelled : Flag.parse? "1" = some true := by decide
          exact .inl ⟨_, .debug spelled⟩

/-- A location whose name loads nothing is refused under this name. -/
theorem applyPairs_dsnQuery_of_unknown {config : Config}
    (free : ∀ key ∈ (config.params.getD ∅).keys, key ∉ OptionKey.reservedKeys)
    (unknown : Location.load? (locationName config.location) = none) (base : Config) :
    base.applyPairs config.dsnQuery.sorted =
      .error (.timeZone (locationName config.location)) := by
  have refused := Setting.read_eq_error_iff.mpr (.location unknown)
  -- The location is listed, so not every pair can be read; and no other pair can be at fault.
  cases applied : base.applyPairs config.dsnQuery.sorted with
  | ok result =>
      have other : locationName config.location ≠ "UTC" := by
        intro utc
        rw [utc] at unknown
        cases unknown.symm.trans (Location.load?_utc)
      have unset : "location" ∉ (config.params.getD ∅).keys := fun member =>
        free _ member (by decide)
      have listed := mem_sorted_dsnQuery.mpr (Lists.option unset (.location other))
      obtain ⟨setting, reads⟩ := exists_reads_of_applyPairs applied listed
      cases refused.symm.trans (Setting.read_eq_ok_iff.mpr reads)
  | error error =>
      obtain ⟨⟨key, value⟩, member, fails⟩ := exists_fails_of_applyPairs applied
      have failed := Setting.read_eq_error_iff.mpr fails
      rcases reads_or_location free (mem_sorted_dsnQuery.mp member) with
        ⟨setting, reads⟩ | ⟨rfl, rfl⟩
      · cases failed.symm.trans (Setting.read_eq_ok_iff.mpr reads)
      · exact congrArg Except.error (Except.error.inj (failed.symm.trans refused))

end

end Config

open scoped Tzdata

/-- An offset with the name of a zone that it is not. -/
def Location.misnamed : Location := .fixed 3600000000 (some "Asia/Tokyo")

/-- An offset without a name of its own. -/
def Location.west : Location := .fixed (-5400000001) none

/-- A zone that is in no database. -/
def Location.crater : Location := .named ⟨"Mars/Gale", by decide⟩

/-- The unusual configuration at another location. -/
def Config.unusualAt (location : Location) : Config := { unusual with location := some location }

/-- The empty name comes back as `UTC`. -/
example :
    Config.ofDsn (Config.toDsn { location := some (.fixed 3600000000 (some "")) }) = .ok {} := by
  decide +kernel

end ConnString
