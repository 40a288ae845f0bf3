import ConnString.Text.Quoted

/-!
# Locations

A location is a time zone with a key or a fixed offset, which may carry a name of its own. Every
location has a name. Which zones there are to load is up to a database of time zones, which may be
any; Coordinated Universal Time is loaded without it, by its key and by the empty name. A name loads
at most the zone whose key it is (`key_of_load?`), and a zone that is loaded is loaded by its own
key (`load?_key`).
-/

namespace ConnString

/-- A time zone, which is told from others by its key. -/
@[ext]
structure Zone where
  /-- The key of the zone. -/
  key : String
  called : key ≠ ""
deriving DecidableEq

/-- Coordinated Universal Time. -/
def Zone.utc : Zone := ⟨"UTC", by decide⟩

/-- A database of time zones. -/
class ZoneDatabase where
  /-- Whether there is a zone with a key. -/
  has : String → Bool

/-- A time zone or a fixed offset. -/
inductive Location
  /-- A time zone. -/
  | named (zone : Zone)
  /-- An offset in microseconds, with a name of its own if it has one. -/
  | fixed (offset : Int) (name : Option String)
deriving DecidableEq

namespace Location

/-- Coordinated Universal Time. -/
def utc : Location := .named .utc

/-- The name of an offset that carries none: hours and minutes, then seconds if they are not whole
minutes, then microseconds if they are not whole seconds. -/
def offsetName (offset : Int) : String :=
  if offset = 0 then "UTC"
  else
    let micros := offset.natAbs
    let seconds := micros / 1000000
    "UTC" ++ (if offset < 0 then "-" else "+") ++ Text.decimalField 2 (seconds / 3600) ++ ":" ++
      Text.decimalField 2 (seconds / 60 % 60) ++
      (if micros % 60000000 = 0 then "" else ":" ++ Text.decimalField 2 (seconds % 60)) ++
      if micros % 1000000 = 0 then "" else "." ++ Text.decimalField 6 (micros % 1000000)

/-- The name of a location. -/
def name : Location → String
  | named zone => zone.key
  | fixed offset given => given.getD (offsetName offset)

section

variable [ZoneDatabase]

/-- The zone that a name loads. -/
def load? (name : String) : Option Zone :=
  if utc : name = "" ∨ name = "UTC" then some .utc
  else if ZoneDatabase.has name then some ⟨name, fun blank => utc (.inl blank)⟩
  else none

/-- A name that loads a zone is the key of the zone, unless it is empty. -/
theorem key_of_load? {name : String} {zone : Zone} (loaded : load? name = some zone)
    (called : name ≠ "") : zone.key = name := by
  rw [load?] at loaded
  split at loaded
  · next utc =>
    rw [utc.resolve_left called]
    cases loaded
    rfl
  · split at loaded
    · cases loaded
      rfl
    · cases loaded

/-- A zone that a name loads is also loaded by its key. -/
theorem load?_key {name : String} {zone : Zone} (loaded : load? name = some zone) :
    load? zone.key = some zone := by
  by_cases blank : name = ""
  · subst blank
    cases loaded
    rfl
  · rwa [key_of_load? loaded blank]

/-- Coordinated Universal Time is in every database. -/
theorem load?_utc : load? Zone.utc.key = some .utc := rfl

end

/-- The words for a name that loads nothing. -/
def unknownMessage (name : String) : String := "unknown time zone " ++ Text.quoted name

/-- Two locations are the same zone or the same offset, whatever its name. -/
def Same : Location → Location → Prop
  | named left, named right => left = right
  | fixed left _, fixed right _ => left = right
  | _, _ => False

instance : (left right : Location) → Decidable (Same left right)
  | named left, named right => inferInstanceAs (Decidable (left = right))
  | fixed left _, fixed right _ => inferInstanceAs (Decidable (left = right))
  | named _, fixed _ _ => inferInstanceAs (Decidable False)
  | fixed _ _, named _ => inferInstanceAs (Decidable False)

end Location

/-- The name of a location that may be missing; a missing one is Coordinated Universal Time. -/
def locationName : Option Location → String
  | some location => location.name
  | none => "UTC"

/-- Two locations that may be missing are both missing or are the same. -/
def SameLocation : Option Location → Option Location → Prop
  | none, none => True
  | some left, some right => left.Same right
  | _, _ => False

instance : (left right : Option Location) → Decidable (SameLocation left right)
  | none, none => inferInstanceAs (Decidable True)
  | some left, some right => inferInstanceAs (Decidable (left.Same right))
  | none, some _ => inferInstanceAs (Decidable False)
  | some _, none => inferInstanceAs (Decidable False)

/-- Every location is the same as itself. -/
theorem SameLocation.refl (location : Option Location) : SameLocation location location := by
  rcases location with _ | zone | offset
  · trivial
  · rfl
  · rfl

/-- Whether a location is called Coordinated Universal Time. -/
def isUtc (location : Option Location) : Bool := locationName location = "UTC"

end ConnString
