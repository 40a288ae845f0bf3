import ConnString.Url.Host
import ConnString.Url.Reference

/-!
# Endpoints

An endpoint says how and where to connect: scheme, credentials, host with port, and database. It is
read off the parts of a URL reference; user, password and database are unescaped only after the
reference is split, and the host is kept as it is written. Reading a text returns its parts exactly
when nothing is wrong with the text or with them (`Reference.read_eq_ok_iff`).
-/

namespace ConnString

open Text

/-- How and where to connect. -/
structure Endpoint where
  /-- The scheme of the interface. -/
  scheme : String := "http"
  /-- The user, empty for none. -/
  user : String := ""
  /-- The password, empty for none. -/
  password : String := ""
  /-- The host with its port. -/
  host : String := "localhost:8123"
  /-- The database, empty for the server's own choice. -/
  database : String := ""
deriving DecidableEq, Repr

/-- Whether a character is an ASCII control character. -/
def isControl (char : Char) : Bool := decide (char.toNat < 0x20) || decide (char.toNat = 0x7F)

namespace Reference

/-- The first percent sign of a part that starts no escape. -/
def escapeFault? (part : List Char) : Option Malformation :=
  (Percent.badEscape? part).map fun shown => .escape (String.ofList shown)

/-- What is wrong with the parts of a reference. -/
def fault? (reference : Reference) : Option Malformation :=
  ((Authority.fault? reference.authority).map .authority).or
    ((escapeFault? reference.authority).or
      ((escapeFault? reference.path).or
        (Host.fault? (Authority.parts reference.authority).2)))

/-- What is wrong with a text before it is split. -/
def textFault? (text : List Char) : Option Malformation :=
  if text.any isControl then some .controlCharacter
  else if text.head? = some ':' then some .missingScheme
  else none

/-- The parts of a text, or what is wrong with it. -/
def read (text : List Char) : Except Malformation Reference :=
  match (textFault? text).or (fault? (split text)) with
  | some malformation => .error malformation
  | none => .ok (split text)

/-- A text is read exactly if neither it nor what it is split into has a fault. -/
theorem read_eq_ok_iff {text : List Char} {reference : Reference} :
    read text = .ok reference ↔
      textFault? text = none ∧ fault? reference = none ∧ split text = reference := by
  unfold read
  split
  · next malformation found =>
    simp only [reduceCtorEq, false_iff]
    rintro ⟨early, late, rfl⟩
    simp [early, late] at found
  · next absent =>
    obtain ⟨early, late⟩ := Option.or_eq_none_iff.1 absent
    simp only [Except.ok.injEq, early, true_and]
    exact ⟨fun same => ⟨same ▸ late, same⟩, And.right⟩

/-- The endpoint that the parts of a reference describe. -/
def endpoint (reference : Reference) : Endpoint :=
  let place := Authority.parts reference.authority
  let credentials := cut ':' (place.1.getD [])
  { scheme := String.ofList reference.scheme
    user := String.ofList (Percent.decode credentials.1)
    password := String.ofList (Percent.decode credentials.2)
    host := String.ofList place.2
    database :=
      match Percent.decode reference.path with
      | '/' :: database => String.ofList database
      | _ => "" }

end Reference

end ConnString
