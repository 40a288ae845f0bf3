import ConnString.Url.Authority

/-!
# Hosts

A host is made of the characters that a URL keeps there, of escapes and of characters beyond ASCII.
If it starts with a bracket, nothing but a port may follow the closing one; otherwise the port is
what follows the last colon. A port is a run of digits, which may be empty. What is wrong with a
host is one of the reasons why a text has no endpoint (`Malformation`), which are listed here in the
order in which they are looked for.
-/

namespace ConnString

open Text

/-- Why a text is no connection string. -/
inductive Malformation
  /-- The argument is no text but something of another kind. -/
  | notText (kind : String)
  /-- The text holds a control character. -/
  | controlCharacter
  /-- The text starts with the colon after a scheme. -/
  | missingScheme
  /-- The authority cannot stand in a URL. -/
  | authority (fault : Authority.Fault)
  /-- A percent sign starts no escape. -/
  | escape (shown : String)
  /-- A character cannot stand in a host. -/
  | hostCharacter (char : Char)
  /-- Text other than a port follows a bracketed host. -/
  | host (text : String)
  /-- The port is no number. -/
  | port (text : String)
deriving DecidableEq, Repr

/-- The words for the reason. -/
def Malformation.message : Malformation → String
  | notText kind => "DSN must be a string, got " ++ kind
  | controlCharacter => "DSN contains control characters"
  | missingScheme => "missing protocol scheme"
  | authority fault => "Invalid DSN: " ++ fault.message
  | escape shown => "invalid URL escape " ++ quoted shown
  | hostCharacter char => "invalid character " ++ quoted char.toString ++ " in host name"
  | host text => "invalid host " ++ quoted text
  | port text => "invalid port " ++ quoted text ++ " after host"

/-- The words for the fault of the URL that lies beneath the reason. -/
def Malformation.cause? : Malformation → Option String
  | authority fault => some fault.message
  | _ => none

namespace Host

/-- Whether a character may stand in a host. -/
def isHostChar (char : Char) : Bool :=
  Percent.isUnreserved char || Percent.isSubDelimiter char ||
    [':', '[', ']', '%', '<', '>', '"'].contains char || decide (0x80 ≤ char.toNat)

/-- What is wrong with a port. -/
def portFault? (port : List Char) : Option Malformation :=
  if port.all Char.isDigit then none else some (.port (String.ofList port))

/-- What is wrong with a host of allowed characters. -/
def formFault? (host : List Char) : Option Malformation :=
  if host.head? = some '[' then
    let tail := ((cut? ']' host).map Prod.snd).getD host
    match tail with
    | [] => none
    | ':' :: port => portFault? port
    | _ => some (.host (String.ofList host))
  else
    match cutLast? ':' host with
    | some (_, port) => portFault? port
    | none => none

/-- What is wrong with a host. -/
def fault? (host : List Char) : Option Malformation :=
  match host.find? fun char => !isHostChar char with
  | some char => some (.hostCharacter char)
  | none => formFault? host

end Host

end ConnString
