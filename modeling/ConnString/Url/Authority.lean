import ConnString.Text.Quoted
import ConnString.Url.Address

/-!
# The authority of a URL

An authority is a host after a user part, which ends at the last `@`. Square brackets may enclose
nothing but an address literal at the start of the host, and some characters are refused because
their compatibility form holds a delimiter.
-/

namespace ConnString.Authority

open Text

/-- The user part, if there is one, and the host. -/
def parts (authority : List Char) : Option (List Char) × List Char :=
  match cutLast? '@' authority with
  | some (userinfo, host) => (some userinfo, host)
  | none => (none, authority)

/-- Why a text is no authority. -/
inductive Fault
  /-- The brackets do not enclose the start of the host. -/
  | brackets
  /-- The brackets enclose a broken address of a future version. -/
  | futureAddress
  /-- The brackets enclose an IPv4 address. -/
  | ipv4Address
  /-- The brackets enclose no address. -/
  | noAddress (host : String)
  /-- The compatibility form of the authority holds a delimiter. -/
  | hiddenDelimiter (authority : String)
deriving DecidableEq, Repr

/-- The words for a fault. -/
def Fault.message : Fault → String
  | brackets => "Invalid IPv6 URL"
  | futureAddress => "IPvFuture address is invalid"
  | ipv4Address => "An IPv4 address cannot be in brackets"
  | noAddress host => quoted host ++ " does not appear to be an IPv4 or IPv6 address"
  | hiddenDelimiter authority =>
    "netloc '" ++ authority ++ "' contains invalid characters under NFKC normalization"

/-- What is wrong with the text that brackets enclose. -/
def literalFault? (host : List Char) : Option Fault :=
  if host.head? = some 'v' then
    if Address.isFuture host then none else some .futureAddress
  else if Address.isIPv4 host then some .ipv4Address
  else if Address.isIPv6 host then none
  else some (.noAddress (String.ofList host))

/-- What is wrong with the host of an authority that has brackets of both kinds. -/
def bracketedFault? (host : List Char) : Option Fault :=
  match cut? '[' host with
  | some (before, bracketed) =>
    let enclosed := cut ']' bracketed
    if before.isEmpty && (enclosed.2.isEmpty || enclosed.2.head? == some ':') then
      literalFault? enclosed.1
    else some .brackets
  | none => literalFault? (cut ':' host).1

/-- What is wrong with the brackets of an authority. -/
def bracketFault? (authority : List Char) : Option Fault :=
  match authority.contains '[', authority.contains ']' with
  | true, true => bracketedFault? (parts authority).2
  | false, false => none
  | _, _ => some .brackets

/-- The characters whose compatibility form holds one of `/`, `?`, `#`, `@` and `:`. -/
def hidesDelimiter (char : Char) : Bool :=
  ['\u2047', '\u2048', '\u2049', '\u2100', '\u2101', '\u2105', '\u2106', '\u2A74', '\uFE13',
    '\uFE16', '\uFE55', '\uFE56', '\uFE5F', '\uFE6B', '\uFF03', '\uFF0F', '\uFF1A', '\uFF1F',
    '\uFF20'].contains char

/-- What is wrong with an authority. -/
def fault? (authority : List Char) : Option Fault :=
  (bracketFault? authority).or
    (if authority.any hidesDelimiter then some (.hiddenDelimiter (String.ofList authority))
      else none)

end ConnString.Authority
