import ConnString.Percent
import ConnString.Text.Cut

/-!
# Address literals

What may stand between the brackets of a host: an IPv6 address, with a scope after `%` if it has
one, or an address of a future version, which starts with `v`. An IPv6 address has eight groups of
hexadecimal digits, or at most seven around one gap `::`; the last two groups may be written as an
IPv4 address.
-/

namespace ConnString.Address

open Text

/-- Whether a text is a number below 256 in digits, without zeros before it. -/
def isIPv4Part (part : List Char) : Bool :=
  !part.isEmpty && part.all Char.isDigit && part.length ≤ 3 &&
    (part == ['0'] || part.head? != some '0') && Nat.ofDigitChars 10 part 0 ≤ 255

/-- Whether a text is an IPv4 address. -/
def isIPv4 (text : List Char) : Bool :=
  let parts := text.splitOn '.'
  parts.length == 4 && parts.all isIPv4Part

/-- Whether a text is a group of an IPv6 address. -/
def isGroup (group : List Char) : Bool :=
  !group.isEmpty && group.length ≤ 4 && group.all Hex.isDigit

/-- The groups of an IPv6 address, with two groups in the place of an IPv4 address at the end. -/
def groups? (text : List Char) : Option (List (List Char)) :=
  let parts := text.splitOn ':'
  let last := parts.getLast?.getD []
  if last.contains '.' then
    if isIPv4 last then some (parts.dropLast ++ [['0'], ['0']]) else none
  else some parts

/-- The groups before and after the first gap; a gap is an empty group inside the address. -/
def gap? : List (List Char) → Option (List (List Char) × List (List Char))
  | first :: [] :: next :: rest => some ([first], next :: rest)
  | first :: rest => (gap? rest).map fun sides => (first :: sides.1, sides.2)
  | [] => none

/-- The number of groups on one side of a gap; an empty group alone is an end of the address. -/
def side? (groups : List (List Char)) : Option Nat :=
  if groups = [[]] then some 0
  else if groups.all isGroup then some groups.length
  else none

/-- Whether a text is an IPv6 address without a scope. -/
def isUnscopedIPv6 (text : List Char) : Bool :=
  match groups? text with
  | none => false
  | some groups =>
    match gap? groups with
    | none => groups.length == 8 && groups.all isGroup
    | some (high, low) =>
      match side? high, side? low with
      | some before, some after => before + after ≤ 7
      | _, _ => false

/-- Whether a text is an IPv6 address. -/
def isIPv6 (text : List Char) : Bool :=
  match cut? '%' text with
  | some (address, scope) => isUnscopedIPv6 address && !scope.isEmpty && !scope.contains '%'
  | none => isUnscopedIPv6 text

/-- Whether a text is an address of a future version. -/
def isFuture : List Char → Bool
  | 'v' :: rest =>
    match cut? '.' rest with
    | some (version, address) =>
      !version.isEmpty && version.all Hex.isDigit && !address.isEmpty
    | none => false
  | _ => false

end ConnString.Address
