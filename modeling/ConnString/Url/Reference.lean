import ConnString.Text.Cut

/-!
# URL references

A reference is split into its scheme, authority, path and query; the fragment is dropped. Characters
up to the space are dropped at the start. What stands before the first `:` is a scheme, in small
letters, if it has the form of one. The authority follows `//` and ends before the first `/`, `?` or
`#`; a query follows the first `?` before the fragment. Splitting cannot fail.
-/

namespace ConnString

open Text

/-- The parts of a URL reference, as they are written. -/
structure Reference where
  /-- The scheme in small letters, empty without one. -/
  scheme : List Char
  /-- The text between `//` and the path. -/
  authority : List Char
  /-- The path. -/
  path : List Char
  /-- The text between `?` and the fragment. -/
  query : List Char
deriving DecidableEq, Repr

namespace Reference

/-- Whether a character may stand in a scheme. -/
def isSchemeChar (char : Char) : Bool := char.isAlphanum || ['+', '.', '-'].contains char

/-- Whether a text has the form of a scheme: a letter, then letters, digits, `+`, `.` and `-`. -/
def isScheme : List Char → Bool
  | [] => false
  | first :: rest => first.isAlpha && rest.all isSchemeChar

/-- The scheme, empty without one, and the text after it. -/
def splitScheme (text : List Char) : List Char × List Char :=
  match cut? ':' text with
  | some (before, after) => if isScheme before then (before.map Char.toLower, after) else ([], text)
  | none => ([], text)

/-- Whether a character ends an authority. -/
def endsAuthority (char : Char) : Bool := ['/', '?', '#'].contains char

/-- The authority, empty unless it follows `//`, and the text after it. -/
def splitAuthority : List Char → List Char × List Char
  | '/' :: '/' :: rest =>
    (rest.takeWhile fun char => !endsAuthority char, rest.dropWhile fun char => !endsAuthority char)
  | text => ([], text)

/-- The parts of a text. -/
def split (text : List Char) : Reference :=
  let scheme := splitScheme (text.dropWhile fun char => decide (char ≤ ' '))
  let authority := splitAuthority scheme.2
  let front := cut '?' (cut '#' authority.2).1
  ⟨scheme.1, authority.1, front.1, front.2⟩

end Reference

end ConnString
