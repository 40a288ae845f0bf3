import ConnString.Location.Tzdata
import ConnString.Proofs.Regular

/-!
# The form of hosts

A host is well formed if it is an address literal in brackets, perhaps with a port, or a text
without brackets whose text after the last colon is a port (`Host.WellFormed`). The host of a
regular endpoint is well formed unless it closes a bracket that it does not open
(`Endpoint.Regular.host_wellFormed_iff`): the brackets are counted over the whole authority, while
the form of the host is looked at only where it starts with a bracket. So a text with the opening
bracket in its user part can be read with a host that is not well formed
(`Config.not_wellFormed_host`).
-/

namespace ConnString

open Text

namespace Host

/-- Whether a text is an address literal in brackets, and a port after a colon if there is more. -/
def IsBracketed (host : List Char) : Prop :=
  ∃ literal rest, host = '[' :: (literal ++ ']' :: rest) ∧ ']' ∉ literal ∧
    (Address.isIPv6 literal ∨ Address.isFuture literal) ∧
    (rest = [] ∨ ∃ port, rest = ':' :: port ∧ port.all Char.isDigit)

/-- Whether a text has no brackets, and nothing but a port after its last colon. -/
def IsBare (host : List Char) : Prop :=
  '[' ∉ host ∧ ']' ∉ host ∧
    ∀ front port, host = front ++ ':' :: port → ':' ∉ port → port.all Char.isDigit

/-- A host as it should be written; a port is a run of digits, which may be empty. -/
structure WellFormed (host : List Char) : Prop where
  form : IsBracketed host ∨ IsBare host
  visible : host.any isControl = false
  plain : ' ' ∉ host ∧ '/' ∉ host ∧ '?' ∉ host ∧ '#' ∉ host ∧ '@' ∉ host
  escapes : ∀ front back, host = front ++ '%' :: back →
    ∃ high low rest, back = high :: low :: rest ∧ Hex.isDigit high ∧ Hex.isDigit low

theorem all_isDigit_of_portFault? {port : List Char} (sound : portFault? port = none) :
    port.all Char.isDigit := by
  rw [portFault?] at sound
  split at sound
  · next digits => exact digits
  · cases sound

theorem any_isControl_of_fault? {host : List Char} (sound : fault? host = none) :
    host.any isControl = false := by
  refine List.any_eq_false.mpr fun char member => ?_
  rw [isControl_eq_false_of_isTextChar
    (isTextChar_of_isHostChar (isHostChar_of_fault?_eq_none sound member))]
  exact Bool.false_ne_true

/-- After the brackets at the start of a sound host comes a port or nothing. -/
theorem port_of_formFault? {literal rest : List Char} (closed : ']' ∉ literal)
    (sound : formFault? ('[' :: (literal ++ ']' :: rest)) = none) :
    rest = [] ∨ ∃ port, rest = ':' :: port ∧ port.all Char.isDigit := by
  have found : cut? ']' ('[' :: (literal ++ ']' :: rest)) = some ('[' :: literal, rest) := by
    refine cut?_eq_some_iff.mpr ⟨rfl, ?_⟩
    rw [List.mem_cons, not_or]
    exact ⟨by decide, closed⟩
  rw [formFault?, List.head?_cons, if_pos rfl, found] at sound
  simp only [Option.map_some, Option.getD_some] at sound
  split at sound
  · exact .inl rfl
  · next port => exact .inr ⟨port, rfl, all_isDigit_of_portFault? sound⟩
  · cases sound

/-- A sound host without brackets has nothing but a port after its last colon. -/
theorem isBare_of_fault? {host : List Char} (sound : fault? host = none)
    (noOpening : '[' ∉ host) (noClosing : ']' ∉ host) : IsBare host := by
  refine ⟨noOpening, noClosing, ?_⟩
  rintro front port rfl fresh
  have form := formFault?_of_fault?_eq_none sound
  have bare : (front ++ ':' :: port).head? ≠ some '[' := fun opened =>
    noOpening (List.mem_of_mem_head? opened)
  rw [formFault?, if_neg bare, cutLast?_eq_some_iff.mpr ⟨rfl, fresh⟩] at form
  exact all_isDigit_of_portFault? form

end Host

namespace Authority

/-- A sound literal is one of the two kinds of addresses. -/
theorem address_of_literalFault? {literal : List Char} (sound : literalFault? literal = none) :
    Address.isIPv6 literal ∨ Address.isFuture literal := by
  rw [literalFault?] at sound
  split at sound
  · split at sound
    · next future => exact .inr future
    · cases sound
  · split at sound
    · cases sound
    · split at sound
      · next address => exact .inl address
      · cases sound

/-- The brackets at the start of a sound host enclose an address. -/
theorem address_of_bracketedFault? {literal rest : List Char} (closed : ']' ∉ literal)
    (sound : bracketedFault? ('[' :: (literal ++ ']' :: rest)) = none) :
    Address.isIPv6 literal ∨ Address.isFuture literal := by
  have found : cut? '[' ('[' :: (literal ++ ']' :: rest)) = some ([], literal ++ ']' :: rest) :=
    cut?_eq_some_iff.mpr ⟨rfl, List.not_mem_nil⟩
  rw [bracketedFault?, found] at sound
  simp only [cut_append closed] at sound
  split at sound
  · exact address_of_literalFault? sound
  · cases sound

/-- A host that opens a bracket at its start is an address in brackets before a port. -/
theorem isBracketed_host {authority : List Char} (sound : bracketFault? authority = none)
    (accepted : Host.fault? (parts authority).2 = none)
    (opened : (parts authority).2.head? = some '[') : Host.IsBracketed (parts authority).2 := by
  have opening := List.mem_of_mem_head? opened
  have closing := closing_mem_host sound accepted opening
  have inside : bracketedFault? (parts authority).2 = none := by
    rcases brackets_of_bracketFault?_eq_none sound with ⟨_, _, inside⟩ | ⟨absent, _⟩
    · exact inside
    · exact absurd ((host_suffix authority).subset opening) absent
  have form := Host.formFault?_of_fault?_eq_none accepted
  generalize (parts authority).2 = host at *
  obtain ⟨tail, rfl⟩ := List.head?_eq_some_iff.mp opened
  have later : ']' ∈ tail := (List.mem_cons.mp closing).resolve_left (by decide)
  obtain ⟨⟨literal, rest⟩, found⟩ :=
    Option.ne_none_iff_exists'.mp fun absent => cut?_eq_none_iff.mp absent later
  obtain ⟨rfl, closed⟩ := cut?_eq_some_iff.mp found
  exact ⟨literal, rest, rfl, closed, address_of_bracketedFault? closed inside,
    Host.port_of_formFault? closed form⟩

end Authority

/-- The host of a regular endpoint is well formed unless it closes a bracket that it does not
open. -/
theorem Endpoint.Regular.host_wellFormed_iff {endpoint : Endpoint} (regular : endpoint.Regular) :
    Host.WellFormed endpoint.host.toList ↔
      (']' ∈ endpoint.host.toList → endpoint.host.toList.head? = some '[') := by
  obtain ⟨authority, sound, place⟩ := regular.placed
  obtain ⟨brackets, _⟩ := Authority.fault?_eq_none_iff.mp sound
  have host := regular.host
  have escapes := Percent.badEscape?_eq_none_iff.mp regular.escapes
  rw [← place] at host escapes ⊢
  constructor
  · rintro ⟨form, _, _, _⟩ closing
    rcases form with ⟨literal, rest, whole, _⟩ | ⟨_, absent, _⟩
    · rw [whole, List.head?_cons]
    · exact absurd closing absent
  · intro opens
    have refused : ∀ char, Host.isHostChar char = false → char ∉ (Authority.parts authority).2 :=
      fun char => Host.not_mem_of_fault?_eq_none host
    refine ⟨?_, Host.any_isControl_of_fault? host, ?_, escapes⟩
    · by_cases closing : ']' ∈ (Authority.parts authority).2
      · exact .inl (Authority.isBracketed_host brackets host (opens closing))
      · have noOpening : '[' ∉ (Authority.parts authority).2 := fun opening =>
          closing (Authority.closing_mem_host brackets host opening)
        exact .inr (Host.isBare_of_fault? host noOpening closing)
    · exact ⟨refused _ (by decide), refused _ (by decide), refused _ (by decide),
        refused _ (by decide), refused _ (by decide)⟩

namespace Config

open scoped Tzdata

/-- The host of a connection string that is read is well formed unless it closes a bracket that it
does not open. -/
theorem wellFormed_host_iff [ZoneDatabase] {dsn : String} {config : Config}
    (accepted : ofDsn dsn = .ok config) :
    Host.WellFormed config.host.toList ↔
      (']' ∈ config.host.toList → config.host.toList.head? = some '[') :=
  (regular_of_ofDsn accepted).endpoint.host_wellFormed_iff

/-- A host with a zone identifier in brackets, after a user with brackets of its own kind. -/
theorem wellFormed_host_iff_scoped :
    ∃ config, ofDsn "http://x[:]@[fe80::1%25en0]:9000/" = .ok config ∧
      config.host = "[fe80::1%25en0]:9000" ∧
      (Host.WellFormed config.host.toList ↔
        (']' ∈ config.host.toList → config.host.toList.head? = some '[')) := by
  have accepted : ofDsn "http://x[:]@[fe80::1%25en0]:9000/" =
      .ok { user := "x[", password := "]", host := "[fe80::1%25en0]:9000" } := by
    decide +kernel
  exact ⟨_, accepted, rfl, wellFormed_host_iff accepted⟩

/-- The user part of a connection string may open a bracket that the host closes. -/
theorem not_wellFormed_host :
    ∃ config, ofDsn "http://[@v1.a]:1/" = .ok config ∧
      ¬Host.WellFormed config.host.toList := by
  have accepted : ofDsn "http://[@v1.a]:1/" = .ok { user := "[", host := "v1.a]:1" } := by
    decide +kernel
  refine ⟨_, accepted, fun formed => ?_⟩
  rcases formed.form with ⟨literal, rest, whole, _⟩ | ⟨_, absent, _⟩
  · have opened := congrArg List.head? whole
    rw [List.head?_cons] at opened
    exact absurd opened (by decide)
  · exact absent (by decide)

end Config

end ConnString
