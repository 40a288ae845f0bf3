import ConnString.Proofs.Percent
import ConnString.Url.Endpoint
import Mathlib.Tactic.ByContra

/-!
# Authorities and their hosts

The host of an authority is what follows its last `@`, so no `@` is left in it
(`at_not_mem_host`), and a user part without brackets adds no fault to the host before which it
stands (`fault?_append_eq_none_iff`). A host taken out of a sound authority can stand alone unless
it closes a bracket that it does not open (`fault?_host_eq_none_iff`): brackets are counted over
the whole authority, where the user part may hold the other one.
-/

namespace ConnString

open Text

namespace Host

/-- A sound host holds characters of hosts only. -/
theorem isHostChar_of_fault?_eq_none {host : List Char} (sound : fault? host = none) {char : Char}
    (member : char ∈ host) : isHostChar char := by
  rw [fault?] at sound
  split at sound
  · cases sound
  · next found =>
    simpa using List.find?_eq_none.mp found char member

theorem not_mem_of_fault?_eq_none {host : List Char} (sound : fault? host = none) {char : Char}
    (refused : isHostChar char = false) : char ∉ host := by
  intro member
  rw [isHostChar_of_fault?_eq_none sound member] at refused
  cases refused

theorem formFault?_of_fault?_eq_none {host : List Char} (sound : fault? host = none) :
    formFault? host = none := by
  rw [fault?] at sound
  split at sound
  · cases sound
  · exact sound

/-- A sound host that opens a bracket at its start closes it. -/
theorem closing_mem_of_head? {host : List Char} (sound : fault? host = none)
    (opened : host.head? = some '[') : ']' ∈ host := by
  by_contra absent
  have form := formFault?_of_fault?_eq_none sound
  rw [formFault?, if_pos opened, cut?_eq_none_iff.mpr absent] at form
  cases host with
  | nil => cases opened
  | cons first others =>
      cases opened
      cases form

end Host

namespace Authority

/-- An authority is taken apart at its last `@`. -/
theorem parts_append {host : List Char} (fresh : '@' ∉ host) (userinfo : List Char) :
    parts (userinfo ++ '@' :: host) = (some userinfo, host) := by
  rw [parts, cutLast?_eq_some_iff.mpr ⟨rfl, fresh⟩]

/-- An authority without `@` is a host alone. -/
theorem parts_of_not_mem {authority : List Char} (fresh : '@' ∉ authority) :
    parts authority = (none, authority) := by
  rw [parts, cutLast?_eq_none_iff.mpr fresh]

theorem at_not_mem_host (authority : List Char) : '@' ∉ (parts authority).2 := by
  rw [parts]
  split
  · next found => exact (cutLast?_eq_some_iff.mp found).2
  · next found => exact cutLast?_eq_none_iff.mp found

/-- The host is the end of its authority. -/
theorem host_suffix (authority : List Char) : (parts authority).2 <:+ authority := by
  rw [parts]
  split
  · next userinfo host found =>
    refine ⟨userinfo ++ ['@'], ?_⟩
    rw [(cutLast?_eq_some_iff.mp found).1, List.append_assoc, List.singleton_append]
  · exact List.suffix_refl _

/-- The host of an authority is, as an authority, a host alone. -/
theorem parts_host (authority : List Char) :
    parts (parts authority).2 = (none, (parts authority).2) :=
  parts_of_not_mem (at_not_mem_host authority)

/-! ### Faults -/

/-- An authority is sound exactly if its brackets are and no character of it hides a delimiter. -/
theorem fault?_eq_none_iff {authority : List Char} :
    fault? authority = none ↔
      bracketFault? authority = none ∧ ∀ char ∈ authority, hidesDelimiter char = false := by
  rw [fault?, Option.or_eq_none_iff]
  have shown : authority.any hidesDelimiter = false ↔
      ∀ char ∈ authority, hidesDelimiter char = false := by simp
  rw [← shown]
  cases authority.any hidesDelimiter <;> simp

/-- The brackets of an authority are those of its host if the user part has none. -/
theorem bracketFault?_append {userinfo host : List Char} (noOpening : '[' ∉ userinfo)
    (noClosing : ']' ∉ userinfo) (fresh : '@' ∉ host) :
    bracketFault? (userinfo ++ '@' :: host) = bracketFault? host := by
  have opening : (userinfo ++ '@' :: host).contains '[' = host.contains '[' := by
    simp [List.contains_eq_mem, noOpening]
  have closing : (userinfo ++ '@' :: host).contains ']' = host.contains ']' := by
    simp [List.contains_eq_mem, noClosing]
  rw [bracketFault?, bracketFault?, opening, closing, parts_append fresh, parts_of_not_mem fresh]

/-- A user part without brackets or hidden delimiters does not decide whether an authority is sound.
-/
theorem fault?_append_eq_none_iff {userinfo host : List Char} (noOpening : '[' ∉ userinfo)
    (noClosing : ']' ∉ userinfo) (plain : ∀ char ∈ userinfo, hidesDelimiter char = false)
    (fresh : '@' ∉ host) :
    fault? (userinfo ++ '@' :: host) = none ↔ fault? host = none := by
  have separator : hidesDelimiter '@' = false := by decide
  rw [fault?_eq_none_iff, fault?_eq_none_iff, bracketFault?_append noOpening noClosing fresh]
  refine and_congr_right fun _ => ?_
  constructor
  · intro open_ char member
    exact open_ char (List.mem_append_right _ (List.mem_cons_of_mem _ member))
  · intro open_ char member
    rcases List.mem_append.mp member with user | rest
    · exact plain char user
    · rcases List.mem_cons.mp rest with rfl | inside
      · exact separator
      · exact open_ char inside

/-- Only an opening bracket at the start of a host is sound. -/
theorem head?_of_bracketedFault?_eq_none {host : List Char} (sound : bracketedFault? host = none)
    (opening : '[' ∈ host) : host.head? = some '[' := by
  rw [bracketedFault?] at sound
  split at sound
  · next before bracketed found =>
    have whole := (cut?_eq_some_iff.mp found).1
    cases before with
    | nil => rw [whole, List.nil_append, List.head?_cons]
    | cons first others => cases sound
  · next found => exact absurd opening (cut?_eq_none_iff.mp found)

/-- A sound authority has brackets of both kinds, with a sound host, or none. -/
theorem brackets_of_bracketFault?_eq_none {authority : List Char}
    (sound : bracketFault? authority = none) :
    ('[' ∈ authority ∧ ']' ∈ authority ∧ bracketedFault? (parts authority).2 = none) ∨
      '[' ∉ authority ∧ ']' ∉ authority := by
  rw [bracketFault?] at sound
  split at sound
  · next opening closing =>
    exact .inl ⟨List.contains_iff_mem.mp opening, List.contains_iff_mem.mp closing, sound⟩
  · next opening closing =>
    simp only [List.contains_eq_mem, decide_eq_false_iff_not] at opening closing
    exact .inr ⟨opening, closing⟩
  · cases sound

theorem bracketFault?_of_not_mem {authority : List Char} (noOpening : '[' ∉ authority)
    (noClosing : ']' ∉ authority) : bracketFault? authority = none := by
  simp [bracketFault?, noOpening, noClosing]

/-- A host with an opening bracket opens it at its start, so it has to close it. -/
theorem closing_mem_host {authority : List Char} (sound : bracketFault? authority = none)
    (accepted : Host.fault? (parts authority).2 = none) (opening : '[' ∈ (parts authority).2) :
    ']' ∈ (parts authority).2 := by
  rcases brackets_of_bracketFault?_eq_none sound with ⟨_, _, inside⟩ | ⟨absent, _⟩
  · exact Host.closing_mem_of_head? accepted (head?_of_bracketedFault?_eq_none inside opening)
  · exact absurd ((host_suffix authority).subset opening) absent

/-- The host of a sound authority is sound by itself unless it closes a bracket that it does not
open. -/
theorem fault?_host_eq_none_iff {authority : List Char} (sound : fault? authority = none)
    (accepted : Host.fault? (parts authority).2 = none) :
    fault? (parts authority).2 = none ↔
      (']' ∈ (parts authority).2 → (parts authority).2.head? = some '[') := by
  obtain ⟨brackets, shown⟩ := fault?_eq_none_iff.mp sound
  have suffix := host_suffix authority
  have alone := parts_host authority
  have bracketed := brackets_of_bracketFault?_eq_none brackets
  have closes := closing_mem_host brackets accepted
  generalize (parts authority).2 = host at suffix alone bracketed closes
  have shownHost : ∀ char ∈ host, hidesDelimiter char = false :=
    fun char member => shown char (suffix.subset member)
  rw [fault?_eq_none_iff, and_iff_left shownHost]
  constructor
  · intro soundHost closing
    rcases brackets_of_bracketFault?_eq_none soundHost with ⟨opening, _, inside⟩ | ⟨_, absent⟩
    · rw [alone] at inside
      exact head?_of_bracketedFault?_eq_none inside opening
    · exact absurd closing absent
  · intro opened
    by_cases closing : ']' ∈ host
    · have opening : '[' ∈ host := List.mem_of_mem_head? (opened closing)
      rcases bracketed with ⟨_, _, inside⟩ | ⟨absent, _⟩
      · rw [bracketFault?, List.contains_iff_mem.mpr opening, List.contains_iff_mem.mpr closing,
          alone]
        exact inside
      · exact absurd (suffix.subset opening) absent
    · exact bracketFault?_of_not_mem (fun opening => closing (closes opening)) closing

end Authority

end ConnString
