import ConnString.Location.Tzdata
import ConnString.Proofs.Regular

/-!
# Spaces before a connection string

Splitting drops the spaces before a text (`Reference.split_indent`), and so they change neither what
is wrong with its parts nor its configuration. The one check that looks at the start of the text as
it is written is the search for the colon after a missing scheme. A text that starts with this colon
is refused for it, and a space before the text hides the colon
(`Reference.read_eq_missingScheme_iff`). Such a text fares otherwise once it is indented, unless it
has a control character, and every other text fares the same (`Config.alike_indented_iff`).
-/

namespace ConnString

/-- Some spaces. -/
def indent (count : Nat) : String := String.ofList (List.replicate count ' ')

/-- Two outcomes are the same but for the text that is recorded with a malformation. -/
inductive Alike : Except DsnError Config → Except DsnError Config → Prop
  /-- Nothing differs. -/
  | same (outcome : Except DsnError Config) : Alike outcome outcome
  /-- Two texts are malformed in the same words. -/
  | malformed {left right : Option String} {one other : Malformation}
      (message : one.message = other.message) (cause : one.cause? = other.cause?) :
      Alike (.error (.malformed left one)) (.error (.malformed right other))

/-- What follows a text does not change its first character. -/
theorem head?_toList_append {front : String} (first : Char)
    (starts : front.toList.head? = some first) (back : String) :
    (front ++ back).toList.head? = some first := by
  rw [String.toList_append, List.head?_append, starts, Option.some_or]

namespace Malformation

/-- The character that the words for a malformation start with. -/
def initial : Malformation → Char
  | notText _ | controlCharacter => 'D'
  | missingScheme => 'm'
  | authority _ => 'I'
  | escape _ | hostCharacter _ | host _ | port _ => 'i'

/-- The words for a malformation start with their initial. -/
theorem head?_message (malformation : Malformation) :
    malformation.message.toList.head? = some malformation.initial := by
  cases malformation with
  | controlCharacter | missingScheme => decide
  | notText => exact head?_toList_append 'D' (by decide) _
  | authority => exact head?_toList_append 'I' (by decide) _
  | escape | host => exact head?_toList_append 'i' (by decide) _
  | hostCharacter | port =>
      exact head?_toList_append 'i' (head?_toList_append 'i' (by decide) _) _

/-- The words for a missing scheme stand for nothing else. -/
theorem message_eq_missingScheme_iff {malformation : Malformation} :
    malformation.message = missingScheme.message ↔ malformation = .missingScheme := by
  constructor
  · intro same
    have first : malformation.initial = missingScheme.initial := by
      rw [← Option.some.injEq, ← head?_message, same, head?_message]
    cases malformation with
    | missingScheme => rfl
    | _ => exact absurd first (by simp only [initial]; decide)
  · rintro rfl
    rfl

end Malformation

/-- Only a missing scheme is alike to a missing scheme. -/
theorem Alike.eq_of_missingScheme {outcome : Except DsnError Config} {right : Option String}
    (alike : Alike outcome (.error (.malformed right .missingScheme))) :
    ∃ left, outcome = .error (.malformed left .missingScheme) := by
  cases alike with
  | same => exact ⟨right, rfl⟩
  | @malformed left _ one _ message cause =>
      exact ⟨left, by rw [Malformation.message_eq_missingScheme_iff.mp message]⟩

namespace Reference

/-! ### Texts without a scheme -/

/-- The parts of a text never tell that its scheme is missing. -/
theorem fault?_ne_missingScheme (reference : Reference) :
    fault? reference ≠ some .missingScheme := by
  have form : ∀ host, Host.formFault? host ≠ some .missingScheme := by
    intro host
    simp only [Host.formFault?, Host.portFault?]
    grind
  have host : ∀ host, Host.fault? host ≠ some .missingScheme := by
    intro host
    rw [Host.fault?]
    split
    · simp
    · exact form host
  simp [fault?, escapeFault?, Option.or_eq_some_iff, host]

/-- A scheme is reported missing exactly for a colon at the front of a text without control
characters. -/
theorem textFault?_eq_missingScheme_iff {text : List Char} :
    textFault? text = some .missingScheme ↔
      text.head? = some ':' ∧ text.any isControl = false := by
  rw [textFault?]
  split
  · next control => simp [control]
  · next plain => simp [plain]

/-- A text is refused for its missing scheme exactly if it starts with a colon and has no control
character. -/
theorem read_eq_missingScheme_iff {text : List Char} :
    read text = .error .missingScheme ↔ text.head? = some ':' ∧ text.any isControl = false := by
  have late := fault?_ne_missingScheme (split text)
  rw [← textFault?_eq_missingScheme_iff, read]
  cases found : textFault? text with
  | some malformation => simp
  | none =>
      cases wrong : fault? (split text) with
      | none => simp
      | some malformation => simpa [wrong] using late

/-! ### Indented texts -/

variable (count : Nat) (text : List Char)

/-- Spaces at the front do not change how a text is split. -/
theorem split_indent : split (List.replicate count ' ' ++ text) = split text := by
  have dropped : ∀ char ∈ List.replicate count ' ', decide (char ≤ ' ') = true := by
    intro char member
    rw [List.eq_of_mem_replicate member]
    decide
  rw [split, split, List.dropWhile_append_of_pos dropped]

theorem any_isControl_indent :
    (List.replicate count ' ' ++ text).any isControl = text.any isControl := by
  have plain : (List.replicate count ' ').any isControl = false := by
    refine List.any_eq_false.mpr fun char member => ?_
    rw [List.eq_of_mem_replicate member]
    decide
  rw [List.any_append, plain, Bool.false_or]

/-- A colon is at the front of an indented text only if nothing is before it. -/
theorem head?_indent_eq_colon_iff :
    (List.replicate count ' ' ++ text).head? = some ':' ↔ count = 0 ∧ text.head? = some ':' := by
  cases count <;> simp [List.replicate_succ]

variable {count text}

/-- Spaces make no difference to a text unless they hide the colon of a missing scheme. -/
theorem read_indent (seen : text.head? = some ':' → count = 0 ∨ text.any isControl) :
    read (List.replicate count ' ' ++ text) = read text := by
  have early : textFault? (List.replicate count ' ' ++ text) = textFault? text := by
    simp only [textFault?, any_isControl_indent, head?_indent_eq_colon_iff]
    by_cases control : text.any isControl
    · rw [if_pos control, if_pos control]
    · rw [if_neg control, if_neg control]
      by_cases colon : text.head? = some ':'
      · rw [if_pos ⟨(seen colon).resolve_right control, colon⟩, if_pos colon]
      · rw [if_neg fun both => colon both.2, if_neg colon]
  rw [read, read, early, split_indent]

end Reference

namespace Config

section

variable [ZoneDatabase]

/-- A text is malformed exactly if it cannot be read, and the error tells that text. -/
theorem ofDsn_eq_malformed_iff {dsn : String} {text : Option String} {cause : Malformation} :
    ofDsn dsn = .error (.malformed text cause) ↔
      some dsn = text ∧ Reference.read dsn.toList = .error cause := by
  rw [ofDsn]
  cases Reference.read dsn.toList with
  | error found => simp
  | ok reference => cases applied : ofReference reference <;> simp [applied, Except.mapError]

/-- Texts that are read alike are parsed alike. -/
theorem alike_of_read {left right : String}
    (same : Reference.read left.toList = Reference.read right.toList) :
    Alike (ofDsn left) (ofDsn right) := by
  rw [ofDsn, ofDsn, same]
  cases Reference.read right.toList with
  | error cause => exact .malformed rfl rfl
  | ok reference => exact .same _

/-- Parsing reports a missing scheme exactly where reading does, with the text that it was given. -/
theorem ofDsn_eq_missingScheme_iff {dsn : String} {text : Option String} :
    ofDsn dsn = .error (.malformed text .missingScheme) ↔
      some dsn = text ∧ dsn.toList.head? = some ':' ∧ dsn.toList.any isControl = false := by
  rw [ofDsn_eq_malformed_iff, Reference.read_eq_missingScheme_iff]

/-- Of an indented text the scheme is never reported missing unless the indent is empty. -/
theorem ofDsn_indented_eq_missingScheme_iff {count : Nat} {dsn : String} {text : Option String} :
    ofDsn (indent count ++ dsn) = .error (.malformed text .missingScheme) ↔
      some (indent count ++ dsn) = text ∧
        count = 0 ∧ dsn.toList.head? = some ':' ∧ dsn.toList.any isControl = false := by
  rw [ofDsn_eq_missingScheme_iff, String.toList_append, indent, String.toList_ofList,
    Reference.any_isControl_indent, Reference.head?_indent_eq_colon_iff, and_assoc]

/-- Indenting a text changes its outcome exactly if it hides the colon of a missing scheme, and an
indented text is never refused for its missing scheme. -/
theorem alike_indented_iff (count : Nat) (dsn : String) :
    (Alike (ofDsn (indent count ++ dsn)) (ofDsn dsn) ↔
      (dsn.toList.head? = some ':' → count = 0 ∨ dsn.toList.any isControl)) ∧
    (ofDsn (indent count ++ dsn) =
        .error (.malformed (some (indent count ++ dsn)) .missingScheme) ↔
      count = 0 ∧ dsn.toList.head? = some ':' ∧ dsn.toList.any isControl = false) := by
  refine ⟨⟨fun alike colon => ?_, fun seen => alike_of_read ?_⟩, ?_⟩
  · by_cases control : dsn.toList.any isControl
    · exact .inr control
    · have refused : ofDsn dsn = .error (.malformed (some dsn) .missingScheme) :=
        ofDsn_eq_missingScheme_iff.mpr ⟨rfl, colon, Bool.eq_false_iff.mpr control⟩
      rw [refused] at alike
      obtain ⟨_, indented⟩ := alike.eq_of_missingScheme
      exact .inl (ofDsn_indented_eq_missingScheme_iff.mp indented).2.1
  · rw [String.toList_append, indent, String.toList_ofList, Reference.read_indent seen]
  · rw [ofDsn_indented_eq_missingScheme_iff, eq_self, true_and]

end

open scoped Tzdata

/-- A space before a text without a scheme lets the text be read, as one without anything. -/
theorem not_alike_indented :
    ∃ config, ofDsn (indent 1 ++ "://localhost:8123/") = .ok config ∧ config.host = "" ∧
      ¬Alike (ofDsn (indent 1 ++ "://localhost:8123/")) (ofDsn "://localhost:8123/") := by
  have accepted : ofDsn (indent 1 ++ "://localhost:8123/") = .ok { scheme := "", host := "" } := by
    decide +kernel
  have refused : ofDsn "://localhost:8123/" =
      .error (.malformed (some "://localhost:8123/") .missingScheme) := by
    decide +kernel
  refine ⟨_, accepted, rfl, ?_⟩
  rw [accepted, refused]
  rintro ⟨⟩

end Config

end ConnString
