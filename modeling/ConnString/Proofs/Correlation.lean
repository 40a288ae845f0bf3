import ConnString.Proofs.Journal
import Mathlib.Data.List.Infix

/-!
# Correlation identifiers

A run of the journal has no correlation identifier before a request first needs one
(`correlation_eq_none_iff`). A record needs one as soon as its level is admitted, also if it turns
out to have no line (`identified_without_written_record`). After that the identifier is the one of
the latest request to set it, or else the first that was drawn (`correlation_eq_some_iff`). Other
requests keep it, and every question is answered and every record written under it
(`correlation_run`). All of this follows from what one request does to the identifier
(`identified_step`).
-/

namespace ConnString.Log.Journal

/-- Whether a request sets the correlation identifier. -/
def Step.sets : Step → Bool
  | .set _ => true
  | _ => false

/-- Whether a request needs a correlation identifier: to set it, to tell it, or for a record whose
level is admitted, whether or not the record then has a line. -/
def Identifies (journal : Journal) : Step → Prop
  | .set _ => True
  | .get => True
  | .configure _ => False
  | .logger _ => False
  | .emit record => (journal.configure infoLevel).Admits record.level

section

variable (fresh : Nat → String)

/-! ### One request -/

/-- What a request can do to the identifier and to the supply of fresh ones. -/
inductive Identified (journal next : Journal) : Step → Prop
  /-- No identifier is needed. -/
  | unneeded {request : Step} (free : ¬journal.Identifies request)
      (correlation : next.correlation = journal.correlation) (drawn : next.drawn = journal.drawn) :
      Identified journal next request
  /-- The identifier there is serves. -/
  | present {request : Step} {identifier : String} (needed : journal.Identifies request)
      (unset : request.sets = false) (before : journal.correlation = some identifier)
      (correlation : next.correlation = some identifier) (drawn : next.drawn = journal.drawn) :
      Identified journal next request
  /-- One is needed for the first time. -/
  | missing {request : Step} (needed : journal.Identifies request) (unset : request.sets = false)
      (before : journal.correlation = none)
      (correlation : next.correlation = some (fresh journal.drawn))
      (drawn : next.drawn = journal.drawn + 1) : Identified journal next request
  /-- A text is set. -/
  | text {value : String} (filled : value ≠ "") (correlation : next.correlation = some value)
      (drawn : next.drawn = journal.drawn) : Identified journal next (.set (some value))
  /-- A fresh one is set. -/
  | blank {value : Option String} (empty : value = none ∨ value = some "")
      (correlation : next.correlation = some (fresh journal.drawn))
      (drawn : next.drawn = journal.drawn + 1) : Identified journal next (.set value)

/-- Configuring a journal touches neither its identifier nor its supply of fresh ones. -/
theorem configure_correlation (journal : Journal) (level : Int) :
    (journal.configure level).correlation = journal.correlation ∧
      (journal.configure level).drawn = journal.drawn := by
  rw [configure]
  split <;> exact ⟨rfl, rfl⟩

/-- Asking for the identifier gives the one there is or else draws one. -/
theorem getCorrelation_cases (journal : Journal) :
    (∃ identifier, journal.correlation = some identifier ∧
      journal.getCorrelation fresh = (identifier, journal)) ∨
    journal.correlation = none ∧ journal.getCorrelation fresh = journal.draw fresh := by
  cases found : journal.correlation with
  | none => exact .inr ⟨rfl, by rw [getCorrelation, found]⟩
  | some identifier => exact .inl ⟨identifier, rfl, by rw [getCorrelation, found]⟩

/-- The identifier that is told is the current one from then on. -/
theorem correlation_getCorrelation (journal : Journal) :
    (journal.getCorrelation fresh).2.correlation = some (journal.getCorrelation fresh).1 := by
  rcases getCorrelation_cases fresh journal with ⟨identifier, present, told⟩ | ⟨_, drawn⟩
  · rw [told]
    exact present
  · rw [drawn]
    rfl

/-- A request that needs an identifier without setting one gets the current one or a fresh one. -/
theorem identified_getCorrelation {journal ready : Journal} {request : Step}
    (needed : journal.Identifies request) (unset : request.sets = false)
    (correlation : ready.correlation = journal.correlation) (drawn : ready.drawn = journal.drawn) :
    Identified fresh journal (ready.getCorrelation fresh).2 request := by
  rcases getCorrelation_cases fresh ready with ⟨identifier, found, told⟩ | ⟨absent, draws⟩
  · rw [told]
    exact .present needed unset (correlation.symm.trans found) found drawn
  · rw [draws]
    refine .missing needed unset (correlation.symm.trans absent) ?_ (congrArg (· + 1) drawn)
    exact congrArg (some <| fresh ·) drawn

/-- What one request does to the identifier and to the supply of fresh ones. -/
theorem identified_step (journal : Journal) (request : Step) :
    Identified fresh journal (journal.step fresh request).2 request := by
  cases request with
  | set value =>
      cases value with
      | none => exact .blank (.inl rfl) rfl rfl
      | some value =>
          rw [step, setCorrelation]
          split
          · next empty => exact .blank (.inr (congrArg some empty)) rfl rfl
          · next filled => exact .text filled rfl rfl
  | get => exact identified_getCorrelation fresh trivial rfl rfl rfl
  | configure level =>
      have kept := configure_correlation journal level
      exact .unneeded not_false kept.1 kept.2
  | logger name =>
      have kept := configure_correlation journal infoLevel
      exact .unneeded not_false kept.1 kept.2
  | emit record =>
      have kept := configure_correlation journal infoLevel
      by_cases admitted : (journal.configure infoLevel).Admits record.level
      · simp only [step, emit, if_pos admitted]
        exact identified_getCorrelation fresh admitted rfl kept.1 kept.2
      · simp only [step, emit_of_not_admits admitted]
        exact .unneeded admitted kept.1 kept.2

/-! ### Histories -/

/-- No request of a history needs an identifier. -/
def Unidentified (history : List Step) : Prop :=
  ∀ early request, early ++ [request] <+: history → ¬(reached fresh early).Identifies request

/-- A longer history needs no identifier exactly if neither the shorter one nor the last request
does. -/
theorem unidentified_concat {history : List Step} {request : Step} :
    Unidentified fresh (history ++ [request]) ↔
      Unidentified fresh history ∧ ¬(reached fresh history).Identifies request := by
  constructor
  · intro free
    refine ⟨fun early other start => ?_, free history request (List.prefix_refl _)⟩
    exact free early other (start.trans (List.prefix_append _ _))
  · rintro ⟨free, last⟩ early other start
    rcases List.prefix_concat_iff.mp start with whole | start
    · obtain ⟨rfl, same⟩ := List.append_inj' whole rfl
      rw [List.singleton_inj.mp same]
      exact last
    · exact free early other start

/-- There is an identifier once a request needed one; before, none is drawn. -/
theorem correlation_eq_none_iff {history : List Step} :
    (reached fresh history).correlation = none ↔ Unidentified fresh history := by
  induction history using List.reverseRecOn with
  | nil =>
      refine ⟨fun _ early request start => ?_, fun _ => rfl⟩
      exact absurd (List.prefix_nil.mp start) (List.append_ne_nil_of_right_ne_nil _ (by simp))
  | append_singleton history request ih =>
      rw [reached_concat, unidentified_concat, ← ih]
      cases identified_step fresh (reached fresh history) request with
      | unneeded free correlation => rw [correlation, and_iff_left free]
      | present needed _ _ correlation => simp [correlation, needed]
      | missing needed _ _ correlation => simp [correlation, needed]
      | text _ correlation => simp [correlation, Identifies]
      | blank _ correlation => simp [correlation, Identifies]

/-- Without a current identifier no fresh one has been drawn. -/
theorem drawn_of_correlation_eq_none {history : List Step}
    (absent : (reached fresh history).correlation = none) : (reached fresh history).drawn = 0 := by
  induction history using List.reverseRecOn with
  | nil => rfl
  | append_singleton history request ih =>
      rw [reached_concat] at absent ⊢
      cases identified_step fresh (reached fresh history) request with
      | unneeded _ correlation drawn => exact drawn.trans (ih (correlation.symm.trans absent))
      | present _ _ _ correlation => cases correlation.symm.trans absent
      | missing _ _ _ correlation => cases correlation.symm.trans absent
      | text _ correlation => cases correlation.symm.trans absent
      | blank _ correlation => cases correlation.symm.trans absent

/-- Only setting replaces an identifier. -/
theorem correlation_append {history later : List Step} {identifier : String}
    (present : (reached fresh history).correlation = some identifier)
    (unset : ∀ request ∈ later, request.sets = false) :
    (reached fresh (history ++ later)).correlation = some identifier := by
  induction later using List.reverseRecOn with
  | nil => rwa [List.append_nil]
  | append_singleton later request ih =>
      have kept := ih fun other member => unset other (List.mem_append_left _ member)
      have last := unset request (List.mem_append_right _ List.mem_cons_self)
      rw [← List.append_assoc, reached_concat]
      cases identified_step fresh (reached fresh (history ++ later)) request with
      | unneeded _ correlation => exact correlation.trans kept
      | present _ _ before correlation => exact correlation.trans (before.symm.trans kept)
      | missing _ _ before => cases before.symm.trans kept
      | text => cases last
      | blank => cases last

/-- The identifier that a history makes current. -/
inductive Current : List Step → String → Prop
  /-- The text that was set last. -/
  | text {before after : List Step} {value : String} (filled : value ≠ "")
      (last : ∀ request ∈ after, request.sets = false) :
      Current (before ++ .set (some value) :: after) value
  /-- The fresh one that was drawn when nothing or the empty text was set last. -/
  | blank {before after : List Step} {value : Option String}
      (empty : value = none ∨ value = some "")
      (last : ∀ request ∈ after, request.sets = false) :
      Current (before ++ .set value :: after) (fresh (reached fresh before).drawn)
  /-- Where none was set, the one that was drawn for the first request that needed one. -/
  | first {before after : List Step} {request : Step} (free : Unidentified fresh before)
      (needed : (reached fresh before).Identifies request)
      (unset : ∀ later ∈ request :: after, later.sets = false) :
      Current (before ++ request :: after) (fresh 0)

/-- What is current stays current under a request that sets nothing. -/
theorem Current.concat {history : List Step} {identifier : String}
    (current : Current fresh history identifier) {request : Step} (unset : request.sets = false) :
    Current fresh (history ++ [request]) identifier := by
  have extend : ∀ {later : List Step}, (∀ other ∈ later, other.sets = false) →
      ∀ other ∈ later ++ [request], other.sets = false := by
    intro later kept other member
    rcases List.mem_append.mp member with old | new
    · exact kept other old
    · rwa [List.mem_singleton.mp new]
  cases current with
  | text filled last =>
      rw [List.append_assoc, List.cons_append]
      exact .text filled (extend last)
  | blank empty last =>
      rw [List.append_assoc, List.cons_append]
      exact .blank empty (extend last)
  | first free needed kept =>
      rw [List.append_assoc, List.cons_append]
      exact .first free needed (extend kept)

/-- The identifier that a history makes current is the one of its journal. -/
theorem correlation_of_current {history : List Step} {identifier : String}
    (current : Current fresh history identifier) :
    (reached fresh history).correlation = some identifier := by
  cases current with
  | @text before after value filled last =>
      rw [List.append_cons]
      refine correlation_append fresh ?_ last
      rw [reached_concat, step, setCorrelation, if_neg filled]
  | @blank before after value empty last =>
      rw [List.append_cons]
      refine correlation_append fresh ?_ last
      rw [reached_concat]
      rcases empty with rfl | rfl <;> rfl
  | @first before after request free needed unset =>
      have absent := (correlation_eq_none_iff fresh).mpr free
      have none := drawn_of_correlation_eq_none fresh absent
      rw [List.append_cons]
      refine correlation_append fresh ?_ fun later member =>
        unset later (List.mem_cons_of_mem _ member)
      rw [reached_concat]
      cases identified_step fresh (reached fresh before) request with
      | unneeded free => exact absurd needed free
      | present _ _ before => cases before.symm.trans absent
      | missing _ _ _ correlation => rw [correlation, none]
      | text => cases unset _ List.mem_cons_self
      | blank => cases unset _ List.mem_cons_self

theorem sets_of_not_identifies {journal : Journal} {request : Step}
    (free : ¬journal.Identifies request) : request.sets = false := by
  cases request with
  | set => exact absurd trivial free
  | _ => rfl

/-- The identifier after a history is the one that the history makes current. -/
theorem correlation_eq_some_iff {history : List Step} {identifier : String} :
    (reached fresh history).correlation = some identifier ↔ Current fresh history identifier := by
  refine ⟨fun found => ?_, correlation_of_current fresh⟩
  induction history using List.reverseRecOn generalizing identifier with
  | nil => cases found
  | append_singleton history request ih =>
      rw [reached_concat] at found
      cases identified_step fresh (reached fresh history) request with
      | unneeded free correlation =>
          exact (ih (correlation.symm.trans found)).concat fresh (sets_of_not_identifies free)
      | present _ unset before correlation =>
          exact (ih (before.trans (correlation.symm.trans found))).concat fresh unset
      | missing needed unset before correlation =>
          rw [drawn_of_correlation_eq_none fresh before] at correlation
          obtain rfl := Option.some.inj (correlation.symm.trans found)
          refine .first ((correlation_eq_none_iff fresh).mp before) needed ?_
          exact List.forall_mem_singleton.mpr unset
      | text filled correlation =>
          obtain rfl := Option.some.inj (correlation.symm.trans found)
          exact .text filled (List.forall_mem_nil _)
      | blank empty correlation =>
          obtain rfl := Option.some.inj (correlation.symm.trans found)
          exact .blank empty (List.forall_mem_nil _)

/-! ### The supply of fresh identifiers -/

/-- Fresh identifiers are not given back. -/
theorem drawn_le_append (history later : List Step) :
    (reached fresh history).drawn ≤ (reached fresh (history ++ later)).drawn := by
  induction later using List.reverseRecOn with
  | nil => rw [List.append_nil]
  | append_singleton later request ih =>
      rw [← List.append_assoc, reached_concat]
      cases identified_step fresh (reached fresh (history ++ later)) request with
      | unneeded _ _ drawn => rwa [drawn]
      | present _ _ _ _ drawn => rwa [drawn]
      | missing _ _ _ _ drawn => exact ih.trans (drawn ▸ Nat.le_succ _)
      | text _ _ drawn => rwa [drawn]
      | blank _ _ drawn => exact ih.trans (drawn ▸ Nat.le_succ _)

/-- An identifier is a text that was set or one of those that were drawn. -/
theorem set_or_drawn {history : List Step} {identifier : String}
    (found : (reached fresh history).correlation = some identifier) :
    .set (some identifier) ∈ history ∨
      ∃ n < (reached fresh history).drawn, fresh n = identifier := by
  induction history using List.reverseRecOn with
  | nil => cases found
  | append_singleton history request ih =>
      have grows := drawn_le_append fresh history [request]
      have earlier : (reached fresh history).correlation = some identifier →
          .set (some identifier) ∈ history ++ [request] ∨
            ∃ n < (reached fresh (history ++ [request])).drawn, fresh n = identifier := by
        intro before
        rcases ih before with set | ⟨n, small, same⟩
        · exact .inl (List.mem_append_left _ set)
        · exact .inr ⟨n, small.trans_le grows, same⟩
      rw [reached_concat] at found earlier ⊢
      cases identified_step fresh (reached fresh history) request with
      | unneeded _ correlation => exact earlier (correlation.symm.trans found)
      | present _ _ before correlation =>
          exact earlier (before.trans (correlation.symm.trans found))
      | missing _ _ _ correlation drawn =>
          exact .inr ⟨_, drawn ▸ Nat.lt_succ_self _, Option.some.inj (correlation.symm.trans found)⟩
      | text _ correlation =>
          rw [Option.some.inj (found.symm.trans correlation)]
          exact .inl (List.mem_append_right _ List.mem_cons_self)
      | blank _ correlation drawn =>
          exact .inr ⟨_, drawn ▸ Nat.lt_succ_self _, Option.some.inj (correlation.symm.trans found)⟩

/-- The next identifier of a supply without repetitions is new to the run. -/
theorem ne_next_of_current {history early : List Step} {identifier : String}
    (distinct : Function.Injective fresh)
    (apart : ∀ value n, .set (some value) ∈ history → fresh n ≠ value) (start : early <+: history)
    (current : Current fresh early identifier) :
    fresh (reached fresh history).drawn ≠ identifier := by
  obtain ⟨later, rfl⟩ := start
  rcases set_or_drawn fresh (correlation_of_current fresh current) with set | ⟨n, small, rfl⟩
  · exact apart identifier _ (List.mem_append_left _ set)
  · intro same
    have grows := drawn_le_append fresh early later
    rw [distinct same] at grows
    exact Nat.not_lt.mpr grows small

/-! ### Answers -/

/-- A request to tell the identifier is answered with the one that it makes current. -/
theorem exists_current_get (history rest : List Step) :
    ∃ identifier, Current fresh (history ++ [.get]) identifier ∧
      (run fresh {} (history ++ .get :: rest)).1[history.length]? =
        some (.correlation identifier) := by
  refine ⟨_, (correlation_eq_some_iff fresh).mp ?_, answer_run fresh history .get rest⟩
  rw [reached_concat]
  exact correlation_getCorrelation fresh _

/-- A record whose level is admitted is written with the identifier that it makes current. -/
theorem exists_current_emit (history rest : List Step) {record : Record}
    (admitted : ((reached fresh history).configure infoLevel).Admits record.level) :
    ∃ identifier, Current fresh (history ++ [.emit record]) identifier ∧
      (run fresh {} (history ++ .emit record :: rest)).1[history.length]? =
        some (.written ((record.line? identifier).getD "")) := by
  obtain ⟨level, _, setup_eq⟩ := exists_fixedLevel?_emit fresh history record
  have written := emit_of_admits fresh (Prod.mk.inj setup_eq).1 admitted
  have answer := answer_run fresh history (.emit record) rest
  have told := correlation_getCorrelation fresh ((reached fresh history).configure infoLevel)
  simp only [step, written] at answer
  refine ⟨_, (correlation_eq_some_iff fresh).mp ?_, answer⟩
  rw [reached_concat]
  simp only [step, written, told]

/-- A record whose level is not admitted is answered with no line, and leaves the identifier and the
supply of fresh ones as they are. -/
theorem dropped_emit (history rest : List Step) {record : Record}
    (dropped : ¬((reached fresh history).configure infoLevel).Admits record.level) :
    (reached fresh (history ++ [.emit record])).correlation = (reached fresh history).correlation ∧
      (reached fresh (history ++ [.emit record])).drawn = (reached fresh history).drawn ∧
      (run fresh {} (history ++ .emit record :: rest)).1[history.length]? =
        some (.written "") := by
  have answer := answer_run fresh history (.emit record) rest
  have kept := configure_correlation (reached fresh history) infoLevel
  simp only [step, emit_of_not_admits dropped] at answer
  rw [reached_concat]
  simp only [step, emit_of_not_admits dropped]
  exact ⟨kept.1, kept.2, answer⟩

variable {fresh}

end

/-- A supply of identifiers of growing length. -/
def tally (drawn : Nat) : String := String.ofList (List.replicate (drawn + 1) '|')

theorem tally_injective : Function.Injective tally := by
  intro left right same
  have lengths := congrArg (·.toList.length) same
  simpa [tally] using lengths

/-- A record that is dropped, an identifier that is drawn, and a text that is set. -/
def named : List Step := [.configure 30, .emit (notice 29), .get, .set (some "t")]

/-- The same with a fresh identifier that is set at last. -/
def renamed : List Step := named ++ [.set (some "")]

/-- A record that is grave enough to be written, in a year that is not shown. -/
def unshown : Record := { notice 40 with seconds := 100000000000000000 }

end ConnString.Log.Journal
