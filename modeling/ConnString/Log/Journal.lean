import ConnString.Log.Event
import ConnString.Log.Timestamp
import ConnString.Text.Cut

/-!
# The journal

The journal writes records, each under the correlation identifier of the moment. It is configured
once: the first configuration installs the only handler and fixes the level, and later ones change
nothing (`configure_of_handlers`). A record whose level is not admitted is dropped and leaves the
identifier as it was (`emit_of_not_admits`). A record that is admitted is written by filling in a
template with its attributes (`Record.line?_eq`). The identifier is drawn from a supply of fresh
texts when it is first needed, and is replaced only by setting another.
-/

namespace ConnString.Log

/-- Something to write. -/
structure Record where
  /-- The name below the package's. -/
  name : String
  /-- The level. -/
  level : Int
  /-- The words. -/
  message : String
  /-- The time in seconds after the start of 1970. -/
  seconds : Int
  /-- The milliseconds of the time. -/
  millis : Int
deriving DecidableEq, Repr

/-- The shape of a written line: the attributes of a record stand in for their names. -/
def lineTemplate : String :=
  "%(asctime)s | %(levelname)s | %(correlation_id)s | %(name)s | %(message)s"

/-- What the text after a percent sign of a template stands for: the attribute named in brackets,
without the letter after them. Any other text, and a name that is no attribute's, is a fault. -/
def fillPiece (attribute? : String → Option String) : List Char → Option (List Char)
  | '(' :: rest =>
    let named := Text.cut ')' rest
    (attribute? (String.ofList named.1)).map fun value => value.toList ++ named.2.drop 1
  | _ => none

/-- A template filled in with attributes, unless there is a fault in it. -/
def fill? (attribute? : String → Option String) (template : String) : Option String :=
  match template.toList.splitOn '%' with
  | [] => some ""
  | plain :: pieces =>
    (pieces.mapM (fillPiece attribute?)).map fun filled =>
      String.ofList (plain ++ filled.flatten)

/-- An attribute of a record under a correlation identifier; the time is one if it can be shown. -/
def Record.attribute? (record : Record) (correlation : String) : String → Option String
  | "asctime" =>
    (timestamp? record.seconds).map fun moment => moment ++ "," ++ signedField 3 record.millis
  | "levelname" => some (levelName record.level)
  | "correlation_id" => some correlation
  | "name" => some (loggerName record.name)
  | "message" => some record.message
  | _ => none

/-- The line for a record under a correlation identifier; there is none without a timestamp. -/
def Record.line? (record : Record) (correlation : String) : Option String :=
  (fill? (record.attribute? correlation) lineTemplate).map (· ++ "\n")

/-- The pieces of the template after its percent signs. -/
theorem splitOn_lineTemplate :
    lineTemplate.toList.splitOn '%' =
      [[], "(asctime)s | ".toList, "(levelname)s | ".toList, "(correlation_id)s | ".toList,
        "(name)s | ".toList, "(message)s".toList] := by
  decide

/-- The line for a record holds its time, its level, the correlation identifier, its logger and its
words. -/
theorem Record.line?_eq (record : Record) (correlation : String) :
    record.line? correlation =
      (timestamp? record.seconds).map fun moment =>
        moment ++ "," ++ signedField 3 record.millis ++ " | " ++ levelName record.level ++ " | " ++
          correlation ++ " | " ++ loggerName record.name ++ " | " ++ record.message ++ "\n" := by
  have time : fillPiece (record.attribute? correlation) "(asctime)s | ".toList =
      (timestamp? record.seconds).map fun moment =>
        (moment ++ "," ++ signedField 3 record.millis).toList ++ " | ".toList :=
    Option.map_map _ _ _
  have level : fillPiece (record.attribute? correlation) "(levelname)s | ".toList =
      some ((levelName record.level).toList ++ " | ".toList) := rfl
  have identifier : fillPiece (record.attribute? correlation) "(correlation_id)s | ".toList =
      some (correlation.toList ++ " | ".toList) := rfl
  have logger : fillPiece (record.attribute? correlation) "(name)s | ".toList =
      some ((loggerName record.name).toList ++ " | ".toList) := rfl
  have words : fillPiece (record.attribute? correlation) "(message)s".toList =
      some (record.message.toList ++ []) := rfl
  rw [line?, fill?, splitOn_lineTemplate]
  simp only [List.mapM_cons, time, level, identifier, logger, words]
  cases timestamp? record.seconds with
  | none => rfl
  | some moment => simp [← String.toList_inj]

/-- What decides how records are written. -/
structure Journal where
  /-- The number of handlers, each of which writes every record that is admitted. -/
  handlers : Nat := 0
  /-- The level it is configured with; zero is no level of its own. -/
  level : Int := 0
  /-- The correlation identifier, once there is one. -/
  correlation : Option String := none
  /-- The number of fresh identifiers drawn. -/
  drawn : Nat := 0
deriving DecidableEq, Repr

namespace Journal

/-- Install the handler and fix the level, unless a handler is there. -/
def configure (journal : Journal) (level : Int) : Journal :=
  if journal.handlers = 0 then { journal with handlers := 1, level := level } else journal

/-- Only the first configuration of a journal counts. -/
theorem configure_of_handlers {journal : Journal} (installed : journal.handlers ≠ 0) (level : Int) :
    journal.configure level = journal := by
  rw [configure, if_neg installed]

/-- The level from which records are written: that of warnings, if there is none of its own. -/
def threshold (journal : Journal) : Int :=
  if journal.level = 0 then warningLevel else journal.level

/-- Whether records of a level are written; at zero and below they never are. -/
def Admits (journal : Journal) (level : Int) : Prop := 0 < level ∧ journal.threshold ≤ level

instance (journal : Journal) (level : Int) : Decidable (journal.Admits level) :=
  inferInstanceAs (Decidable (_ ∧ _))

/-- Draw a fresh correlation identifier. -/
def draw (fresh : Nat → String) (journal : Journal) : String × Journal :=
  let identifier := fresh journal.drawn
  (identifier, { journal with correlation := some identifier, drawn := journal.drawn + 1 })

/-- Set the correlation identifier to a text, or to a fresh one for none and for the empty text. -/
def setCorrelation (fresh : Nat → String) (journal : Journal) : Option String → String × Journal
  | none => journal.draw fresh
  | some value =>
    if value = "" then journal.draw fresh
    else (value, { journal with correlation := some value })

/-- The correlation identifier, a fresh one if there is none yet. -/
def getCorrelation (fresh : Nat → String) (journal : Journal) : String × Journal :=
  match journal.correlation with
  | some identifier => (identifier, journal)
  | none => journal.draw fresh

/-- Write a record, once for each handler, if its level is admitted. -/
def emit (fresh : Nat → String) (journal : Journal) (record : Record) : String × Journal :=
  let ready := journal.configure infoLevel
  if ready.Admits record.level then
    let named := ready.getCorrelation fresh
    (String.join (List.replicate ready.handlers ((record.line? named.1).getD "")), named.2)
  else ("", ready)

/-- A record whose level is not admitted leaves no line and no trace but the configuration. -/
theorem emit_of_not_admits {fresh : Nat → String} {journal : Journal} {record : Record}
    (dropped : ¬(journal.configure infoLevel).Admits record.level) :
    journal.emit fresh record = ("", journal.configure infoLevel) :=
  if_neg dropped

/-- A request to the journal. -/
inductive Step
  /-- Set the correlation identifier. -/
  | set (value : Option String)
  /-- Ask for the correlation identifier. -/
  | get
  /-- Configure the journal. -/
  | configure (level : Int)
  /-- Ask for a logger, which configures the journal. -/
  | logger (name : String)
  /-- Write a record. -/
  | emit (record : Record)
deriving DecidableEq, Repr

/-- The answer to a request. -/
inductive Answer
  /-- The correlation identifier. -/
  | correlation (identifier : String)
  /-- The handlers and the level that are in force. -/
  | configured (handlers : Nat) (level : Int)
  /-- The full name of a logger, with the handlers and the level that are in force. -/
  | logger (name : String) (handlers : Nat) (level : Int)
  /-- What was written. -/
  | written (text : String)
deriving DecidableEq, Repr

/-- Answer a request. -/
def step (fresh : Nat → String) (journal : Journal) : Step → Answer × Journal
  | .set value =>
    let result := journal.setCorrelation fresh value
    (.correlation result.1, result.2)
  | .get =>
    let result := journal.getCorrelation fresh
    (.correlation result.1, result.2)
  | .configure level =>
    let ready := journal.configure level
    (.configured ready.handlers ready.level, ready)
  | .logger name =>
    let ready := journal.configure infoLevel
    (.logger (loggerName name) ready.handlers ready.level, ready)
  | .emit record =>
    let result := journal.emit fresh record
    (.written result.1, result.2)

/-- Answer requests one after another. -/
def run (fresh : Nat → String) (journal : Journal) : List Step → List Answer × Journal
  | [] => ([], journal)
  | request :: rest =>
    let first := journal.step fresh request
    let others := run fresh first.2 rest
    (first.1 :: others.1, others.2)

end Journal

end ConnString.Log
