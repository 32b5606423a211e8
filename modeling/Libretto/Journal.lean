import Libretto.Notice

/-! The journal of a change: notices in the log, and events for whoever listens to a
store. -/
namespace Libretto

inductive Event
  | tableAdded (group : String) (language : Int) (lines : Nat)
  | scriptAdded (language : Int) (scenes : Nat)
  | sceneAdded (language : Int) (scene : String) (lines : Nat)
  | sceneReplaced (language : Int) (scene : String) (lines : Nat)
  | report (notice : Notice)
  deriving DecidableEq, Repr

inductive Entry
  | log (notice : Notice)
  | event (event : Event)
  deriving DecidableEq, Repr

def notices (journal : List Entry) : List Notice :=
  journal.filterMap fun
    | .log notice => some notice
    | .event _ => none

def events (journal : List Entry) : List Event :=
  journal.filterMap fun
    | .event event => some event
    | .log _ => none

/-- The lines of a log that starts at a level. -/
def logLines (least : Level) (journal : List Entry) : List String :=
  ((notices journal).filter (·.reaches least)).map Notice.line

/-- Who listens to events: someone who records all of them, and loggers, which pass on
reports to the log. -/
structure Audience where
  recorder : Bool
  loggers : Bool
  deriving DecidableEq, Repr

/-- Without an audience an event is not sent. -/
def announce (audience : Option Audience) (event : Event) : List Entry :=
  match audience with
  | some ⟨true, _⟩ => [.event event]
  | _ => []

/-- A report goes to the audience, and to the log if there is none. -/
def reportTo (audience : Option Audience) (notice : Notice) : List Entry :=
  match audience with
  | none => [.log notice]
  | some listeners =>
    announce audience (.report notice) ++ if listeners.loggers then [.log notice] else []

end Libretto
