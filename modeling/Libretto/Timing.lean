import Libretto.Field
import Libretto.Script

/-! The timing document of a script: when each line of a scene is shown and who speaks it.
Clear entries are found here only. -/
namespace Libretto

structure Cue where
  frame : Int
  offscreen : Bool := false
  speaker : String := ""
  clear : Bool := false
  deriving DecidableEq, Repr, Inhabited

/-- A cue of a hint, which has no picture to be outside of. -/
structure HintCue where
  frame : Int
  speaker : String := ""
  clear : Bool := false
  deriving DecidableEq, Repr, Inhabited

structure HintTiming where
  id : String := "0"
  cues : List HintCue := []
  deriving DecidableEq, Repr, Inhabited

structure Timing where
  cutscenes : OrderedMap String (List Cue) := .empty
  hints : OrderedMap String HintTiming := .empty

def Cue.ofValue (value : Value) : Except Fault Cue := do
  let context := "Cutscene line metadata"
  let members ← objectOf context value
  let frame ← required context members "frame" "int" Value.int?
  let offscreen ← optional context members "offscreen" "bool" Value.bool? false
  let speaker ← optional context members "speaker" "str" Value.str? ""
  let clear ← optional context members "clear" "bool" Value.bool? false
  .ok { frame, offscreen, speaker, clear }

def Cue.toValue (cue : Cue) : Value :=
  if cue.clear then .object [("frame", .int cue.frame), ("clear", .bool true)]
  else .object [("frame", .int cue.frame), ("offscreen", .bool cue.offscreen),
    ("speaker", .str cue.speaker)]

def HintCue.ofValue (value : Value) : Except Fault HintCue := do
  let context := "Hint line metadata"
  let members ← objectOf context value
  let frame ← required context members "frame" "int" Value.int?
  let speaker ← optional context members "speaker" "str" Value.str? ""
  let clear ← optional context members "clear" "bool" Value.bool? false
  .ok { frame, speaker, clear }

def HintCue.toValue (cue : HintCue) : Value :=
  if cue.clear then .object [("frame", .int cue.frame), ("clear", .bool true)]
  else .object [("frame", .int cue.frame), ("speaker", .str cue.speaker)]

/-- The cue of a cutscene that says the same. -/
def HintCue.toCue (cue : HintCue) : Cue :=
  { frame := cue.frame, speaker := cue.speaker, clear := cue.clear }

def HintTiming.ofValue (value : Value) : Except Fault HintTiming := do
  let context := "Hint metadata"
  let members ← objectOf context value
  let id ← required context members "id" "str" Value.str?
  let lines ← optional context members "lines" "list" Value.list? []
  .ok { id, cues := ← lines.mapM HintCue.ofValue }

def HintTiming.toValue (hint : HintTiming) : Value :=
  .object [("id", .str hint.id), ("lines", .list (hint.cues.map HintCue.toValue))]

namespace Timing

def cutscene (entry : String × Value) : Except Fault (String × List Cue) := do
  let lines ← listOf ("Cutscene '" ++ entry.1 ++ "'") entry.2
  .ok (entry.1, ← lines.mapM Cue.ofValue)

def hint (entry : String × Value) : Except Fault (String × HintTiming) := do
  .ok (entry.1, ← HintTiming.ofValue entry.2)

def ofValue (value : Value) : Except Fault Timing := do
  let members ← objectOf "Subtitle metadata" value
  let cutscenes ← part "Subtitle metadata cutscenes" members "cutscenes"
  let hints ← part "Subtitle metadata hints" members "hints"
  let cutscenes ← cutscenes.mapM cutscene
  let hints ← hints.mapM hint
  .ok { cutscenes := .ofList cutscenes, hints := .ofList hints }

/-- Scenes are written in the order of their names. -/
def toValue (timing : Timing) : Value :=
  .object [
    ("cutscenes", .ofMap (fun cues => .list (cues.map Cue.toValue))
      (timing.cutscenes.sorted byName)),
    ("hints", .ofMap HintTiming.toValue (timing.hints.sorted byName))]

end Timing

end Libretto
