import Libretto.Field
import Libretto.Script

/-! The dialogue document of a script: the display names of the speakers, and the texts of
each scene in the order in which its cues take them. -/
namespace Libretto

structure Dialogue where
  speakers : OrderedMap String String := .empty
  cutscenes : OrderedMap String (List String) := .empty
  hints : OrderedMap String (List String) := .empty

namespace Dialogue

def textMap (context : String) (members : List (String × Value)) :
    Except Fault (OrderedMap String String) :=
  match members.mapM fun (name, value) => value.str?.map (name, ·) with
  | some texts => .ok (.ofList texts)
  | none => .error (.shape (.notTextMap context))

def textList (context : String) (entry : String × Value) :
    Except Fault (String × List String) := do
  let lines ← listOf (context ++ " '" ++ entry.1 ++ "'") entry.2
  match Value.texts? lines with
  | some texts => .ok (entry.1, texts)
  | none => .error (.shape (.notTextList context entry.1))

def textLists (context : String) (members : List (String × Value)) :
    Except Fault (OrderedMap String (List String)) := do
  .ok (.ofList (← members.mapM (textList context)))

def ofValue (value : Value) : Except Fault Dialogue := do
  let members ← objectOf "Subtitle lines" value
  let speakers ← textMap "Subtitle speakers" (← part "Subtitle speakers" members "speakers")
  let cutscenes ← textLists "Subtitle cutscenes" (← part "Subtitle cutscenes" members "cutscenes")
  let hints ← textLists "Subtitle hints" (← part "Subtitle hints" members "hints")
  .ok { speakers, cutscenes, hints }

def textsValue (texts : List String) : Value := .list (texts.map .str)

/-- Speakers and scenes are written in the order of their names. -/
def toValue (dialogue : Dialogue) : Value :=
  .object [
    ("speakers", .ofMap .str (dialogue.speakers.sorted byName)),
    ("cutscenes", .ofMap textsValue (dialogue.cutscenes.sorted byName)),
    ("hints", .ofMap textsValue (dialogue.hints.sorted byName))]

end Dialogue

end Libretto
