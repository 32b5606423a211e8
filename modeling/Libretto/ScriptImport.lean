import Libretto.Settings
import Libretto.Staging

/-! Scripts from files: the dialogue and the timing of a language, each laid over a base
file if there is one. -/
namespace Libretto

/-- The members of one section, those of the base first. -/
def layerSection (base value : Value) (name : String) : Except Fault (String × Value) :=
  match (base.member? name).getD (.object []), (value.member? name).getD (.object []) with
  | .object lower, .object upper =>
    .ok (name, .object ((OrderedMap.ofList lower).extend upper).entries)
  | _, _ => .error (.shape (.partNotObject name))

/-- A document over its base, entry by entry. Only the sections named are kept. -/
def layer (sections : List String) (base value : Value) : Except Fault Value :=
  match base, value with
  | .object _, .object _ => do
    .ok (.object (← sections.mapM (layerSection base value)))
  | _, _ => .error (.shape .layers)

def dialogueSections : List String := ["speakers", "cutscenes", "hints"]
def timingSections : List String := ["cutscenes", "hints"]

namespace Desk

def readPart (audience : Option Audience) (files : FileTree) (path : String) :
    Edit Desk Value := do
  Edit.log (.readingScript path)
  loadDocument audience files .subtitles path

/-- A document laid over the base that a path names, if it names one. -/
def overBase (audience : Option Audience) (files : FileTree) (base : Option String)
    (sections : List String) (value : Value) : Edit Desk Value :=
  match base with
  | none => return value
  | some path =>
    if path.isEmpty then return value
    else do
      let lower ← readPart audience files path
      Edit.ofExcept (layer sections lower value)

/-- Reads the files of an input into the store. -/
def load (audience : Option Audience) (files : FileTree) (source : ScriptSource)
    (replace : Bool) : Edit Desk Script := do
  if source.dialoguePath.isEmpty || source.timingPath.isEmpty then
    Edit.fail (Fault.naming source.language (.noScriptPaths source))
  let dialogue ← readPart audience files source.dialoguePath
  let timing ← readPart audience files source.timingPath
  let dialogue ← overBase audience files source.dialogueBase dialogueSections dialogue
  let timing ← overBase audience files source.timingBase timingSections timing
  let dialogue ← Edit.ofExcept (Dialogue.ofValue dialogue)
  let timing ← Edit.ofExcept (Timing.ofValue timing)
  stage audience dialogue timing source replace

end Desk

end Libretto
