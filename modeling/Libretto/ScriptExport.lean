import Libretto.Document
import Libretto.HexId.Value
import Libretto.Dialogue
import Libretto.Timing

/-! Scripts back into dialogue and timing. -/
namespace Libretto

namespace Scene

def texts (scene : Scene) : List String :=
  (scene.lines.filter fun line => !line.isClear).map Line.text

end Scene

/-- Speaker keys by display name. Of two keys with one name the later counts. -/
def speakerKeys (speakers : OrderedMap String String) : OrderedMap String String :=
  .ofList (speakers.entries.map fun (key, name) => (name, key))

/-- The key of a speaker; without one the name is the key. -/
def speakerKey (keys : OrderedMap String String) (speaker : String) : String :=
  if speaker.isEmpty then "" else (keys.find? speaker).getD speaker

/-- The speakers of a document with one more, if it has no key yet. -/
def creditSpeaker (keys speakers : OrderedMap String String) (line : Line) :
    OrderedMap String String :=
  if line.isClear || line.speaker.isEmpty || keys.contains line.speaker then speakers
  else speakers.insertNew line.speaker line.speaker

def Line.cue (keys : OrderedMap String String) (line : Line) : Cue :=
  if line.isClear then { frame := line.frame, clear := true }
  else
    { frame := line.frame, offscreen := line.offscreen, speaker := speakerKey keys line.speaker }

def Line.hintCue (keys : OrderedMap String String) (line : Line) : HintCue :=
  if line.isClear then { frame := line.frame, clear := true }
  else { frame := line.frame, speaker := speakerKey keys line.speaker }

/-- A pair of documents that is being written. -/
structure Transcript where
  dialogue : Dialogue := {}
  timing : Timing := {}

namespace Transcript

def credit (keys : OrderedMap String String) (scene : Scene) (transcript : Transcript) :
    Transcript :=
  { transcript with dialogue := { transcript.dialogue with
      speakers := scene.lines.foldl (creditSpeaker keys) transcript.dialogue.speakers } }

def addCutscene (keys : OrderedMap String String) (name : String) (scene : Scene)
    (transcript : Transcript) : Transcript :=
  let credited := transcript.credit keys scene
  { dialogue := { credited.dialogue with
      cutscenes := credited.dialogue.cutscenes.insert name scene.texts }
    timing := { credited.timing with
      cutscenes := credited.timing.cutscenes.insert name (scene.lines.map (Line.cue keys)) } }

def addHint (keys : OrderedMap String String) (name id : String) (scene : Scene)
    (transcript : Transcript) : Transcript :=
  let credited := transcript.credit keys scene
  { dialogue := { credited.dialogue with
      hints := credited.dialogue.hints.insert name scene.texts }
    timing := { credited.timing with
      hints := credited.timing.hints.insert name ⟨id, scene.lines.map (Line.hintCue keys)⟩ } }

/-- Adds a scene under a name. A scene of no valid kind is left out and reported. -/
def addScene (audience : Option Audience) (keys : OrderedMap String String)
    (transcript : Transcript) (entry : String × Scene) : Edit σ Transcript :=
  let (name, scene) := entry
  match scene.kind with
  | .movie => return transcript.addCutscene keys name scene
  | .hint | .namedHint => do
    let id ← Edit.ofExcept (HexId.format scene.id 1)
    return transcript.addHint keys name id scene
  | .invalid => do
    Edit.report audience (.unwrittenScene name)
    return transcript

end Transcript

namespace Script

/-- The dialogue and the timing that a script is built from. Display names are turned back
into keys by the speakers given. -/
def compose (audience : Option Audience) (script : Script)
    (speakers : OrderedMap String String) : Edit σ Transcript :=
  script.inOrder.foldlM (Transcript.addScene audience (speakerKeys speakers))
    { dialogue := { speakers } }

def save (audience : Option Audience) (script : Script) (dialoguePath timingPath : String)
    (speakers : OrderedMap String String) : Edit FileTree Unit := do
  let transcript ← script.compose audience speakers
  FileTree.writeDocument dialoguePath transcript.dialogue.toValue
  FileTree.writeDocument timingPath transcript.timing.toValue
  Edit.nameable script.language
  Edit.log (.scriptSaved script.language dialoguePath)

end Script

end Libretto
