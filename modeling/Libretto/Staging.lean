import Libretto.Dialogue
import Libretto.HexId.Value
import Libretto.Timing

/-! Scenes out of dialogue and timing. Each cue that is no clear entry takes the next text
of its scene. All scenes are built before a store changes. -/
namespace Libretto

/-- A store that is being filled, and the speakers already reported as unknown. -/
structure Desk where
  store : ScriptStore
  reported : List String

namespace Staging

/-- The display name of a speaker. One without it goes by its key, and that is reported
once. -/
def speakerName (audience : Option Audience) (speakers : OrderedMap String String)
    (key : String) : Edit (List String) String :=
  if key.isEmpty then return ""
  else match speakers.find? key with
    | some name => return name
    | none => do
      let reported ← Edit.get
      if key ∉ reported then
        Edit.set (reported ++ [key])
        Edit.report audience (.unknownSpeaker key)
      return key

/-- Fills a scene cue by cue. `texts` are those not taken yet, `total` counts all. -/
def fill (audience : Option Audience) (speakers : OrderedMap String String) (part : Part)
    (total : Nat) : List Cue → List String → Scene → Edit (List String) Scene
  | [], texts, scene => do
    if texts.length > 0 then
      Edit.report audience (.untimedTexts part scene.name texts.length)
    return scene
  | cue :: cues, texts, scene =>
    if cue.clear then
      fill audience speakers part total cues texts (scene.add (.clear cue.frame))
    else match texts with
      | [] => Edit.fail (.missingTexts part scene.name total)
      | text :: texts => do
        let speaker ← speakerName audience speakers cue.speaker
        fill audience speakers part total cues texts
          (scene.add ⟨cue.frame, text, speaker, cue.offscreen⟩)

def cutscene (audience : Option Audience) (dialogue : Dialogue) (name : String)
    (cues : List Cue) : Edit (List String) Scene :=
  let texts := (dialogue.cutscenes.find? name).getD []
  fill audience dialogue.speakers .cutscene texts.length cues texts { name }

/-- A hint with an id of zero is looked up by its name. -/
def hint (audience : Option Audience) (dialogue : Dialogue) (name : String)
    (timing : HintTiming) : Edit (List String) Scene := do
  let id ← Edit.ofExcept (HexId.ofValue (.str timing.id))
  let texts := (dialogue.hints.find? name).getD []
  let kind := if id = 0 then SceneKind.namedHint else .hint
  fill audience dialogue.speakers .hint texts.length (timing.cues.map HintCue.toCue) texts
    { name, kind, id }

/-- Reports texts that no cue will take, by name. -/
def reportUntimed (audience : Option Audience) (part : Part) (texts timed : List String) :
    Edit σ Unit :=
  (arrange byName (texts.filter (· ∉ timed))).forM fun name =>
    Edit.report audience (.untimedScene part name)

def cutscenes (audience : Option Audience) (dialogue : Dialogue) (timing : Timing) :
    Edit (List String) (List Scene) :=
  timing.cutscenes.entries.mapM fun (name, cues) => cutscene audience dialogue name cues

def hints (audience : Option Audience) (dialogue : Dialogue) (timing : Timing)
    (language : Int) : Edit (List String) (List Scene) :=
  timing.hints.entries.mapM fun (name, hintTiming) =>
    if timing.cutscenes.contains name then
      Edit.fail (Fault.naming language (.duplicateScene name language))
    else hint audience dialogue name hintTiming

def scenes (audience : Option Audience) (dialogue : Dialogue) (timing : Timing)
    (language : Int) : Edit (List String) (List Scene) := do
  let cutscenes ← cutscenes audience dialogue timing
  let hints ← hints audience dialogue timing language
  return cutscenes ++ hints

/-- Adds scenes to a store: to a new script, over the scenes of the one that is there, or
beside them if none has the name of another. A new script takes in its scenes before the store
takes it in, so one that stops on the way is lost. -/
def store (source : ScriptSource) (replace : Bool) (scenes : List Scene) :
    Edit ScriptStore Script := do
  let store ← Edit.get
  match store.script? source.language with
  | none =>
    let script ← Edit.apart (scenes.forM fun scene => discard (Script.addScene scene)) {
      language := source.language
      version := source.version
      path := source.dialoguePath
      audience := store.audience }
    ScriptStore.addScript script
  | some script =>
    if replace then
      ScriptStore.amend script do
        Edit.modify fun script =>
          { script with version := source.version, path := source.dialoguePath }
        scenes.forM fun scene => discard (Script.updateScene scene)
        Edit.get
    else match scenes.find? fun scene => script.hasScene scene.name with
      | some scene =>
        Edit.fail (.naming source.language (.duplicateScene scene.name source.language))
      | none =>
        ScriptStore.amend script do
          scenes.forM fun scene => discard (Script.addScene scene)
          Edit.get

end Staging

namespace Desk

def onStore (edit : Edit ScriptStore α) : Edit Desk α :=
  Edit.within Desk.store (fun store desk => { desk with store }) edit

def onReported (edit : Edit (List String) α) : Edit Desk α :=
  Edit.within Desk.reported (fun reported desk => { desk with reported }) edit

/-- Adds the scenes of an input to the store. -/
def stage (audience : Option Audience) (dialogue : Dialogue) (timing : Timing)
    (source : ScriptSource) (replace : Bool) : Edit Desk Script := do
  if source.format ≠ .json then Edit.fail (.unsupportedScript source)
  if source.language < 0 then Edit.fail (.noScriptLanguage source)
  Staging.reportUntimed audience .cutscene dialogue.cutscenes.keys timing.cutscenes.keys
  Staging.reportUntimed audience .hint dialogue.hints.keys timing.hints.keys
  let scenes ← onReported (Staging.scenes audience dialogue timing source.language)
  let script ← onStore (Staging.store source replace scenes)
  Edit.nameable source.language
  Edit.report audience (.scenesLoaded scenes.length source.language)
  return script

end Desk

end Libretto
