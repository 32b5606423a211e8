import Libretto.Edit
import Libretto.Grouping
import Libretto.Scene

/-! The scenes of one language by name, and a store with a script for each language. A change is
made first and told then, in words that name the language. -/
namespace Libretto

def byName (a b : String) : Bool := a < b

def byLanguage (a b : Int) : Bool := a < b

/-- A scene is held by one script under one name: what changes it there changes it nowhere
else. -/
structure Script where
  language : Int
  version : String := ""
  path : String := ""
  scenes : OrderedMap String Scene := .empty
  audience : Option Audience := none

/-- A scene as the script holds it, and whether it is new there. -/
structure Stored where
  scene : Scene
  isNew : Bool

namespace Script

def size (script : Script) : Nat := script.scenes.size

def hasScene (script : Script) (name : String) : Bool := script.scenes.contains name

def scene (script : Script) (name : String) : Except Fault Scene :=
  match script.scenes.find? name with
  | some scene => .ok scene
  | none => .error (.naming script.language (.sceneNotFound name script.language))

/-- The scenes in the order of their names. -/
def inOrder (script : Script) : List (String × Scene) := script.scenes.sorted byName

def putScene (script : Script) (name : String) (scene : Scene) : Script :=
  { script with scenes := script.scenes.insert name scene }

/-- Changes a scene that the script holds, under the name it is held by. -/
def changeScene (script : Script) (name : String) (change : Scene → Scene) : Script :=
  match script.scenes.find? name with
  | some scene => script.putScene name (change scene)
  | none => script

def addScene (scene : Scene) : Edit Script Scene := do
  let script ← Edit.get
  if script.hasScene scene.name then
    Edit.fail (.naming script.language (.duplicateScene scene.name script.language))
  else
    Edit.set (script.putScene scene.name scene)
    Edit.nameable script.language
    Edit.log (.sceneAdded scene.name script.language)
    Edit.send script.audience (.sceneAdded script.language scene.name scene.lines.length)
    return scene

/-- Gives the scene of the same name a new content, or adds the scene. -/
def updateScene (scene : Scene) : Edit Script Stored := do
  let script ← Edit.get
  match script.scenes.find? scene.name with
  | none => return ⟨← addScene scene, true⟩
  | some old =>
    let stored := old.copyContent scene
    Edit.set (script.putScene scene.name stored)
    Edit.nameable script.language
    Edit.log (.sceneReplaced scene.name script.language)
    Edit.send script.audience (.sceneReplaced script.language stored.name stored.lines.length)
    return ⟨stored, false⟩

/-- By group, the scenes without a group index last, and by name within a group. -/
def groupBefore (a b : Scene) : Bool :=
  let loose (scene : Scene) : Bool := scene.groupIndex < 0
  if loose a ≠ loose b then loose b
  else if a.groupIndex ≠ b.groupIndex then a.groupIndex < b.groupIndex
  else byName a.name b.name

def inGroupOrder (script : Script) : List Scene := arrange groupBefore script.scenes.values

/-- Every scene with the group and the index that a grouping gives it. -/
def assign (grouping : Grouping) (script : Script) : Script :=
  { script with scenes := script.scenes.map fun _ scene =>
      let group := grouping.groupOf scene.name
      { scene with group, groupIndex := grouping.indexOf group } }

theorem assign_language (grouping : Grouping) (script : Script) :
    (script.assign grouping).language = script.language := rfl

def describe (script : Script) : String :=
  "SubtitleBank (language " ++ toString script.language ++ ", " ++ toString script.size ++
    " scenes)"

end Script

structure ScriptStore where
  scripts : OrderedMap Int Script
  /-- Each script is under its own language. -/
  own : ∀ language script, scripts.find? language = some script → script.language = language
  grouping : Option Grouping
  audience : Option Audience

namespace ScriptStore

def new (grouping : Option Grouping) (audience : Option Audience) : ScriptStore :=
  ⟨.empty, nofun, grouping, audience⟩

def script? (store : ScriptStore) (language : Int) : Option Script :=
  store.scripts.find? language

def hasScript (store : ScriptStore) (language : Int) : Bool := store.scripts.contains language

/-- The scripts in the order of their languages. -/
def inOrder (store : ScriptStore) : List (Int × Script) := store.scripts.sorted byLanguage

def putScript (store : ScriptStore) (script : Script) : ScriptStore :=
  { store with
    scripts := store.scripts.insert script.language script
    own := by
      intro language other found
      rw [OrderedMap.find?_insert] at found
      split at found
      next same =>
        cases found
        exact same
      next => exact store.own language other found }

/-- The store with every script changed, though not in its language. -/
def mapScripts (store : ScriptStore) (change : Script → Script)
    (same : ∀ script, (change script).language = script.language) : ScriptStore :=
  { store with
    scripts := store.scripts.map fun _ => change
    own := by
      intro language script found
      rw [OrderedMap.find?_map] at found
      obtain ⟨old, there, rfl⟩ := Option.map_eq_some_iff.mp found
      exact (same old).trans (store.own language old there) }

/-- Adds a script. If it has no audience it gets that of the store. -/
def addScript (script : Script) : Edit ScriptStore Script := do
  let store ← Edit.get
  if store.hasScript script.language then
    Edit.fail (.naming script.language (.duplicateScript script.language))
  else
    let script := { script with audience := script.audience.or store.audience }
    Edit.set (store.putScript script)
    Edit.nameable script.language
    Edit.log (.scriptAdded script.language)
    Edit.send store.audience (.scriptAdded script.language script.size)
    return script

/-- A change of a script that the store holds. -/
def amend (script : Script) (edit : Edit Script α) : Edit ScriptStore α :=
  Edit.within (fun _ => script) (fun script store => store.putScript script) edit

/-- A change of the grouping. -/
def regroup (grouping : Grouping) (edit : Edit Grouping α) : Edit ScriptStore α :=
  Edit.within (fun _ => grouping) (fun grouping store => { store with grouping := some grouping })
    edit

/-- Gives every scene the group and the index that the grouping has for it. -/
def assignGroups : Edit ScriptStore Unit := do
  let store ← Edit.get
  match store.grouping with
  | none => Edit.log .noGroups
  | some grouping =>
    Edit.set (store.mapScripts (Script.assign grouping) (Script.assign_language grouping))

end ScriptStore

end Libretto
