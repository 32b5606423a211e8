import Libretto.Document

/-! Groups of scenes and the order in which they are shown. The order starts with a key of
its own, under which it is stored beside the groups. -/
namespace Libretto

/-- Names with one more at the end, unless it is there. -/
def including (names : List String) (name : String) : List String :=
  if name ∈ names then names else names ++ [name]

/-- First occurrences. -/
def withoutRepeats (names : List String) : List String := names.foldl including []

def defaultOrderKey : String := "_groups"
def defaultLooseGroup : String := "uncategorized"

structure Grouping where
  orderKey : String
  /-- The group of scenes that are in no group. -/
  looseGroup : String
  order : List String
  groups : OrderedMap String (List String)

namespace Grouping

def new (orderKey : String) (looseGroup : String) : Grouping :=
  ⟨orderKey, looseGroup, [orderKey], .empty⟩

def standard : Grouping := new defaultOrderKey defaultLooseGroup

/-- The first group that lists a scene. -/
def listing? (groups : List (String × List String)) (scene : String) : Option String :=
  (groups.find? fun (_, scenes) => scene ∈ scenes).map Prod.fst

def groupOf (grouping : Grouping) (scene : String) : String :=
  (listing? grouping.groups.entries scene).getD grouping.looseGroup

/-- The place of a group in the order, -1 without one. -/
def indexOf (grouping : Grouping) (group : String) : Int :=
  match grouping.order.idxOf? group with
  | some index => index
  | none => -1

def scenesOf (grouping : Grouping) (group : String) : List String :=
  (grouping.groups.find? group).getD []

def addScene (grouping : Grouping) (group scene : String) : Except Fault Grouping :=
  if group = grouping.orderKey then .error (.reservedGroup group)
  else .ok { grouping with
    order := including grouping.order group
    groups := grouping.groups.insert group (including (grouping.scenesOf group) scene) }

def removeScene (grouping : Grouping) (group scene : String) : Grouping :=
  match grouping.groups.find? group with
  | some scenes => { grouping with groups := grouping.groups.insert group (scenes.erase scene) }
  | none => grouping

/-- Takes a scene out of its group and adds it to another, in two steps: if the second one
fails the first stays done. -/
def moveScene (group scene : String) : Edit Grouping String := do
  let grouping ← Edit.get
  let old := grouping.groupOf scene
  Edit.set (grouping.removeScene old scene)
  Edit.set (← Edit.ofExcept ((grouping.removeScene old scene).addScene group scene))
  return old

/-- What has been read of a document: the order and the groups so far. -/
structure Draft where
  order : List String
  groups : OrderedMap String (List String)

/-- The order key and then the other names of the order, once each. -/
def readOrder (orderKey : String) (value : Value) : Except Fault (List String) :=
  let names := match value with
    | .list items => Value.texts? items
    | _ => none
  match names with
  | some names => .ok (orderKey :: (withoutRepeats names).erase orderKey)
  | none => .error (.shape (.groupOrder orderKey))

/-- Scenes of a group, once each. None may be in a group that was read before. -/
def readScenes (draft : Draft) (group : String) (scenes : List String) :
    Except Fault (List String) :=
  scenes.foldlM (fun kept scene =>
    match listing? draft.groups.entries scene with
    | some other => .error (.sceneInTwoGroups scene other group)
    | none => .ok (including kept scene)) []

def readGroup (draft : Draft) (group : String) (value : Value) : Edit σ Draft := do
  let names := match value with
    | .list items => Value.texts? items
    | _ => none
  match names with
  | none => Edit.fail (.shape (.groupScenes group))
  | some names =>
    let scenes ← Edit.ofExcept (readScenes draft group names)
    let groups := draft.groups.insert group scenes
    if group ∈ draft.order then return ⟨draft.order, groups⟩
    else
      Edit.log (.unorderedGroup group)
      return ⟨draft.order ++ [group], groups⟩

def readGroups (orderKey : String) : List (String × Value) → Draft → Edit σ Draft
  | [], draft => return draft
  | (group, value) :: rest, draft =>
    if group = orderKey then readGroups orderKey rest draft
    else do
      let draft ← readGroup draft group value
      readGroups orderKey rest draft

/-- Replaces order and groups by those of a document, unless it is at fault. -/
def hydrate (value : Value) : Edit Grouping Unit := do
  let grouping ← Edit.get
  match value with
  | .object members =>
    let order ← Edit.ofExcept
      (readOrder grouping.orderKey ((value.member? grouping.orderKey).getD (.list [])))
    let draft ← readGroups grouping.orderKey members ⟨order, .empty⟩
    Edit.set { grouping with order := draft.order, groups := draft.groups }
    Edit.log (.groupsLoaded draft.groups.size)
  | other => Edit.fail (.shape (.notObject "Scene groups" other.typeName))

def load (files : FileTree) (path : String) : Edit Grouping Unit := do
  Edit.log (.loadingGroups path)
  match files.document path with
  | .ok value => hydrate value
  | .error fault => Edit.fail (if fault.isUnreadable then .unreadable .groups path fault else fault)

/-- The document of a grouping: the order, the groups in that order, and those that are
not in it. -/
def members (grouping : Grouping) : OrderedMap String (List String) :=
  let ordered := grouping.order.foldl (fun members group =>
    match grouping.groups.find? group with
    | some scenes => members.insert group scenes
    | none => members) (.ofList [(grouping.orderKey, grouping.order)])
  grouping.groups.entries.foldl (fun members (group, scenes) =>
    members.insertNew group scenes) ordered

def toValue (grouping : Grouping) : Value :=
  .ofMap (fun names => .list (names.map .str)) grouping.members.entries

def save (grouping : Grouping) (path : String) : Edit FileTree Unit := do
  FileTree.writeDocument path grouping.toValue
  Edit.log (.groupsSaved path)

end Grouping

end Libretto
