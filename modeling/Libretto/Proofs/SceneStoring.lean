import Libretto.Proofs.SceneBuilding

/-! How scenes enter a script. Adding and updating are one step where both are possible:
`override` puts a scene under its name and keeps the group of the scene that was there. The
three ways of storing many scenes are folds of it, each with its own condition. A scene comes
in before it is told of, so in a language that cannot be written the first one is the last. -/
namespace Libretto

namespace Script

/-- What a script holds under a scene's name once the scene has come in. -/
def replacement (script : Script) (scene : Scene) : Scene :=
  match script.scenes.find? scene.name with
  | some old => old.copyContent scene
  | none => scene

def override (script : Script) (scene : Scene) : Script :=
  script.putScene scene.name (script.replacement scene)

def overrideAll (script : Script) (scenes : List Scene) : Script := scenes.foldl override script

/-- What is told of a scene that comes in, if the language can be named. -/
def noted (script : Script) (scene : Scene) : List Entry :=
  if Numeral.isWritable script.language then
    if script.hasScene scene.name then
      .log (.sceneReplaced scene.name script.language) ::
        announce script.audience (.sceneReplaced script.language scene.name scene.lines.length)
    else
      .log (.sceneAdded scene.name script.language) ::
        announce script.audience (.sceneAdded script.language scene.name scene.lines.length)
  else []

def notedAll (script : Script) : List Scene → List Entry
  | [] => []
  | scene :: scenes => script.noted scene ++ (script.override scene).notedAll scenes

/-- Of scenes for a language, those that come in. -/
def taken (language : Int) (scenes : List Scene) : List Scene :=
  if Numeral.isWritable language then scenes else scenes.take 1

/-- How it ends when scenes come in one after the other. -/
def ending (language : Int) (scenes : List Scene) : Except Fault Unit :=
  if scenes.isEmpty then .ok () else written language ()

section language
variable {language : Int} (scenes : List Scene)

theorem taken_writable (writable : Numeral.isWritable language = true) :
    taken language scenes = scenes := if_pos writable

@[simp] theorem taken_nil (language : Int) : taken language [] = [] := by
  rw [taken, List.take_nil, ite_self]

theorem ending_writable (writable : Numeral.isWritable language = true) :
    ending language scenes = .ok () := by
  rw [ending, written_ok writable, ite_self]

theorem ending_error {scenes : List Scene} {fault : Fault}
    (ends : ending language scenes = .error fault) :
    Numeral.isWritable language = false ∧ fault = .unwritableInteger := by
  unfold ending at ends
  split at ends
  · cases ends
  · exact written_eq_error ends

/-- What goes wrong on the way goes wrong in the end as well. -/
theorem ending_written (made : α) :
    ((ending language scenes).map fun _ => made).bind (written language) =
      written language made := by
  cases ends : ending language scenes with
  | ok done => simp only [Except.map, Except.bind]
  | error fault =>
    obtain ⟨huge, rfl⟩ := ending_error ends
    simp only [written_error huge, Except.map, Except.bind]

theorem mem_of_mem_taken {scene : Scene} (member : scene ∈ taken language scenes) :
    scene ∈ scenes := by
  unfold taken at member
  split at member
  · exact member
  · exact List.mem_of_mem_take member

theorem noted_unwritable {script : Script} (huge : Numeral.isWritable script.language = false)
    (scene : Scene) : script.noted scene = [] := if_neg (Bool.eq_false_iff.mp huge)

theorem notedAll_unwritable {script : Script} (huge : Numeral.isWritable script.language = false) :
    script.notedAll scenes = [] := by
  induction scenes generalizing script with
  | nil => rfl
  | cons scene scenes ih =>
    rw [notedAll, noted_unwritable huge, List.nil_append]
    exact @ih (script.override scene) huge

end language

theorem hasScene_eq_false_iff (script : Script) (name : String) :
    script.hasScene name = false ↔ script.scenes.find? name = none :=
  script.scenes.contains_eq_false_iff name

theorem find?_override (script : Script) (scene : Scene) (name : String) :
    (script.override scene).scenes.find? name =
      if scene.name = name then some (script.replacement scene) else script.scenes.find? name :=
  OrderedMap.find?_insert ..

theorem hasScene_override (script : Script) (scene : Scene) (name : String) :
    (script.override scene).hasScene name = (decide (scene.name = name) || script.hasScene name) :=
  OrderedMap.contains_insert ..

theorem addScene_new {script : Script} {scene : Scene}
    (absent : script.hasScene scene.name = false) :
    addScene scene script =
      ⟨written script.language scene, script.override scene, script.noted scene⟩ := by
  have found := (hasScene_eq_false_iff script scene.name).mp absent
  have put : script.override scene = script.putScene scene.name scene := by
    simp [override, replacement, found]
  cases writable : Numeral.isWritable script.language <;>
    simp [addScene, absent, noted, put, written, writable, Edit.log, Edit.send, Except.map]

theorem addScene_present {script : Script} {scene : Scene}
    (present : script.hasScene scene.name = true) :
    addScene scene script =
      ⟨.error (.naming script.language (.duplicateScene scene.name script.language)), script,
        []⟩ := by
  simp [addScene, present]

/-- An update never refuses a scene. -/
theorem updateScene_outcome (script : Script) (scene : Scene) : updateScene scene script =
    ⟨written script.language ⟨script.replacement scene, !script.hasScene scene.name⟩,
      script.override scene, script.noted scene⟩ := by
  cases found : script.scenes.find? scene.name with
  | none =>
    have absent := (hasScene_eq_false_iff script scene.name).mpr found
    cases writable : Numeral.isWritable script.language <;>
      simp [updateScene, found, addScene_new absent, replacement, absent, written, writable,
        Except.map]
  | some old =>
    have present : script.hasScene scene.name = true := by
      simp [hasScene, OrderedMap.contains, found]
    cases writable : Numeral.isWritable script.language <;>
      simp [updateScene, found, present, replacement, override, noted, written, writable,
        Scene.copyContent, Edit.log, Edit.send, Except.map]

/-- One more scene at the front: it comes in, and so do the others if it can be told of. -/
theorem storeOne {script : Script} {scene : Scene} {scenes : List Scene}
    {store : Scene → Edit Script Unit}
    (first : store scene script =
      ⟨written script.language (), script.override scene, script.noted scene⟩)
    (rest : scenes.forM store (script.override scene) =
      ⟨ending script.language scenes,
        (script.override scene).overrideAll (taken script.language scenes),
        (script.override scene).notedAll (taken script.language scenes)⟩) :
    (scene :: scenes).forM store script =
      ⟨ending script.language (scene :: scenes),
        script.overrideAll (taken script.language (scene :: scenes)),
        script.notedAll (taken script.language (scene :: scenes))⟩ := by
  rw [Edit.run_forM_cons, Edit.run_bind, first]
  cases writable : Numeral.isWritable script.language with
  | true =>
    rw [taken_writable _ writable] at rest ⊢
    rw [ending_writable _ writable] at rest ⊢
    rw [written_ok writable]
    simp only [rest]
    rfl
  | false =>
    simp [written, ending, taken, writable, overrideAll, notedAll]

theorem updateScenes_outcome (script : Script) (scenes : List Scene) :
    (scenes.forM fun scene => discard (updateScene scene)) script =
      ⟨ending script.language scenes, script.overrideAll (taken script.language scenes),
        script.notedAll (taken script.language scenes)⟩ := by
  induction scenes generalizing script with
  | nil =>
    rw [taken_nil]
    rfl
  | cons scene scenes ih =>
    refine storeOne ?_ (ih (script.override scene))
    rw [Edit.run_discard, updateScene_outcome, map_written]

/-- Names that are distinct and new stay new while the scenes before them are added. -/
theorem addScenes_outcome (script : Script) (scenes : List Scene)
    (distinct : (scenes.map Scene.name).Nodup)
    (absent : ∀ scene ∈ scenes, script.hasScene scene.name = false) :
    (scenes.forM fun scene => discard (addScene scene)) script =
      ⟨ending script.language scenes, script.overrideAll (taken script.language scenes),
        script.notedAll (taken script.language scenes)⟩ := by
  induction scenes generalizing script with
  | nil =>
    rw [taken_nil]
    rfl
  | cons scene scenes ih =>
    obtain ⟨apart, tail⟩ := List.nodup_cons.mp distinct
    have later : ∀ other ∈ scenes, (script.override scene).hasScene other.name = false := by
      intro other member
      have different : scene.name ≠ other.name := by
        intro same
        exact apart (same ▸ List.mem_map_of_mem member)
      simpa [hasScene_override, different] using absent other (by simp [member])
    refine storeOne ?_ (ih (script.override scene) tail later)
    rw [Edit.run_discard, addScene_new (absent scene (by simp)), map_written]

section overrideAll
variable (script : Script) (scenes : List Scene)

@[simp] theorem overrideAll_language : (script.overrideAll scenes).language = script.language := by
  induction scenes generalizing script with
  | nil => rfl
  | cons scene scenes ih => exact ih (script.override scene)

@[simp] theorem overrideAll_version : (script.overrideAll scenes).version = script.version := by
  induction scenes generalizing script with
  | nil => rfl
  | cons scene scenes ih => exact ih (script.override scene)

@[simp] theorem overrideAll_path : (script.overrideAll scenes).path = script.path := by
  induction scenes generalizing script with
  | nil => rfl
  | cons scene scenes ih => exact ih (script.override scene)

@[simp] theorem overrideAll_audience : (script.overrideAll scenes).audience = script.audience := by
  induction scenes generalizing script with
  | nil => rfl
  | cons scene scenes ih => exact ih (script.override scene)

/-- With distinct names no scene is overridden by a later one. -/
theorem find?_overrideAll (distinct : (scenes.map Scene.name).Nodup) (name : String) :
    (script.overrideAll scenes).scenes.find? name =
      match scenes.find? (·.name = name) with
      | some scene => some (script.replacement scene)
      | none => script.scenes.find? name := by
  induction scenes generalizing script with
  | nil => rfl
  | cons scene scenes ih =>
    obtain ⟨apart, tail⟩ := List.nodup_cons.mp distinct
    rw [overrideAll, List.foldl_cons]
    apply (ih (script.override scene) tail).trans
    by_cases same : scene.name = name
    · have gone : scenes.find? (·.name = name) = none := by
        refine List.find?_eq_none.mpr fun other member equal => apart ?_
        rw [same, ← of_decide_eq_true equal]
        exact List.mem_map_of_mem member
      simp [gone, same, find?_override]
    · simp only [List.find?_cons, same, decide_false]
      cases found : scenes.find? (·.name = name) with
      | none => simp [find?_override, same]
      | some other =>
        have different : scene.name ≠ other.name := by
          have := List.find?_some found
          simp only [decide_eq_true_eq] at this
          rwa [this]
        simp [replacement, find?_override, different]

end overrideAll

/-- A scene whose content is there already changes nothing. -/
theorem override_settled {script : Script} {scene held : Scene}
    (found : script.scenes.find? scene.name = some held) (same : held.copyContent scene = held) :
    script.override scene = script := by
  have put : script.replacement scene = held := by simp [replacement, found, same]
  rw [override, put, putScene, OrderedMap.insert_present found]

theorem overrideAll_settled {script : Script} {scenes : List Scene}
    (settled : ∀ scene ∈ scenes, ∃ held, script.scenes.find? scene.name = some held ∧
      held.copyContent scene = held) : script.overrideAll scenes = script := by
  induction scenes with
  | nil => rfl
  | cons scene scenes ih =>
    obtain ⟨held, found, same⟩ := settled scene (by simp)
    rw [overrideAll, List.foldl_cons, override_settled found same]
    exact ih fun other member => settled other (by simp [member])

theorem find?_name {scenes : List Scene} (distinct : (scenes.map Scene.name).Nodup) {scene : Scene}
    (member : scene ∈ scenes) : scenes.find? (·.name = scene.name) = some scene := by
  induction scenes with
  | nil => cases member
  | cons first scenes ih =>
    obtain ⟨apart, tail⟩ := List.nodup_cons.mp distinct
    rcases List.mem_cons.mp member with rfl | later
    · simp
    · have different : first.name ≠ scene.name := by
        intro same
        exact apart (same ▸ List.mem_map_of_mem later)
      simpa [different] using ih tail later

/-- Coming in a second time makes no difference. -/
theorem overrideAll_again (script : Script) {scenes : List Scene}
    (distinct : (scenes.map Scene.name).Nodup) :
    (script.overrideAll scenes).overrideAll scenes = script.overrideAll scenes := by
  refine overrideAll_settled fun scene member => ⟨script.replacement scene, ?_, ?_⟩
  · rw [find?_overrideAll script scenes distinct, find?_name distinct member]
  · unfold replacement
    split <;> rfl

end Script

end Libretto
