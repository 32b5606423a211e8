import Libretto.Proofs.StoreSteps

/-! What holds of every scene in a store, at every point of a run. A law speaks of a scene and
the name that it is held by. It is enough that scenes obey it when they come in and when their
lines change: scenes made of documents do, and a scene that comes in over another one takes over
its group alone. No script and no scene that has come in goes missing. -/
namespace Libretto

/-- A change of the lines of a scene. -/
inductive LineChange
  | add (line : Line)
  | clear

def LineChange.apply : LineChange → Scene → Scene
  | add line, scene => scene.add line
  | clear, scene => scene.clearLines

/-- A scene that has got its lines one by one. -/
def Scene.LineByLine (scene : Scene) : Prop :=
  ∃ (bare : Scene) (changes : List LineChange), bare.lines = [] ∧
    scene = changes.foldl (fun scene change => change.apply scene) bare

def Script.after (script : Script) (calls : List ScriptCall) : Script :=
  calls.foldl (fun script call => (call.perform script).state) script

/-- A call that lets in a scene that fits, or changes the lines of one that is there. -/
inductive ScriptCall.Plain (fit : Scene → Prop) : ScriptCall → Prop
  | add {scene : Scene} (fits : fit scene) : Plain fit (.add scene)
  | update {scene : Scene} (fits : fit scene) : Plain fit (.update scene)
  | alter (name : String) (change : LineChange) : Plain fit (.alter name change.apply)

/-- A script that is added has come of plain calls on a new one. -/
inductive Call.Plain (fit : Scene → Prop) : Call → Prop
  | addScript {bare : Script} {calls : List ScriptCall} (new : bare.scenes = .empty)
      (plain : ∀ call ∈ calls, call.Plain fit) : Plain fit (.addScript (bare.after calls))
  | onScript (language : Int) {call : ScriptCall} (plain : call.Plain fit) :
      Plain fit (.onScript language call)
  | stage (audience : Option Audience) (dialogue : Dialogue) (timing : Timing)
      (source : ScriptSource) (replace : Bool) :
      Plain fit (.stage audience dialogue timing source replace)
  | load (audience : Option Audience) (files : FileTree) (source : ScriptSource)
      (replace : Bool) : Plain fit (.load audience files source replace)
  | assignGroups : Plain fit .assignGroups
  | regroup (grouping : Option Grouping) : Plain fit (.regroup grouping)
  | newReader : Plain fit .newReader

/-- What a law has to grant for every scene of a store to obey it. -/
structure Scene.Law (fit : Scene → Prop) (law : String → Scene → Prop) : Prop where
  entered : ∀ scene, fit scene → law scene.name scene
  built : ∀ scene : Scene, scene.Proper → law scene.name scene
  changed : ∀ name scene (change : LineChange), law name scene → law name (change.apply scene)
  grouped : ∀ name (scene : Scene) group groupIndex, law name scene →
    law name { scene with group, groupIndex }

def Script.Obeys (law : String → Scene → Prop) (script : Script) : Prop :=
  ∀ name scene, script.scenes.find? name = some scene → law name scene

def ScriptStore.Obeys (law : String → Scene → Prop) (store : ScriptStore) : Prop :=
  ∀ language script, store.script? language = some script → script.Obeys law

section law
variable {fit : Scene → Prop} {law : String → Scene → Prop} {script : Script} {scene : Scene}
  {before after : ScriptStore} {name : String} {call : Call} {told : List Event}

namespace Script

theorem Obeys.new (bare : script.scenes = .empty) : script.Obeys law := by
  intro name scene found
  rw [bare] at found
  cases found

theorem Obeys.putScene (obeys : script.Obeys law) (lawful : law name scene) :
    (script.putScene name scene).Obeys law := by
  intro other held found
  rw [Script.putScene, OrderedMap.find?_insert] at found
  split at found
  next same =>
    cases found
    exact same ▸ lawful
  next => exact obeys other held found

/-- Of the scene that was there its group is all that stays. -/
theorem replacement_lawful (laws : Scene.Law fit law) (script : Script)
    (lawful : law scene.name scene) : law scene.name (script.replacement scene) := by
  unfold replacement
  split
  next old _ => exact laws.grouped scene.name scene old.group old.groupIndex lawful
  next => exact lawful

theorem Obeys.overrideAll (laws : Scene.Law fit law) {scenes : List Scene}
    (obeys : script.Obeys law) (lawful : ∀ scene ∈ scenes, law scene.name scene) :
    (script.overrideAll scenes).Obeys law := by
  induction scenes generalizing script with
  | nil => exact obeys
  | cons scene scenes ih =>
    have first : (script.override scene).Obeys law :=
      obeys.putScene (replacement_lawful laws script (lawful scene (by simp)))
    exact ih first fun other member => lawful other (by simp [member])

theorem Obeys.changeScene (laws : Scene.Law fit law) (obeys : script.Obeys law)
    (name : String) (change : LineChange) : (script.changeScene name change.apply).Obeys law := by
  unfold Script.changeScene
  split
  next old found => exact obeys.putScene (laws.changed name old change (obeys name old found))
  next => exact obeys

theorem Obeys.assign (laws : Scene.Law fit law) (obeys : script.Obeys law)
    (grouping : Grouping) : (script.assign grouping).Obeys law := by
  intro name scene found
  rw [find?_assign] at found
  obtain ⟨old, before, rfl⟩ := Option.map_eq_some_iff.mp found
  exact laws.grouped name old _ _ (obeys name old before)

theorem lets_lawful (laws : Scene.Law fit law) {call : ScriptCall} (plain : call.Plain fit)
    (lets : call.lets scene) : law scene.name scene := by
  cases plain with
  | add fits =>
    cases lets
    exact laws.entered scene fits
  | update fits =>
    cases lets
    exact laws.entered scene fits
  | alter => cases lets

theorem perform_obeys (laws : Scene.Law fit law) {call : ScriptCall} (plain : call.Plain fit) :
    call.perform.Preserves (Obeys law) := by
  intro script obeys
  obtain ⟨scenes, lets, state, -⟩ | ⟨name, change, rfl, state, -⟩ := call.perform_cases script
  · rw [state]
    exact obeys.overrideAll laws fun scene member => lets_lawful laws plain (lets scene member)
  · rw [state]
    cases plain with
    | alter name change => exact obeys.changeScene laws name change

/-- A script that is not in a store yet obeys as one that is. -/
theorem after_obeys (laws : Scene.Law fit law) {calls : List ScriptCall}
    (obeys : script.Obeys law) (plain : ∀ call ∈ calls, call.Plain fit) :
    (script.after calls).Obeys law := by
  induction calls generalizing script with
  | nil => exact obeys
  | cons call calls ih =>
    have first := perform_obeys laws (plain call (by simp)) script obeys
    exact ih first fun other member => plain other (by simp [member])

end Script

namespace ScriptStore

theorem Obeys.putScript (obeys : before.Obeys law) (lawful : script.Obeys law) :
    (before.putScript script).Obeys law := by
  intro language other found
  rw [script?_putScript] at found
  split at found
  next =>
    cases found
    exact lawful
  next => exact obeys language other found

theorem Obeys.grouped (laws : Scene.Law fit law) (obeys : before.Obeys law) :
    before.grouped.Obeys law := by
  intro language script found
  cases known : before.grouping with
  | none =>
    rw [ScriptStore.grouped, known] at found
    exact obeys language script found
  | some grouping =>
    rw [script?_grouped known] at found
    obtain ⟨old, there, rfl⟩ := Option.map_eq_some_iff.mp found
    exact (obeys language old there).assign laws grouping

theorem lets_lawful (laws : Scene.Law fit law) (plain : call.Plain fit) (lets : call.lets scene) :
    law scene.name scene := by
  cases plain with
  | onScript _ plain => exact Script.lets_lawful laws plain lets
  | stage => exact laws.built scene lets
  | load => exact laws.built scene lets
  | addScript | assignGroups | regroup | newReader => cases lets

theorem Step.obeys (laws : Scene.Law fit law) (plain : call.Plain fit)
    (step : Step before call after told) (obeys : before.Obeys law) : after.Obeys law := by
  cases step with
  | stays => exact obeys
  | added =>
    cases plain with
    | @addScript bare calls new plain =>
      have made : (bare.after calls).Obeys law := Script.after_obeys laws (.new new) plain
      exact obeys.putScript made
  | @overlaid _ language old ground scenes found sameScenes _ _ lets =>
    have base : ground.Obeys law := by
      intro name scene there
      exact obeys language old found name scene (sameScenes ▸ there)
    exact obeys.putScript (base.overrideAll laws fun scene member =>
      lets_lawful laws plain (lets scene member))
  | @opened _ source scenes _ _ makes lets =>
    have base : (Staging.freshScript source before.audience).Obeys law := .new rfl
    rw [makes]
    exact obeys.putScript (base.overrideAll laws fun scene member =>
      lets_lawful laws plain (lets scene member))
  | @altered language script name _ found =>
    cases plain with
    | onScript _ plain =>
      cases plain with
      | alter _ change =>
        have changed := (obeys language script found).changeScene laws name change
        exact obeys.putScript changed
  | assigned => exact obeys.grouped laws
  | regrouped => exact obeys

end ScriptStore

end law

theorem Desk.run_obeys {fit : Scene → Prop} {law : String → Scene → Prop}
    (laws : Scene.Law fit law) {calls : List Call} (plain : ∀ call ∈ calls, call.Plain fit)
    {desk : Desk} (obeys : desk.store.Obeys law) : (desk.run calls).store.Obeys law := by
  induction calls generalizing desk with
  | nil => exact obeys
  | cons call calls ih =>
    have step := call.perform_takes desk
    have first := step.obeys laws (plain call (by simp)) obeys
    exact ih (fun other member => plain other (by simp [member])) first

/-! Nothing goes missing. -/

namespace ScriptStore

/-- What there is before is there afterwards, though it may have changed. -/
structure Grows (before after : ScriptStore) : Prop where
  scripts : ∀ language, before.hasScript language → after.hasScript language
  scenes : ∀ language name, (before.scene? language name).isSome →
    (after.scene? language name).isSome

variable {before between after : ScriptStore} {script : Script} {call : Call} {told : List Event}

theorem Grows.refl (store : ScriptStore) : store.Grows store := ⟨fun _ => id, fun _ _ => id⟩

theorem Grows.trans (first : before.Grows between) (second : between.Grows after) :
    before.Grows after :=
  ⟨fun language there => second.scripts language (first.scripts language there),
    fun language name there => second.scenes language name (first.scenes language name there)⟩

/-- It is enough that a script holds the names of the one that it replaces. -/
theorem Grows.putScript (holds : ∀ old, before.script? script.language = some old →
    ∀ name, old.hasScene name → script.hasScene name) : before.Grows (before.putScript script) := by
  constructor
  · intro language there
    rw [hasScript_putScript, there, Bool.or_true]
  · intro language name there
    rw [scene?, script?_putScript]
    split
    next same =>
      subst same
      obtain ⟨scene, held⟩ := Option.isSome_iff_exists.mp there
      obtain ⟨old, found, inOld⟩ := Option.bind_eq_some_iff.mp held
      exact holds old found name (Option.isSome_iff_exists.mpr ⟨scene, inOld⟩)
    next => exact there

end ScriptStore

theorem Script.hasScene_overrideAll {script : Script} {scenes : List Scene} {name : String}
    (there : script.hasScene name) : (script.overrideAll scenes).hasScene name := by
  induction scenes generalizing script with
  | nil => exact there
  | cons scene scenes ih => exact ih (by simp [hasScene_override, there])

theorem Script.hasScene_changeScene (script : Script) (name other : String)
    (change : Scene → Scene) :
    (script.changeScene name change).hasScene other = script.hasScene other := by
  unfold changeScene
  split
  next scene found =>
    have inserted := OrderedMap.contains_insert script.scenes name other (change scene)
    rw [hasScene, putScene, inserted, hasScene, Bool.or_eq_right_iff_imp, decide_eq_true_eq]
    rintro rfl
    rw [OrderedMap.contains, found]
    rfl
  next => rfl

namespace ScriptStore
variable {before after : ScriptStore} {call : Call} {told : List Event}

theorem hasScript_grouped (store : ScriptStore) (language : Int) :
    store.grouped.hasScript language = store.hasScript language := by
  cases known : store.grouping with
  | none => rw [grouped, known]
  | some grouping =>
    change (store.grouped.script? language).isSome = (store.script? language).isSome
    rw [script?_grouped known, Option.isSome_map]

theorem scene?_grouped (store : ScriptStore) (language : Int) (name : String) :
    (store.grouped.scene? language name).isSome = (store.scene? language name).isSome := by
  cases known : store.grouping with
  | none => rw [grouped, known]
  | some grouping =>
    rw [scene?, script?_grouped known, scene?]
    cases store.script? language with
    | none => rfl
    | some script => simp [Script.find?_assign]

/-- Under its own language, a script is put back over itself. -/
theorem Grows.amended {old script : Script} {language : Int}
    (found : before.script? language = some old) (same : script.language = old.language)
    (holds : ∀ name, old.hasScene name → script.hasScene name) :
    before.Grows (before.putScript script) := by
  refine .putScript fun other there => ?_
  rw [same, before.own language old found] at there
  cases found.symm.trans there
  exact holds

theorem Step.grows (step : Step before call after told) : before.Grows after := by
  cases step with
  | stays => exact .refl before
  | @added script absent =>
    refine .putScript fun old found => ?_
    cases absent.symm.trans found
  | @overlaid _ language old ground scenes found sameScenes sameLanguage _ lets =>
    refine .amended found ?_ fun name there => ?_
    · rw [Script.overrideAll_language, sameLanguage]
    · apply Script.hasScene_overrideAll
      rw [Script.hasScene, sameScenes]
      exact there
  | @opened _ source scenes made absent makes lets =>
    refine .putScript fun old found => ?_
    rw [makes, Script.overrideAll_language] at found
    cases absent.symm.trans found
  | @altered language script name change found =>
    refine .amended found (script.changeScene_language name change) fun other there => ?_
    rwa [Script.hasScene_changeScene]
  | assigned =>
    exact ⟨fun language there => (before.hasScript_grouped language).symm ▸ there,
      fun language name there => (before.scene?_grouped language name).symm ▸ there⟩
  | regrouped => exact ⟨fun _ => id, fun _ _ => id⟩

end ScriptStore

theorem Desk.run_grows (desk : Desk) (calls : List Call) :
    desk.store.Grows (desk.run calls).store := by
  induction calls generalizing desk with
  | nil => exact .refl desk.store
  | cons call calls ih => exact (call.perform_takes desk).grows.trans (ih _)

/-! Names and frames. -/

/-- Under its own name, and with its lines in the order of their frames. -/
def Scene.InPlace (name : String) (scene : Scene) : Prop :=
  scene.name = name ∧ InFrameOrder scene.lines

theorem LineChange.apply_ordered (change : LineChange) {scene : Scene}
    (ordered : InFrameOrder scene.lines) : InFrameOrder (change.apply scene).lines := by
  cases change with
  | add line =>
    rw [← arranged_lines_iff] at ordered ⊢
    exact place_arranged Line.before_ranks line scene.lines ordered
  | clear => exact .nil

theorem Scene.LineByLine.ordered {scene : Scene} (filled : scene.LineByLine) :
    InFrameOrder scene.lines := by
  obtain ⟨bare, changes, empty, rfl⟩ := filled
  have start : InFrameOrder bare.lines := empty ▸ .nil
  clear empty
  induction changes generalizing bare with
  | nil => exact start
  | cons change changes ih => exact ih (change.apply bare) (change.apply_ordered start)

theorem LineChange.apply_name (change : LineChange) (scene : Scene) :
    (change.apply scene).name = scene.name := by
  cases change <;> rfl

theorem Scene.inPlace_law : Scene.Law Scene.LineByLine Scene.InPlace where
  entered _ filled := ⟨rfl, filled.ordered⟩
  built _ proper := ⟨rfl, proper.ordered⟩
  changed _ scene change inPlace :=
    ⟨(change.apply_name scene).trans inPlace.1, change.apply_ordered inPlace.2⟩
  grouped _ _ _ _ inPlace := inPlace

/-- The names that the scenes of a script bear. -/
def Script.names (script : Script) : List String := script.scenes.values.map Scene.name

theorem Script.names_distinct {script : Script}
    (own : script.Obeys fun name scene => scene.name = name) : script.names.Nodup := by
  have names : script.names = script.scenes.keys := by
    rw [Script.names, OrderedMap.values, OrderedMap.keys, List.map_map]
    refine List.map_congr_left fun entry member => ?_
    exact own entry.1 entry.2 ((script.scenes.find?_eq_some_iff entry.1 entry.2).mpr member)
  rw [names]
  exact script.scenes.distinct

namespace Desk

theorem new_obeys (grouping : Option Grouping) (audience : Option Audience)
    (law : String → Scene → Prop) : (ScriptStore.new grouping audience).Obeys law := by
  intro language script found
  cases found

/-- At every point of every run, calls that fail among the rest: each script is under its own
language, each scene is under its own name and has its lines in the order of their frames, and
no script or scene has gone missing, whatever calls come later. -/
theorem stored_scenes_stay_in_place (grouping : Option Grouping) (audience : Option Audience)
    {calls : List Call} (plain : ∀ call ∈ calls, call.Plain Scene.LineByLine)
    (more : List Call) :
    let desk := run ⟨.new grouping audience, []⟩ calls
    (∀ language script, desk.store.script? language = some script →
      script.language = language ∧
      (∀ name scene, script.scenes.find? name = some scene →
        scene.name = name ∧ InFrameOrder scene.lines) ∧
      script.names.Nodup) ∧
    desk.store.Grows (desk.run more).store := by
  intro desk
  have obeys : desk.store.Obeys Scene.InPlace :=
    run_obeys Scene.inPlace_law plain (new_obeys grouping audience _)
  refine ⟨fun language script found => ⟨?_, ?_, ?_⟩, desk.run_grows more⟩
  · exact desk.store.own language script found
  · exact obeys language script found
  · exact Script.names_distinct fun name scene there =>
      (obeys language script found name scene there).1

theorem crossed_lines_come_into_order :
    let scene : Scene := ({ name := "a" } : Scene).addAll [⟨9, "late", "", false⟩, .clear 4]
    let calls : List Call := [
      .addScript (Script.after { language := 0 } [.add scene]), .addScript { language := 0 },
      .onScript 0 (.add scene), .onScript 0 (.alter "a" (LineChange.add (.clear 6)).apply)]
    let desk := run ⟨.new none none, []⟩ calls
    (∃ script held, desk.store.script? 0 = some script ∧ script.scenes.find? "a" = some held ∧
      held.lines.map Line.frame = [4, 6, 9] ∧ held.name = "a" ∧ InFrameOrder held.lines) ∧
    ((desk.run [.newReader]).store.scene? 0 "a").isSome := by
  intro scene calls desk
  have filled : scene.LineByLine :=
    ⟨{ name := "a" }, [.add ⟨9, "late", "", false⟩, .add (.clear 4)], rfl, rfl⟩
  have plain : ∀ call ∈ calls, call.Plain Scene.LineByLine := by
    simp only [calls, List.forall_mem_cons, List.not_mem_nil, false_imp_iff, implies_true, and_true]
    refine ⟨.addScript rfl ?_, @Call.Plain.addScript _ _ [] rfl (by simp),
      .onScript 0 (.add filled), .onScript 0 (.alter "a" _)⟩
    simpa using ScriptCall.Plain.add filled
  obtain ⟨inPlace, grows⟩ := stored_scenes_stay_in_place none none plain [.newReader]
  have frames : (desk.store.scene? 0 "a").map (fun held => held.lines.map Line.frame) =
      some [4, 6, 9] := by decide +kernel
  obtain ⟨held, there, frames⟩ := Option.map_eq_some_iff.mp frames
  obtain ⟨script, found, inScript⟩ := Option.bind_eq_some_iff.mp there
  obtain ⟨-, scenes, -⟩ := inPlace 0 script found
  refine ⟨⟨script, held, found, inScript, frames, scenes "a" held inScript⟩, grows.scenes 0 "a" ?_⟩
  rw [there]
  rfl

end Desk

end Libretto
