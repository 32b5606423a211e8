import Libretto.Proofs.Deliveries

/-! What one call can do to a store, and what it tells of that. Each call takes one of a few
steps, so what a run keeps is proved of the steps and not of the calls. The steps are those of
calls that fail as well: most of these stay where they are, and those that cannot name their
language have taken the first step of what they were to do, unheard. -/
namespace Libretto

def ScriptCall.lets : ScriptCall → Scene → Prop
  | add scene, entering => entering = scene
  | update scene, entering => entering = scene
  | alter _ _, _ => False

/-- The scenes that a call may let in, as far as the call itself says. -/
def Call.lets : Call → Scene → Prop
  | onScript _ call, entering => call.lets entering
  | stage .., entering => entering.Proper
  | load .., entering => entering.Proper
  | _, _ => False

namespace ScriptStore

/-- From one store to the next, with the changes that the audience hears of. -/
inductive Step (before : ScriptStore) : Call → ScriptStore → List Event → Prop
  | stays (call : Call) : Step before call before []
  | added {script : Script} (absent : before.script? script.language = none) :
      Step before (.addScript script) (before.putScript (before.heard script))
        (changes (before.noted script))
  /-- Scenes come in over those of a script that is there. -/
  | overlaid {call : Call} {language : Int} {old ground : Script} {scenes : List Scene}
      (found : before.script? language = some old) (sameScenes : ground.scenes = old.scenes)
      (sameLanguage : ground.language = old.language)
      (sameAudience : ground.audience = old.audience)
      (lets : ∀ scene ∈ scenes, call.lets scene) :
      Step before call (before.putScript (ground.overrideAll scenes))
        (changes (ground.notedAll scenes))
  /-- Scenes come in with the first script of a language. -/
  | opened {call : Call} {source : ScriptSource} {scenes : List Scene} {made : Script}
      (absent : before.script? source.language = none)
      (makes : made = (Staging.freshScript source before.audience).overrideAll scenes)
      (lets : ∀ scene ∈ scenes, call.lets scene) :
      Step before call (before.putScript made)
        (changes ((Staging.freshScript source before.audience).notedAll scenes) ++
          changes (before.noted made))
  | altered {language : Int} {script : Script} (name : String) (change : Scene → Scene)
      (found : before.script? language = some script) :
      Step before (.onScript language (.alter name change))
        (before.putScript (script.changeScene name change)) []
  | assigned : Step before .assignGroups before.grouped []
  | regrouped (grouping : Option Grouping) :
      Step before (.regroup grouping) { before with grouping } []

/-- What an edit does is a step of a call. -/
def Takes (edit : Edit Desk α) (call : Call) : Prop :=
  ∀ desk : Desk, Step desk.store call (edit desk).state.store (changes (edit desk).journal)

theorem Takes.discard {edit : Edit Desk α} {call : Call} (takes : Takes edit call) :
    Takes (discard edit : Edit Desk PUnit) call := by
  intro desk
  rw [Edit.run_discard]
  exact takes desk

/-- What comes before the first change may only report. -/
theorem Takes.after {first : Edit Desk α} {next : α → Edit Desk β} {call : Call}
    (head : first.Spares Desk.store) (tail : ∀ value, Takes (next value) call) :
    Takes (first >>= next) call := by
  intro desk
  obtain ⟨kept, silent⟩ := head desk
  rw [Edit.run_bind]
  cases result : (first desk).result with
  | error fault =>
    dsimp only
    rw [kept, silent]
    exact .stays call
  | ok value =>
    have later := tail value (first desk).state
    rw [kept] at later
    dsimp only
    rw [changes_append, silent]
    exact later

theorem addScript_takes (script : Script) :
    Takes (Desk.onStore (addScript script)) (.addScript script) := by
  intro desk
  simp only [Desk.onStore, Edit.within]
  cases present : desk.store.hasScript script.language with
  | true =>
    rw [addScript_present present]
    exact .stays _
  | false =>
    rw [addScript_new present]
    dsimp only
    exact .added ((desk.store.hasScript_eq_false_iff script.language).mp present)

/-- Nobody is told that scenes have been given their groups. -/
theorem assignGroups_outcome (store : ScriptStore) :
    (assignGroups store).result = .ok () ∧ (assignGroups store).state = store.grouped ∧
      events (assignGroups store).journal = [] := by
  simp only [assignGroups, grouped, Edit.run_bind, Edit.run_get]
  cases store.grouping <;> exact ⟨rfl, rfl, rfl⟩

end ScriptStore

namespace Staging
variable {source : ScriptSource} {replace : Bool} {scenes : List Scene} {store : ScriptStore}

theorem ground_frame (replace : Bool) {old : Script}
    (found : store.script? source.language = some old) :
    (ground source replace store).scenes = old.scenes ∧
      (ground source replace store).language = old.language ∧
      (ground source replace store).audience = old.audience := by
  rw [ground_old found]
  cases replace <;> exact ⟨rfl, rfl, rfl⟩

/-- Scenes come in over a script that is there or with a new one, or not at all. -/
theorem left_step {call : Call} (lets : ∀ scene ∈ scenes, call.lets scene) :
    ScriptStore.Step store call (left source replace scenes store)
      (told source replace scenes store) := by
  have entering : ∀ scene ∈ Script.taken source.language scenes, call.lets scene :=
    fun scene member => lets scene (Script.mem_of_mem_taken scenes member)
  unfold left told
  cases closed : shut source replace scenes store with
  | true => exact .stays call
  | false =>
    simp only [Bool.false_eq_true, if_false]
    cases found : store.script? source.language with
    | none =>
      have unknown := (store.hasScript_eq_false_iff source.language).mpr found
      rw [unknown, if_neg Bool.false_ne_true, ground_new found]
      refine .opened found ?_ entering
      rw [entered, ground_new found]
    | some old =>
      have known : store.hasScript source.language = true :=
        Option.isSome_iff_exists.mpr ⟨old, found⟩
      obtain ⟨sameScenes, sameLanguage, sameAudience⟩ := ground_frame replace found
      rw [known, if_pos rfl, List.append_nil]
      exact .overlaid found sameScenes sameLanguage sameAudience entering

end Staging

namespace Desk

theorem stage_takes (audience : Option Audience) (dialogue : Dialogue) (timing : Timing)
    (source : ScriptSource) (replace : Bool) {call : Call}
    (lets : ∀ scene : Scene, scene.Proper → call.lets scene) :
    ScriptStore.Takes (stage audience dialogue timing source replace) call := by
  intro desk
  rw [stage_store, stage_told]
  cases builds : built dialogue timing source with
  | error fault =>
    rw [leaving, telling, builds]
    exact .stays call
  | ok scenes =>
    have scenesOf := (built_ok builds).2.2
    rw [leaving_built builds, telling_built builds]
    exact Staging.left_step fun scene member =>
      lets scene (Staging.scenesOf_proper scenesOf scene member).1

theorem load_takes (audience : Option Audience) (files : FileTree) (source : ScriptSource)
    (replace : Bool) : ScriptStore.Takes (load audience files source replace)
      (.load audience files source replace) := by
  rw [load_eq]
  exact .after (reading_spares audience files source) fun (dialogue, timing) =>
    stage_takes audience dialogue timing source replace fun _ proper => proper

end Desk

/-- A single scene comes in as the scenes of documents do, and none where it is refused. -/
theorem ScriptCall.perform_cases (call : ScriptCall) (script : Script) :
    (∃ scenes, (∀ scene ∈ scenes, call.lets scene) ∧
      (call.perform script).state = script.overrideAll scenes ∧
      changes (call.perform script).journal = changes (script.notedAll scenes)) ∨
    ∃ name change, call = .alter name change ∧
      (call.perform script).state = script.changeScene name change ∧
      changes (call.perform script).journal = [] := by
  have single (scene : Scene) : script.notedAll [scene] = script.noted scene :=
    List.append_nil _
  cases call with
  | add scene =>
    refine .inl ?_
    rw [perform, Edit.run_discard]
    cases present : script.hasScene scene.name with
    | true =>
      rw [Script.addScene_present present]
      exact ⟨[], by simp, rfl, rfl⟩
    | false =>
      rw [Script.addScene_new present, ← single]
      exact ⟨[scene], by simp [lets], rfl, rfl⟩
  | update scene =>
    refine .inl ?_
    rw [perform, Edit.run_discard, Script.updateScene_outcome, ← single]
    exact ⟨[scene], by simp [lets], rfl, rfl⟩
  | alter name change => exact .inr ⟨name, change, rfl, rfl, rfl⟩

theorem ScriptCall.perform_step (call : ScriptCall) {language : Int} {script : Script}
    {store : ScriptStore} (found : store.script? language = some script) :
    ScriptStore.Step store (.onScript language call) (store.putScript (call.perform script).state)
      (changes (call.perform script).journal) := by
  obtain ⟨scenes, lets, state, told⟩ | ⟨name, change, rfl, state, told⟩ :=
    call.perform_cases script
  · rw [state, told]
    exact .overlaid found rfl rfl rfl lets
  · rw [state, told]
    exact .altered name change found

/-- Every call, whatever becomes of it, takes one of the steps. -/
theorem Call.perform_takes (call : Call) : ScriptStore.Takes call.perform call := by
  cases call with
  | addScript script => exact .discard (ScriptStore.addScript_takes script)
  | onScript language call =>
    intro desk
    simp only [perform, Edit.run_bind, Edit.run_get]
    cases found : desk.store.script? language with
    | none => exact .stays _
    | some script => exact call.perform_step found
  | stage audience dialogue timing source replace =>
    exact .discard (Desk.stage_takes audience dialogue timing source replace fun _ proper => proper)
  | load audience files source replace =>
    exact .discard (Desk.load_takes audience files source replace)
  | assignGroups =>
    intro desk
    obtain ⟨-, grouped, silent⟩ := ScriptStore.assignGroups_outcome desk.store
    simp only [perform, Desk.onStore, Edit.within, grouped, changes, silent]
    exact .assigned
  | regroup grouping => exact fun desk => .regrouped grouping
  | newReader => exact fun desk => .stays _

end Libretto
