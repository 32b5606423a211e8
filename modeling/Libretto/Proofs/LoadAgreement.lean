import Libretto.Proofs.GroupOrder
import Libretto.Proofs.Sessions

/-! One rule for loads into a new script, beside the scenes of an old one, and over them: the
scenes that the documents make in an empty store are laid over those that are there. Such a
store is the reference, so what is refused there is refused everywhere. -/
namespace Libretto

/-- A scene over another one takes its group. Without another one it has none. -/
def overlaid : Option Scene → Option Scene → Option Scene
  | old, none => old
  | none, some new => some { new with group := "", groupIndex := -1 }
  | some old, some new =>
    some { old with name := new.name, kind := new.kind, id := new.id, lines := new.lines }

def ScriptStore.scene? (store : ScriptStore) (language : Int) (name : String) : Option Scene :=
  (store.script? language).bind fun script => script.scenes.find? name

/-- The scenes of `built` have been laid over those of its language, which makes `made`. -/
structure Overlay (before after : ScriptStore) (source : ScriptSource) (replace : Bool)
    (built made : Script) : Prop where
  stored : after.script? source.language = some made
  scenes : ∀ name, made.scenes.find? name =
    overlaid (before.scene? source.language name) (built.scenes.find? name)
  sourced : replace = true ∨ before.script? source.language = none →
    made.version = source.version ∧ made.path = source.dialoguePath
  unsourced : ∀ old, replace = false → before.script? source.language = some old →
    made.version = old.version ∧ made.path = old.path
  others : ∀ language, language ≠ source.language →
    after.script? language = before.script? language
  grouping : after.grouping = before.grouping

theorem Script.find?_overrideAll_overlaid (script : Script) {scenes : List Scene}
    (distinct : (scenes.map Scene.name).Nodup) (loose : ∀ scene ∈ scenes, scene.Loose)
    (name : String) : (script.overrideAll scenes).scenes.find? name =
      overlaid (script.scenes.find? name) (scenes.find? (·.name = name)) := by
  rw [find?_overrideAll script scenes distinct]
  cases found : scenes.find? (·.name = name) with
  | none => cases script.scenes.find? name <;> rfl
  | some scene =>
    have called := List.find?_some found
    rw [decide_eq_true_eq] at called
    obtain ⟨group, index⟩ := loose scene (List.mem_of_find?_eq_some found)
    simp only [replacement, called]
    cases script.scenes.find? name with
    | none => simp [overlaid, ← group, ← index]
    | some old => rfl

namespace Staging
variable {source : ScriptSource} {replace : Bool} {scenes : List Scene} {store : ScriptStore}

theorem accepted_new (absent : store.script? source.language = none) :
    accepted source replace scenes store =
      written source.language ((freshScript source store.audience).overrideAll scenes) := by
  rw [accepted_free (clash_new absent), ground_new absent]

/-- On its own a script holds the scenes as they were built. -/
theorem freshScript_scenes (distinct : (scenes.map Scene.name).Nodup)
    (audience : Option Audience) (name : String) :
    ((freshScript source audience).overrideAll scenes).scenes.find? name =
      scenes.find? (·.name = name) := by
  rw [Script.find?_overrideAll _ _ distinct]
  cases scenes.find? (·.name = name) <;> rfl

theorem ground_scenes (name : String) :
    (ground source replace store).scenes.find? name = store.scene? source.language name := by
  unfold ground ScriptStore.scene?
  cases store.script? source.language with
  | none => rfl
  | some old => cases replace <;> rfl

/-- A refusal has one of two causes, and the first one does not look at the store. -/
theorem accepted_fails_iff :
    (∃ fault, accepted source replace scenes store = .error fault) ↔
      Numeral.isWritable source.language = false ∨
        replace = false ∧ ∃ scene ∈ scenes, (store.scene? source.language scene.name).isSome := by
  cases writable : Numeral.isWritable source.language with
  | false => exact iff_of_true ⟨_, accepted_unwritable writable⟩ (.inl rfl)
  | true =>
    have held (scene : Scene) : (ground source replace store).hasScene scene.name =
        (store.scene? source.language scene.name).isSome := by
      rw [Script.hasScene, OrderedMap.contains, ground_scenes]
    have clashes : (∃ fault, accepted source replace scenes store = .error fault) ↔
        (clash source replace scenes store).isSome := by
      cases free : clash source replace scenes store with
      | some scene => exact iff_of_true ⟨_, accepted_clash free⟩ rfl
      | none => simp [accepted_free free, written_ok writable]
    rw [clashes, clash]
    cases replace with
    | true => simp
    | false => simp [List.find?_isSome, held]

theorem ground_sourced (taken : replace = true ∨ store.script? source.language = none) :
    (ground source replace store).version = source.version ∧
      (ground source replace store).path = source.dialoguePath := by
  unfold ground
  cases found : store.script? source.language with
  | none => exact ⟨rfl, rfl⟩
  | some old =>
    rw [found] at taken
    rcases taken with rfl | absent
    · exact ⟨rfl, rfl⟩
    · cases absent

variable {made : Script}

/-- What is accepted is a script of the language asked for. -/
theorem accepted_language (done : accepted source replace scenes store = .ok made) :
    made.language = source.language := by
  obtain ⟨-, -, rfl⟩ := accepted_ok done
  rw [Script.overrideAll_language, ground_language]

/-- Scenes that have been accepted are accepted again, and nothing changes. -/
theorem accepted_again (distinct : (scenes.map Scene.name).Nodup)
    (done : accepted source true scenes store = .ok made) :
    accepted source true scenes (store.putScript made) = .ok made ∧
      (store.putScript made).putScript made = store.putScript made := by
  have own := accepted_language done
  have found : (store.putScript made).script? source.language = some made := by
    rw [ScriptStore.script?_putScript, if_pos own]
  obtain ⟨writable, -, made_eq⟩ := accepted_ok done
  obtain ⟨version, path⟩ : (ground source true store).version = source.version ∧
      (ground source true store).path = source.dialoguePath := ground_sourced (.inl rfl)
  have sourced : resourced source made = made := by
    rw [made_eq, resourced, ← version, ← path, ← Script.overrideAll_version _ scenes,
      ← Script.overrideAll_path _ scenes]
  constructor
  · have free : clash source true scenes (store.putScript made) = none := rfl
    rw [accepted_free free, ground_old found, if_pos rfl, sourced, written_ok writable]
    rw [made_eq, Script.overrideAll_again _ distinct]
  · exact ScriptStore.putScript_present (own ▸ found)

theorem accepted_overlay {audience : Option Audience}
    (distinct : (scenes.map Scene.name).Nodup) (loose : ∀ scene ∈ scenes, scene.Loose)
    (done : accepted source replace scenes store = .ok made) :
    Overlay store (store.putScript made) source replace
      ((freshScript source audience).overrideAll scenes) made := by
  have own := accepted_language done
  obtain ⟨-, -, made_eq⟩ := accepted_ok done
  constructor
  case stored => rw [ScriptStore.script?_putScript, if_pos own]
  case scenes =>
    intro name
    rw [made_eq, Script.find?_overrideAll_overlaid _ distinct loose, ground_scenes,
      freshScript_scenes distinct]
  case sourced =>
    intro taken
    rw [made_eq, Script.overrideAll_version, Script.overrideAll_path]
    exact ground_sourced taken
  case unsourced =>
    rintro old rfl found
    rw [made_eq, Script.overrideAll_version, Script.overrideAll_path, ground_old found]
    exact ⟨rfl, rfl⟩
  case others =>
    intro language other
    rw [ScriptStore.script?_putScript, own, if_neg other.symm]
  case grouping => rfl

theorem accepted_keysInGroupOrder {old : Script}
    (done : accepted source replace scenes store = .ok made)
    (found : store.script? source.language = some old)
    (own : ∀ scene ∈ scenes, old.OverOwnName scene) :
    made.keysInGroupOrder.filter old.hasScene = old.keysInGroupOrder := by
  have same : (ground source replace store).scenes = old.scenes := by
    rw [ground_old found]
    split <;> rfl
  have known : (ground source replace store).hasScene = old.hasScene :=
    funext (ground_hasScene found)
  have keys : (ground source replace store).keysInGroupOrder = old.keysInGroupOrder := by
    simp only [Script.keysInGroupOrder, Script.entriesInGroupOrder, same]
  rw [(accepted_ok done).2.2, ← known, ← keys]
  apply Script.overrideAll_keysInGroupOrder
  intro scene member held there
  rw [same] at there
  exact own scene member held there

end Staging

namespace Desk
variable {dialogue : Dialogue} {timing : Timing} {source : ScriptSource} {replace : Bool}

/-- Into a store without the language, all scenes that can be built are taken, unless the language
cannot be written. -/
theorem admitted_blank {store : ScriptStore} (bare : store.scripts = .empty) :
    admitted dialogue timing source replace store = (built dialogue timing source).bind fun scenes =>
      written source.language
        ((Staging.freshScript source store.audience).overrideAll scenes) := by
  have absent : store.script? source.language = none := by
    rw [ScriptStore.script?, bare]
    rfl
  unfold admitted
  cases built dialogue timing source with
  | error fault => simp only [bind, Except.bind]
  | ok scenes =>
    simp only [bind, Except.bind]
    rw [Staging.accepted_new absent]

theorem freshScript_hasScene {scenes : List Scene} (distinct : (scenes.map Scene.name).Nodup)
    (audience : Option Audience) (name : String) :
    ((Staging.freshScript source audience).overrideAll scenes).hasScene name = true ↔
      ∃ scene ∈ scenes, scene.name = name := by
  rw [Script.hasScene, OrderedMap.contains]
  rw [Staging.freshScript_scenes distinct]
  simp

variable {desk blank : Desk}

/-- A load fails where it fails in an empty store, and where it would put a scene beside one of
the same name that it may not replace. -/
theorem stage_fails_iff (bare : blank.store.scripts = .empty)
    (audience listeners : Option Audience) (anyway : Bool) :
    (∃ fault, (stage audience dialogue timing source replace desk).result = .error fault) ↔
      (∃ fault, (stage listeners dialogue timing source anyway blank).result = .error fault) ∨
        replace = false ∧ ∃ built name,
          (stage listeners dialogue timing source anyway blank).result = .ok built ∧
          built.hasScene name ∧ (desk.store.scene? source.language name).isSome := by
  simp only [stage_result, admitted_blank bare]
  unfold admitted
  cases scenesAt : built dialogue timing source with
  | error fault => simp [bind, Except.bind]
  | ok scenes =>
    have distinct := Staging.scenesOf_distinct (built_ok scenesAt).2.2
    simp only [bind, Except.bind]
    rw [Staging.accepted_fails_iff]
    cases writable : Numeral.isWritable source.language with
    | false => simp [written_error writable]
    | true =>
      simp only [written_ok writable, Bool.true_eq_false, false_or, reduceCtorEq, exists_false,
        Except.ok.injEq]
      refine and_congr_right fun _ => ⟨?_, ?_⟩
      · rintro ⟨scene, member, present⟩
        exact ⟨_, scene.name, rfl, (freshScript_hasScene distinct _ _).mpr ⟨scene, member, rfl⟩,
          present⟩
      · rintro ⟨built, name, rfl, held, present⟩
        obtain ⟨scene, member, rfl⟩ := (freshScript_hasScene distinct _ _).mp held
        exact ⟨scene, member, present⟩

/-- A replacing load that has been made once changes nothing more. -/
theorem stage_again {later : Desk} {made : Script}
    (done : admitted dialogue timing source true desk.store = .ok made)
    (state : later.store = desk.store.putScript made) (audience : Option Audience) :
    (stage audience dialogue timing source true later).result = .ok made ∧
      (stage audience dialogue timing source true later).state.store = later.store := by
  obtain ⟨scenes, builds, accepted⟩ := admitted_ok done
  have distinct := Staging.scenesOf_distinct (built_ok builds).2.2
  obtain ⟨accepted_again, put_again⟩ := Staging.accepted_again distinct accepted
  have second : admitted dialogue timing source true later.store = .ok made := by
    rw [admitted_built builds, state, accepted_again]
  obtain ⟨result, after⟩ := stage_admitted audience second
  refine ⟨result, after.trans ?_⟩
  rw [state]
  exact put_again

/-- Loads in every state agree with the load into an empty store. They fail together, a name
apart that is taken and may not be replaced; otherwise the scenes of the one are laid over what
the other finds. A second replacing load changes nothing more. Scenes that were there keep their
order if those replaced bear the names that they are stored under. -/
theorem staging_agrees_with_blank_staging (desk : Desk)
    (bare : blank.store.scripts = .empty) (audience listeners : Option Audience)
    (dialogue : Dialogue) (timing : Timing) (source : ScriptSource) (replace anyway : Bool) :
    let fresh := stage listeners dialogue timing source anyway blank
    let loaded := stage audience dialogue timing source replace desk
    ((∃ fault, loaded.result = .error fault) ↔ (∃ fault, fresh.result = .error fault) ∨
      replace = false ∧ ∃ built name, fresh.result = .ok built ∧ built.hasScene name ∧
        (desk.store.scene? source.language name).isSome) ∧
    ∀ made, loaded.result = .ok made → ∃ built, fresh.result = .ok built ∧
      Overlay desk.store loaded.state.store source replace built made ∧
      (replace = true → ∀ others,
        let again := stage others dialogue timing source true loaded.state
        again.result = .ok made ∧ again.state.store = loaded.state.store) ∧
      ∀ old, desk.store.script? source.language = some old →
        (∀ name held, built.hasScene name → old.scenes.find? name = some held →
          held.name = name) →
        made.keysInGroupOrder.filter old.hasScene = old.keysInGroupOrder := by
  intro fresh loaded
  refine ⟨stage_fails_iff bare audience listeners anyway, fun made succeeded => ?_⟩
  have done := (stage_result audience).symm.trans succeeded
  obtain ⟨scenes, scenesAt, accepted⟩ := admitted_ok done
  have scenesOf := (built_ok scenesAt).2.2
  have distinct := Staging.scenesOf_distinct scenesOf
  have loose : ∀ scene ∈ scenes, scene.Loose :=
    fun scene member => (Staging.scenesOf_proper scenesOf scene member).2
  obtain ⟨writable, -, -⟩ := Staging.accepted_ok accepted
  have state : loaded.state.store = desk.store.putScript made := (stage_admitted audience done).2
  have result : fresh.result =
      .ok ((Staging.freshScript source blank.store.audience).overrideAll scenes) := by
    apply (stage_result listeners).trans
    rw [admitted_blank bare, scenesAt]
    simp only [Except.bind, written_ok writable]
  refine ⟨_, result, ?_, ?_, ?_⟩
  · rw [state]
    exact Staging.accepted_overlay distinct loose accepted
  · rintro rfl others
    exact stage_again done state others
  · intro old found own
    apply Staging.accepted_keysInGroupOrder accepted found
    intro scene member held there
    exact own scene.name held ((freshScript_hasScene distinct _ _).mpr ⟨scene, member, rfl⟩) there

theorem replaced_scene_keeps_its_group :
    let grouped : Scene := { name := "a", group := "g", groupIndex := 3 }
    let script : Script := { language := 0, scenes := .ofList [("a", grouped)] }
    let desk := run ⟨.new none none, []⟩ [.addScript script]
    let timing : Timing := { cutscenes := .ofList [("a", [⟨5, false, "", true⟩])] }
    let loaded := stage none {} timing { language := 0 } true desk
    desk.Reachable ∧ ∃ made, loaded.result = .ok made ∧
      loaded.state.store.script? 0 = some made ∧
      made.scenes.find? "a" = some { grouped with lines := [.clear 5] } := by
  intro grouped script desk timing loaded
  have reachable : desk.Reachable := ⟨none, none, _, rfl⟩
  have bare : (⟨.new none none, []⟩ : Desk).store.scripts = .empty := rfl
  obtain ⟨-, agree⟩ := staging_agrees_with_blank_staging desk bare none none {} timing
    { language := 0 } true true
  have succeeds : loaded.result.toOption.isSome = true := by decide +kernel
  have old : desk.store.scene? 0 "a" = some grouped := by decide +kernel
  have new : ((stage none {} timing { language := 0 } true ⟨.new none none, []⟩).result.toOption.bind
      (·.scenes.find? "a")) = some { name := "a", lines := [.clear 5] } := by decide +kernel
  cases result : loaded.result with
  | error fault =>
    rw [result] at succeeds
    cases succeeds
  | ok made =>
    obtain ⟨built, fresh, overlay, -, -⟩ := agree made result
    rw [fresh] at new
    refine ⟨reachable, made, rfl, overlay.stored, ?_⟩
    rw [overlay.scenes "a", old]
    exact congrArg (overlaid _) new

/-- A scene that has taken over another one's content, its name included, gets back the name it
is stored under, and may change places with the next. -/
theorem replacing_reorders_renamed_scenes :
    let script : Script :=
      { language := 0, scenes := .ofList [("a", { name := "a" }), ("b", { name := "b" })] }
    let desk := run ⟨.new none none, []⟩
      [.addScript script, .onScript 0 (.alter "a" fun scene => scene.copyContent { name := "z" })]
    let timing : Timing := { cutscenes := .ofList [("a", [])] }
    let loaded := stage none {} timing { language := 0 } true desk
    desk.Reachable ∧
      (desk.store.script? 0).map Script.keysInGroupOrder = some ["b", "a"] ∧
      loaded.result.toOption.map Script.keysInGroupOrder = some ["a", "b"] :=
  ⟨⟨none, none, _, rfl⟩, by decide +kernel, by decide +kernel⟩

end Desk

end Libretto
