import Libretto.Proofs.SceneStoring
import Libretto.ScriptImport

/-! What becomes of a store when scenes are staged, as functions of the store: `accepted` is the
script that results or the cause of a refusal, `left` the store that is there afterwards, and
`told` what its audience hears. All refusals come before the first scene, up to one: that the
language cannot be named is found when a change is to be told of, and by then it has been made. -/
namespace Libretto

namespace ScriptStore
variable {store : ScriptStore} {script : Script}

@[ext] theorem ext {one two : ScriptStore} (scripts : one.scripts = two.scripts)
    (grouping : one.grouping = two.grouping) (audience : one.audience = two.audience) :
    one = two := by
  cases one
  cases two
  cases scripts
  cases grouping
  cases audience
  rfl

theorem script?_putScript (store : ScriptStore) (script : Script) (language : Int) :
    (store.putScript script).script? language =
      if script.language = language then some script else store.script? language :=
  OrderedMap.find?_insert ..

theorem hasScript_putScript (store : ScriptStore) (script : Script) (language : Int) :
    (store.putScript script).hasScript language =
      (decide (script.language = language) || store.hasScript language) :=
  OrderedMap.contains_insert ..

/-- To put back what is there changes nothing. -/
theorem putScript_present (found : store.script? script.language = some script) :
    store.putScript script = store :=
  ext (OrderedMap.insert_present found) rfl rfl

theorem hasScript_eq_false_iff (store : ScriptStore) (language : Int) :
    store.hasScript language = false ↔ store.script? language = none :=
  store.scripts.contains_eq_false_iff language

/-- A script as it stands in a store: without an audience it takes the store's. -/
def heard (store : ScriptStore) (script : Script) : Script :=
  { script with audience := script.audience.or store.audience }

/-- What is told of a script that comes in, if its language can be named. -/
def noted (store : ScriptStore) (script : Script) : List Entry :=
  if Numeral.isWritable script.language then
    .log (.scriptAdded script.language) ::
      announce store.audience (.scriptAdded script.language script.size)
  else []

theorem noted_unwritable (huge : Numeral.isWritable script.language = false) :
    store.noted script = [] := if_neg (Bool.eq_false_iff.mp huge)

theorem noted_heard : store.noted (store.heard script) = store.noted script := by
  cases writable : Numeral.isWritable script.language <;>
    simp [noted, heard, Script.size, writable]

theorem addScript_present (present : store.hasScript script.language = true) :
    addScript script store =
      ⟨.error (.naming script.language (.duplicateScript script.language)), store, []⟩ := by
  simp [addScript, present]

theorem addScript_new (absent : store.hasScript script.language = false) :
    addScript script store = ⟨written script.language (store.heard script),
      store.putScript (store.heard script), store.noted script⟩ := by
  cases writable : Numeral.isWritable script.language <;>
    simp [addScript, absent, heard, noted, written, writable, Edit.log, Edit.send, Except.map,
      Script.size]

end ScriptStore

namespace Staging

/-- The script that a source gives to a language that has none. -/
def freshScript (source : ScriptSource) (audience : Option Audience) : Script :=
  { language := source.language, version := source.version, path := source.dialoguePath, audience }

/-- A script that goes by another source from now on. -/
def resourced (source : ScriptSource) (script : Script) : Script :=
  { script with version := source.version, path := source.dialoguePath }

section ground
variable (source : ScriptSource) (replace : Bool) (scenes : List Scene) (before : ScriptStore)

/-- The script that scenes come in over. -/
def ground : Script :=
  match before.script? source.language with
  | none => freshScript source before.audience
  | some script => if replace then resourced source script else script

/-- The first scene whose name is taken, where none may be replaced. -/
def clash : Option Scene :=
  if replace then none
  else scenes.find? fun scene => (ground source replace before).hasScene scene.name

/-- The script that scenes make of the one that is there, or why they are refused. -/
def accepted : Except Fault Script :=
  match clash source replace scenes before with
  | some scene => .error (.naming source.language (.duplicateScene scene.name source.language))
  | none => written source.language ((ground source replace before).overrideAll scenes)

/-- Whether no scene gets into the store: their names are taken, or they come with a new script
and the first of them cannot be told of. -/
def shut : Bool :=
  (clash source replace scenes before).isSome ||
    !Numeral.isWritable source.language && !before.hasScript source.language && !scenes.isEmpty

/-- The script with those scenes that come in. -/
def entered : Script :=
  (ground source replace before).overrideAll (Script.taken source.language scenes)

/-- The store that scenes leave, refused or not. -/
def left : ScriptStore :=
  if shut source replace scenes before then before
  else before.putScript (entered source replace scenes before)

/-- The changes that the audience hears of: of the scenes, and of the script if it is new. -/
def told : List Event :=
  if shut source replace scenes before then []
  else changes ((ground source replace before).notedAll (Script.taken source.language scenes)) ++
    if before.hasScript source.language then []
    else changes (before.noted (entered source replace scenes before))

end ground

section store
variable {source : ScriptSource} {replace : Bool} {scenes : List Scene} {before : ScriptStore}
  {old made : Script}

theorem ground_new (absent : before.script? source.language = none) :
    ground source replace before = freshScript source before.audience := by
  simp only [ground, absent]

theorem ground_old (found : before.script? source.language = some old) :
    ground source replace before = if replace then resourced source old else old := by
  simp only [ground, found]

theorem ground_language : (ground source replace before).language = source.language := by
  cases found : before.script? source.language with
  | none => rw [ground_new found]; rfl
  | some old =>
    have own : old.language = source.language := before.own source.language old found
    rw [ground_old found]
    split <;> exact own

theorem ground_hasScene (found : before.script? source.language = some old) (name : String) :
    (ground source replace before).hasScene name = old.hasScene name := by
  rw [ground_old found]
  split <;> rfl

@[simp] theorem entered_language :
    (entered source replace scenes before).language = source.language := by
  rw [entered, Script.overrideAll_language, ground_language]

/-- It makes no difference to the result that not all scenes come in. -/
theorem written_entered : written source.language (entered source replace scenes before) =
    written source.language ((ground source replace before).overrideAll scenes) := by
  cases writable : Numeral.isWritable source.language with
  | true => rw [entered, Script.taken_writable scenes writable]
  | false => rw [written_error writable, written_error writable]

theorem clash_new (absent : before.script? source.language = none) :
    clash source replace scenes before = none := by
  unfold clash
  split
  · rfl
  · rw [ground_new absent]
    exact List.find?_eq_none.mpr fun scene _ => Bool.false_ne_true

theorem accepted_clash {scene : Scene} (taken : clash source replace scenes before = some scene) :
    accepted source replace scenes before =
      .error (.naming source.language (.duplicateScene scene.name source.language)) := by
  simp only [accepted, taken]

theorem accepted_free (free : clash source replace scenes before = none) :
    accepted source replace scenes before =
      written source.language ((ground source replace before).overrideAll scenes) := by
  simp only [accepted, free]

/-- Where no scene clashes, the names are new or the scenes may be replaced. -/
theorem absent_of_clash (free : clash source false scenes before = none)
    (found : before.script? source.language = some old) :
    ∀ scene ∈ scenes, old.hasScene scene.name = false := by
  intro scene member
  have new := List.find?_eq_none.mp free scene member
  rw [ground_hasScene found] at new
  exact Bool.eq_false_iff.mpr new

theorem store_clash {scene : Scene} (taken : clash source replace scenes before = some scene) :
    store source replace scenes before =
      ⟨.error (.naming source.language (.duplicateScene scene.name source.language)), before,
        []⟩ := by
  cases found : before.script? source.language with
  | none => cases (clash_new found).symm.trans taken
  | some old =>
    unfold clash at taken
    cases replace with
    | true => cases taken
    | false =>
      simp only [Bool.false_eq_true, if_false, ground_hasScene found] at taken
      simp [store, found, taken]

/-- Scenes over those of a script that is there. -/
theorem store_old (found : before.script? source.language = some old)
    (distinct : (scenes.map Scene.name).Nodup)
    (free : clash source replace scenes before = none) :
    let made := entered source replace scenes before
    store source replace scenes before =
      ⟨(Script.ending source.language scenes).map fun _ => made, before.putScript made,
        (ground source replace before).notedAll (Script.taken source.language scenes)⟩ := by
  intro made
  have own : old.language = source.language := before.own source.language old found
  simp only [made, entered, ground_old found]
  cases replace with
  | true =>
    have updated := Script.updateScenes_outcome (resourced source old) scenes
    have language : (resourced source old).language = source.language := own
    rw [language] at updated
    simp only [store, Edit.run_bind, Edit.run_get, found, if_true, ScriptStore.amend, Edit.within,
      Edit.run_modify]
    change Outcome.mk _ _ _ = _
    simp only [resourced] at updated ⊢
    cases ends : Script.ending source.language scenes <;> simp [updated, ends, Except.map]
  | false =>
    have absent := absent_of_clash free found
    have added := Script.addScenes_outcome old scenes distinct absent
    have none : scenes.find? (fun scene => old.hasScene scene.name) = none :=
      List.find?_eq_none.mpr fun scene member => Bool.eq_false_iff.mp (absent scene member)
    rw [own] at added
    simp only [store, Edit.run_bind, Edit.run_get, found, Bool.false_eq_true, if_false, none,
      ScriptStore.amend, Edit.within, added]
    cases Script.ending source.language scenes <;> simp [Except.map]

/-- Scenes with the first script of their language. -/
theorem store_new (absent : before.script? source.language = none)
    (distinct : (scenes.map Scene.name).Nodup) :
    let made := entered source replace scenes before
    let noted := (ground source replace before).notedAll (Script.taken source.language scenes)
    store source replace scenes before = match Script.ending source.language scenes with
      | .ok _ =>
        ⟨written source.language made, before.putScript made, noted ++ before.noted made⟩
      | .error fault => ⟨.error fault, before, noted⟩ := by
  intro made noted
  have added := Script.addScenes_outcome (freshScript source before.audience) scenes distinct
    fun _ _ => rfl
  have language : made.language = source.language := entered_language
  have listeners : before.heard made = made := by
    have same : made.audience = before.audience := by
      simp only [made, entered, ground_new absent, Script.overrideAll_audience]
      rfl
    rw [ScriptStore.heard, same, Option.or_self, ← same]
  have unknown : before.hasScript made.language = false := by
    rw [language]
    exact (before.hasScript_eq_false_iff source.language).mpr absent
  have registered := ScriptStore.addScript_new unknown
  rw [listeners, language] at registered
  simp only [noted, made, entered, ground_new absent] at registered ⊢
  simp only [store, Edit.run_bind, Edit.run_get, absent, Edit.apart, List.nil_append]
  simp only [freshScript] at added registered ⊢
  rw [added]
  cases Script.ending source.language scenes with
  | error fault => simp only [Except.map]
  | ok done => simp only [Except.map, registered]

theorem shut_clash {scene : Scene} (taken : clash source replace scenes before = some scene) :
    shut source replace scenes before = true := by
  simp [shut, taken]

theorem shut_old (found : before.script? source.language = some old)
    (free : clash source replace scenes before = none) :
    shut source replace scenes before = false := by
  have known : before.hasScript source.language = true := Option.isSome_iff_exists.mpr ⟨old, found⟩
  simp [shut, free, known]

theorem shut_new (absent : before.script? source.language = none) :
    shut source replace scenes before = !(Script.ending source.language scenes).toBool := by
  have unknown := (before.hasScript_eq_false_iff source.language).mpr absent
  unfold shut Script.ending written
  rw [clash_new absent, unknown]
  cases Numeral.isWritable source.language <;> cases scenes.isEmpty <;> rfl

theorem accepted_ok (done : accepted source replace scenes before = .ok made) :
    Numeral.isWritable source.language = true ∧ clash source replace scenes before = none ∧
      made = (ground source replace before).overrideAll scenes := by
  cases free : clash source replace scenes before with
  | some scene => cases (accepted_clash free).symm.trans done
  | none =>
    rw [accepted_free free] at done
    obtain ⟨writable, rfl⟩ := written_eq_ok done
    exact ⟨writable, rfl, rfl⟩

/-- What comes of scenes once their language is named, what they leave, and what is told. -/
theorem store_outcome (distinct : (scenes.map Scene.name).Nodup) :
    let outcome := store source replace scenes before
    outcome.result.bind (written source.language) = accepted source replace scenes before ∧
      outcome.state = left source replace scenes before ∧
      changes outcome.journal = told source replace scenes before := by
  unfold left told
  cases free : clash source replace scenes before with
  | some scene =>
    rw [store_clash free, accepted_clash free, shut_clash free]
    exact ⟨rfl, rfl, rfl⟩
  | none =>
    rw [accepted_free free, ← written_entered]
    cases found : before.script? source.language with
    | some old =>
      have known : before.hasScript source.language = true :=
        Option.isSome_iff_exists.mpr ⟨old, found⟩
      rw [store_old found distinct free, shut_old found free, known]
      simp only [Script.ending_written, Bool.false_eq_true, if_false, if_true, List.append_nil,
        and_self]
    | none =>
      have unknown := (before.hasScript_eq_false_iff source.language).mpr found
      rw [store_new found distinct, shut_new found, unknown]
      cases ends : Script.ending source.language scenes with
      | ok done => simp [written_written, Except.toBool]
      | error fault =>
        obtain ⟨huge, rfl⟩ := Script.ending_error ends
        have language : (ground source replace before).language = source.language := ground_language
        simp [written_error huge, Script.notedAll_unwritable _ (language ▸ huge), Except.bind,
          Except.toBool]

/-- In a language that can be written all refusals come first. -/
theorem shut_writable (writable : Numeral.isWritable source.language = true) :
    shut source replace scenes before = (clash source replace scenes before).isSome := by
  simp [shut, writable]

theorem left_accepted (done : accepted source replace scenes before = .ok made) :
    left source replace scenes before = before.putScript made := by
  obtain ⟨writable, free, rfl⟩ := accepted_ok done
  rw [left, shut_writable writable, free, entered, Script.taken_writable _ writable]
  rfl

theorem left_refused {fault : Fault} (writable : Numeral.isWritable source.language = true)
    (refused : accepted source replace scenes before = .error fault) :
    left source replace scenes before = before := by
  cases free : clash source replace scenes before with
  | some scene => rw [left, shut_clash free, if_pos rfl]
  | none =>
    rw [accepted_free free, written_ok writable] at refused
    cases refused

theorem accepted_unwritable (huge : Numeral.isWritable source.language = false) :
    accepted source replace scenes before = .error .unwritableInteger := by
  cases free : clash source replace scenes before with
  | none => rw [accepted_free free, written_error huge]
  | some scene =>
    rw [accepted_clash free, Fault.naming, huge, if_neg Bool.false_ne_true]

theorem told_unwritable (huge : Numeral.isWritable source.language = false) :
    told source replace scenes before = [] := by
  have language : (ground source replace before).language = source.language := ground_language
  rw [told, Script.notedAll_unwritable _ (language ▸ huge),
    ScriptStore.noted_unwritable (entered_language ▸ huge)]
  simp

/-- What fails is not announced, whatever it leaves. -/
theorem told_refused {fault : Fault}
    (refused : accepted source replace scenes before = .error fault) :
    told source replace scenes before = [] := by
  cases writable : Numeral.isWritable source.language with
  | false => exact told_unwritable writable
  | true =>
    cases free : clash source replace scenes before with
    | some scene => rw [told, shut_clash free, if_pos rfl]
    | none =>
      rw [accepted_free free, written_ok writable] at refused
      cases refused

end store

end Staging

namespace Desk

/-- What a source has to be before its documents are looked at. -/
def admission (source : ScriptSource) : Except Fault Unit :=
  if source.format ≠ .json then .error (.unsupportedScript source)
  else if source.language < 0 then .error (.noScriptLanguage source)
  else .ok ()

/-- Staging up to the point where the store comes into it. -/
def prepared (audience : Option Audience) (dialogue : Dialogue) (timing : Timing)
    (source : ScriptSource) : Edit Desk (List Scene) := do
  Edit.ofExcept (admission source)
  Staging.reportUntimed audience .cutscene dialogue.cutscenes.keys timing.cutscenes.keys
  Staging.reportUntimed audience .hint dialogue.hints.keys timing.hints.keys
  onReported (Staging.scenes audience dialogue timing source.language)

/-- Staging from there on. -/
def concluded (audience : Option Audience) (source : ScriptSource) (replace : Bool)
    (scenes : List Scene) : Edit Desk Script := do
  let script ← onStore (Staging.store source replace scenes)
  Edit.nameable source.language
  Edit.report audience (.scenesLoaded scenes.length source.language)
  return script

/-- The scenes that documents and source make, whatever there is already. -/
def built (dialogue : Dialogue) (timing : Timing) (source : ScriptSource) :
    Except Fault (List Scene) := do
  admission source
  Staging.scenesOf dialogue timing source.language

/-- The script that staging makes of a store, or why it is refused. -/
def admitted (dialogue : Dialogue) (timing : Timing) (source : ScriptSource) (replace : Bool)
    (before : ScriptStore) : Except Fault Script := do
  let scenes ← built dialogue timing source
  Staging.accepted source replace scenes before

/-- The store that staging leaves. -/
def leaving (dialogue : Dialogue) (timing : Timing) (source : ScriptSource) (replace : Bool)
    (before : ScriptStore) : ScriptStore :=
  match built dialogue timing source with
  | .ok scenes => Staging.left source replace scenes before
  | .error _ => before

/-- The changes that staging announces. -/
def telling (dialogue : Dialogue) (timing : Timing) (source : ScriptSource) (replace : Bool)
    (before : ScriptStore) : List Event :=
  match built dialogue timing source with
  | .ok scenes => Staging.told source replace scenes before
  | .error _ => []

variable (audience : Option Audience) (dialogue : Dialogue) (timing : Timing)
  (source : ScriptSource) (replace : Bool)

theorem stage_eq : stage audience dialogue timing source replace =
    prepared audience dialogue timing source >>= concluded audience source replace := by
  unfold stage prepared admission
  by_cases format : source.format = .json
  · by_cases language : source.language < 0
    · simp only [format, language, ne_eq, not_true_eq_false, if_true, if_false]
      rfl
    · simp only [format, language, ne_eq, not_true_eq_false, if_false, bind_assoc]
      rfl
  · simp only [format, ne_eq, not_false_eq_true, if_true]
    rfl

theorem prepared_yields :
    (prepared audience dialogue timing source).Yields (built dialogue timing source) := by
  refine .bind (.ofExcept _) fun _ => ?_
  refine .bind_ok (Staging.reportUntimed_yields _ _ _) ?_
  refine .bind_ok (Staging.reportUntimed_yields _ _ _) ?_
  exact .within (Staging.scenes_yields dialogue timing source.language)

theorem prepared_spares : (prepared audience dialogue timing source).Spares Desk.store := by
  refine .bind (.ofExcept _) fun _ => ?_
  refine .bind (Staging.reportUntimed_spares _ _ _) fun _ => ?_
  refine .bind (Staging.reportUntimed_spares _ _ _) fun _ => ?_
  exact .within (fun _ _ => rfl) (Staging.scenes_spares dialogue timing source.language)

variable {dialogue timing source replace} {desk : Desk}

theorem built_json (json : source.format = .json) (natural : 0 ≤ source.language)
    (dialogue : Dialogue) (timing : Timing) :
    built dialogue timing source = Staging.scenesOf dialogue timing source.language := by
  simp only [built, admission, json, ne_eq, not_true_eq_false, if_false, Int.not_lt.mpr natural]
  rfl

theorem built_ok {scenes : List Scene} (done : built dialogue timing source = .ok scenes) :
    source.format = .json ∧ 0 ≤ source.language ∧
      Staging.scenesOf dialogue timing source.language = .ok scenes := by
  unfold built admission at done
  by_cases format : source.format = .json
  · by_cases language : source.language < 0
    · simp [format, language, bind, Except.bind] at done
    · simp only [format, language, ne_eq, not_true_eq_false, if_false, bind, Except.bind] at done
      exact ⟨format, Int.not_lt.mp language, done⟩
  · simp [format, bind, Except.bind] at done

section built
variable {before : ScriptStore} {scenes : List Scene}

/-- Once scenes have been built the store decides. -/
theorem admitted_built (builds : built dialogue timing source = .ok scenes) :
    admitted dialogue timing source replace before =
      Staging.accepted source replace scenes before := by
  rw [admitted, builds]
  rfl

theorem leaving_built (builds : built dialogue timing source = .ok scenes) :
    leaving dialogue timing source replace before =
      Staging.left source replace scenes before := by
  simp only [leaving, builds]

theorem telling_built (builds : built dialogue timing source = .ok scenes) :
    telling dialogue timing source replace before =
      Staging.told source replace scenes before := by
  simp only [telling, builds]

theorem admitted_ok {made : Script}
    (done : admitted dialogue timing source replace before = .ok made) :
    ∃ scenes, built dialogue timing source = .ok scenes ∧
      Staging.accepted source replace scenes before = .ok made := by
  cases builds : built dialogue timing source with
  | error fault =>
    rw [admitted, builds] at done
    cases done
  | ok scenes => exact ⟨scenes, rfl, (admitted_built builds).symm.trans done⟩

end built

/-- After the store only the report is left, which names the language. -/
theorem concluded_outcome {scenes : List Scene} (distinct : (scenes.map Scene.name).Nodup) :
    let outcome := concluded audience source replace scenes desk
    outcome.result = Staging.accepted source replace scenes desk.store ∧
      outcome.state.store = Staging.left source replace scenes desk.store ∧
      changes outcome.journal = Staging.told source replace scenes desk.store := by
  obtain ⟨result, state, journal⟩ := @Staging.store_outcome source replace scenes desk.store distinct
  rw [← result, ← state, ← journal]
  simp only [concluded, onStore, Edit.run_bind, Edit.within, Edit.run_nameable]
  cases stored : (Staging.store source replace scenes desk.store).result with
  | error fault => exact ⟨rfl, rfl, rfl⟩
  | ok made =>
    cases writable : Numeral.isWritable source.language with
    | true => simp [written_ok writable, Except.bind, Edit.report]
    | false => simp [written_error writable, Except.bind]

theorem stage_outcome :
    let outcome := stage audience dialogue timing source replace desk
    outcome.result = admitted dialogue timing source replace desk.store ∧
      outcome.state.store = leaving dialogue timing source replace desk.store ∧
      changes outcome.journal = telling dialogue timing source replace desk.store := by
  have result := prepared_yields audience dialogue timing source desk
  obtain ⟨kept, silent⟩ := prepared_spares audience dialogue timing source desk
  simp only [stage_eq, Edit.run_bind, result]
  cases builds : built dialogue timing source with
  | error fault =>
    rw [admitted, leaving, telling, builds]
    exact ⟨rfl, kept, silent⟩
  | ok scenes =>
    have distinct := Staging.scenesOf_distinct (built_ok builds).2.2
    rw [admitted_built builds, leaving_built builds, telling_built builds]
    have outcome := @concluded_outcome audience source replace
      (prepared audience dialogue timing source desk).state scenes distinct
    rw [kept] at outcome
    simp only [changes_append, silent, List.nil_append]
    exact outcome

/-- Who listens and what has been reported have no part in the result. -/
theorem stage_result : (stage audience dialogue timing source replace desk).result =
    admitted dialogue timing source replace desk.store := (stage_outcome audience).1

theorem stage_store : (stage audience dialogue timing source replace desk).state.store =
    leaving dialogue timing source replace desk.store := (stage_outcome audience).2.1

theorem stage_told : changes (stage audience dialogue timing source replace desk).journal =
    telling dialogue timing source replace desk.store := (stage_outcome audience).2.2

theorem stage_admitted {made : Script}
    (done : admitted dialogue timing source replace desk.store = .ok made) :
    (stage audience dialogue timing source replace desk).result = .ok made ∧
      (stage audience dialogue timing source replace desk).state.store =
        desk.store.putScript made := by
  refine ⟨(stage_result audience).trans done, (stage_store audience).trans ?_⟩
  obtain ⟨scenes, builds, accepted⟩ := admitted_ok done
  rw [leaving_built builds]
  exact Staging.left_accepted accepted

end Desk

end Libretto
