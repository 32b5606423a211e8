import Libretto.Proofs.LoadAgreement
import Libretto.Setup

/-! What a list of inputs makes of a store, as a function. What an input brings, or why it
brings nothing, hangs on the files alone: the store only decides whether it takes that in. So
the inputs may be read before any of them comes in. -/
namespace Libretto

theorem Script.find?_assign (grouping : Grouping) (script : Script) (name : String) :
    (script.assign grouping).scenes.find? name = (script.scenes.find? name).map fun scene =>
      let group := grouping.groupOf scene.name
      { scene with group, groupIndex := grouping.indexOf group } :=
  OrderedMap.find?_map _ script.scenes name

/-- What a file has in it comes out again, if its lines end as lines do here. -/
theorem FileTree.document_of_text {files : FileTree} {path text : String} {value : Value}
    (holds : files.content path = .ok text.toUTF8) (plain : foldLines text.toList = text.toList)
    (reads : Json.document text.toList = .ok value) : files.document path = .ok value := by
  have decoded : String.fromUTF8? text.toUTF8 = some text := dif_pos text.isValidUTF8
  have stored : files.readText path = .ok text := by
    simp only [readText, readVerbatim, holds, bind, Except.bind, decoded, plain,
      String.ofList_toList]
  rw [document, stored]
  exact mapError_ok_iff.mpr (mapError_ok_iff.mpr reads)

theorem loadedDocument_ok_iff {files : FileTree} {medium : Medium} {path : String}
    {value : Value} :
    loadedDocument files medium path = .ok value ↔ files.document path = .ok value :=
  mapError_ok_iff

/-- Documents without bases, each decoded by itself. -/
theorem Desk.documents_of_values {files : FileTree} {source : ScriptSource}
    {texts cues : Value} {dialogue : Dialogue} {timing : Timing}
    (bare : source.dialogueBase = none ∧ source.timingBase = none)
    (named : (source.dialoguePath.isEmpty || source.timingPath.isEmpty) = false)
    (told : files.document source.dialoguePath = .ok texts)
    (timed : files.document source.timingPath = .ok cues)
    (first : Dialogue.ofValue texts = .ok dialogue) (second : Timing.ofValue cues = .ok timing) :
    documents files source = .ok (dialogue, timing) := by
  have textsRead := (@loadedDocument_ok_iff _ .subtitles _ _).mpr told
  have cuesRead := (@loadedDocument_ok_iff _ .subtitles _ _).mpr timed
  simp only [documents, named, textsRead, cuesRead, basedDocument, bare, first, second,
    Bool.false_eq_true, if_false, bind, Except.bind]
  rfl

/-- What an input brings: scenes of distinct names, and the source that they are from. -/
structure Delivery where
  source : ScriptSource
  scenes : List Scene
  distinct : (scenes.map Scene.name).Nodup

namespace ScriptStore

/-- The scenes of documents as a delivery. -/
def packed (source : ScriptSource) (dialogue : Dialogue) (timing : Timing) :
    Except Fault Delivery :=
  match done : Desk.built dialogue timing source with
  | .ok scenes => .ok ⟨source, scenes, Staging.scenesOf_distinct (Desk.built_ok done).2.2⟩
  | .error fault => .error fault

def fetched (files : FileTree) (source : ScriptSource) : Except Fault Delivery :=
  Desk.documents files source >>= fun (dialogue, timing) => packed source dialogue timing

def delivered (files : FileTree) (input : Settings ⊕ ScriptSource) : Except Fault Delivery :=
  sourceOf input >>= fetched files

/-- The store with the scenes of a delivery, none of which it may have already. -/
def receive (store : ScriptStore) (delivery : Delivery) : Except Fault ScriptStore :=
  (Staging.accepted delivery.source false delivery.scenes store).map store.putScript

/-- Inputs one after the other, up to the first that delivers nothing or is not let in. -/
def receiveAll (files : FileTree) (inputs : List (Settings ⊕ ScriptSource))
    (store : ScriptStore) : Except Fault ScriptStore :=
  inputs.foldlM (fun store input => delivered files input >>= store.receive) store

/-- The store with every scene in its group. -/
def grouped (store : ScriptStore) : ScriptStore :=
  match store.grouping with
  | none => store
  | some grouping =>
    store.mapScripts (Script.assign grouping) (Script.assign_language grouping)

theorem grouped_grouping (store : ScriptStore) : store.grouped.grouping = store.grouping := by
  unfold grouped
  split <;> rfl

theorem script?_grouped {store : ScriptStore} {grouping : Grouping}
    (known : store.grouping = some grouping) (language : Int) :
    store.grouped.script? language = (store.script? language).map (Script.assign grouping) := by
  simp only [grouped, known]
  exact OrderedMap.find?_map _ store.scripts language

/-- The store that inputs come into. -/
def blank (audience : Option Audience) (grouping : Grouping) : ScriptStore :=
  new (some grouping) (some (audience.getD defaultAudience))

/-- The grouping in a file, as far as there is a path. -/
def groupingAt (files : FileTree) (path : Option String) : Except Fault Grouping :=
  let outcome := loadGrouping files path Grouping.standard
  outcome.result.map fun _ => outcome.state

section packed
variable {source : ScriptSource} {dialogue : Dialogue} {timing : Timing}

-- `packed` keeps the equation that it matches on, so it is split and not rewritten.

theorem packed_ok {scenes : List Scene} (done : Desk.built dialogue timing source = .ok scenes) :
    ∃ distinct, packed source dialogue timing = .ok ⟨source, scenes, distinct⟩ := by
  refine ⟨Staging.scenesOf_distinct (Desk.built_ok done).2.2, ?_⟩
  unfold packed
  split
  next others same =>
    cases same.symm.trans done
    rfl
  next fault same => cases same.symm.trans done

theorem packed_error {fault : Fault} (failed : Desk.built dialogue timing source = .error fault) :
    packed source dialogue timing = .error fault := by
  unfold packed
  split
  next scenes same => cases same.symm.trans failed
  next other same =>
    cases same.symm.trans failed
    rfl

theorem packed_source {delivery : Delivery}
    (done : packed source dialogue timing = .ok delivery) : delivery.source = source := by
  unfold packed at done
  split at done <;> cases done
  rfl

theorem admitted_eq (store : ScriptStore) :
    (Desk.admitted dialogue timing source false store).map store.putScript =
      packed source dialogue timing >>= store.receive := by
  unfold Desk.admitted
  cases scenesAt : Desk.built dialogue timing source with
  | error fault =>
    rw [packed_error scenesAt]
    rfl
  | ok scenes =>
    obtain ⟨distinct, packed⟩ := packed_ok scenesAt
    rw [packed]
    rfl

end packed

section follows
variable (audience : Option Audience) (files : FileTree)

theorem stage_follows (dialogue : Dialogue) (timing : Timing) (source : ScriptSource) :
    Edit.Follows Desk.store (Desk.stage audience dialogue timing source false) fun store =>
      packed source dialogue timing >>= store.receive := by
  intro desk
  dsimp only
  rw [← admitted_eq]
  cases outcome : Desk.admitted dialogue timing source false desk.store with
  | error fault =>
    rw [Desk.stage_result, outcome]
    rfl
  | ok made =>
    obtain ⟨result, state⟩ := Desk.stage_admitted audience outcome
    rw [result, state]
    rfl

theorem load_follows (source : ScriptSource) :
    Edit.Follows Desk.store (Desk.load audience files source false) fun store =>
      fetched files source >>= store.receive := by
  have reads := Desk.reading_yields audience files source
  have spares := Desk.reading_spares audience files source
  rw [Desk.load_eq]
  simp only [fetched, bind_assoc]
  exact .after reads (fun desk => (spares desk).1) fun (dialogue, timing) =>
    stage_follows audience dialogue timing source

theorem loadAll_follows (inputs : List (Settings ⊕ ScriptSource)) :
    Edit.Follows Desk.store (loadAll audience files inputs) (receiveAll files inputs) := by
  refine .forM (fun input => ?_) inputs
  simp only [delivered, bind_assoc]
  exact .after (.ofExcept _) (fun desk => (Edit.Spares.ofExcept _ desk).1) fun source =>
    .discard (load_follows audience files source)

theorem assignGroups_follows :
    Edit.Follows Desk.store (Desk.onStore assignGroups) fun store => .ok store.grouped := by
  intro desk
  simp only [Desk.onStore, Edit.within, assignGroups, grouped, Edit.run_bind, Edit.run_get]
  cases desk.store.grouping <;> rfl

/-- The store that is set up, or the fault that is met first. -/
theorem setup_eq (groupsPath : Option String) (inputs : List (Settings ⊕ ScriptSource)) :
    let outcome := setup audience files groupsPath inputs
    outcome.result.map (fun _ => outcome.state.store) =
      groupingAt files groupsPath >>= fun grouping =>
        receiveAll files inputs (blank audience grouping) >>= fun store => .ok store.grouped := by
  let start : Desk := ⟨new none (some (audience.getD defaultAudience)), []⟩
  have filled (grouping : Grouping) : Edit.Follows Desk.store (do
      Edit.modify fun desk => { desk with store := { desk.store with grouping := some grouping } }
      loadAll (some (audience.getD defaultAudience)) files inputs
      Desk.onStore assignGroups) fun store =>
        .ok { store with grouping := some grouping } >>= fun store =>
          receiveAll files inputs store >>= fun store => .ok store.grouped :=
    .bind (fun _ => rfl) fun _ => .bind (loadAll_follows _ files inputs) fun _ =>
      assignGroups_follows
  have apart : (Edit.apart (loadGrouping files groupsPath) Grouping.standard : Edit Desk _).Yields
      (groupingAt files groupsPath) := fun _ => rfl
  exact Edit.Follows.after apart (fun _ => rfl) filled start

end follows

end ScriptStore

end Libretto
