import Libretto.Proofs.StagedScripts

/-! Failing loads of subtitles. Reading, decoding and building only report, so a fault in them
leaves the store as it was. From the first change on nothing fails but the naming of a language
that cannot be written; what has been changed by then stays, and nobody is told. -/
namespace Libretto

/-- A document for a purpose, whoever hears of it. -/
def loadedDocument (files : FileTree) (medium : Medium) (path : String) : Except Fault Value :=
  (files.document path).mapError fun fault =>
    if fault.isUnreadable then .unreadable medium path fault else fault

theorem loadDocument_yields (audience : Option Audience) (files : FileTree) (medium : Medium)
    (path : String) : (loadDocument audience files medium path : Edit σ Value).Yields
      (loadedDocument files medium path) := by
  unfold loadDocument loadedDocument
  cases files.document path with
  | ok value => exact .pure value
  | error fault =>
    have told (f : Fault → Fault) :
        (Except.error fault : Except Fault Value).mapError f = .error (f fault) := rfl
    rw [told]
    dsimp only
    split
    · exact .bind_ok (.report _ _) (.fail _)
    · exact .fail _

theorem loadDocument_spares {view : σ → υ} (audience : Option Audience) (files : FileTree)
    (medium : Medium) (path : String) :
    (loadDocument audience files medium path : Edit σ Value).Spares view := by
  unfold loadDocument
  split
  · exact .pure _
  · split
    · exact .bind (.report _ _) fun _ => .fail _
    · exact .fail _

namespace Desk

/-- A document laid over its base, whoever hears of it. -/
def basedDocument (files : FileTree) (base : Option String) (sections : List String)
    (value : Value) : Except Fault Value :=
  match base with
  | none => .ok value
  | some path =>
    if path.isEmpty then .ok value
    else loadedDocument files .subtitles path >>= fun lower => layer sections lower value

/-- The documents of a source. -/
def documents (files : FileTree) (source : ScriptSource) : Except Fault (Dialogue × Timing) := do
  if source.dialoguePath.isEmpty || source.timingPath.isEmpty then
    .error (Fault.naming source.language (.noScriptPaths source))
  let dialogue ← loadedDocument files .subtitles source.dialoguePath
  let timing ← loadedDocument files .subtitles source.timingPath
  let dialogue ← basedDocument files source.dialogueBase dialogueSections dialogue
  let timing ← basedDocument files source.timingBase timingSections timing
  return (← Dialogue.ofValue dialogue, ← Timing.ofValue timing)

section documents
variable (audience : Option Audience) (files : FileTree) (source : ScriptSource) (replace : Bool)

theorem readPart_yields (path : String) :
    (readPart audience files path).Yields (loadedDocument files .subtitles path) :=
  .bind_ok (fun _ => rfl) (loadDocument_yields audience files .subtitles path)

theorem overBase_yields (base : Option String) (sections : List String) (value : Value) :
    (overBase audience files base sections value).Yields
      (basedDocument files base sections value) := by
  unfold overBase basedDocument
  cases base with
  | none => exact .pure value
  | some path =>
    dsimp only
    split
    · exact .pure value
    · exact .bind (readPart_yields audience files path) fun _ => .ofExcept _

theorem readPart_spares (path : String) :
    (readPart audience files path).Spares Desk.store :=
  .bind (.log _) fun _ => loadDocument_spares audience files .subtitles path

theorem overBase_spares (base : Option String) (sections : List String) (value : Value) :
    (overBase audience files base sections value).Spares Desk.store := by
  unfold overBase
  cases base with
  | none => exact .pure _
  | some path =>
    dsimp only
    split
    · exact .pure _
    · exact .bind (readPart_spares audience files path) fun _ => .ofExcept _

/-- Loading up to the point where the documents have been decoded. -/
def reading : Edit Desk (Dialogue × Timing) := do
  if source.dialoguePath.isEmpty || source.timingPath.isEmpty then
    Edit.fail (Fault.naming source.language (.noScriptPaths source))
  let dialogue ← readPart audience files source.dialoguePath
  let timing ← readPart audience files source.timingPath
  let dialogue ← overBase audience files source.dialogueBase dialogueSections dialogue
  let timing ← overBase audience files source.timingBase timingSections timing
  return (← Edit.ofExcept (Dialogue.ofValue dialogue), ← Edit.ofExcept (Timing.ofValue timing))

theorem load_eq : load audience files source replace = (do
    let (dialogue, timing) ← reading audience files source
    stage audience dialogue timing source replace) := by
  unfold load reading
  split
  · rfl
  · simp only [bind_assoc, pure_bind]

theorem reading_yields : (reading audience files source).Yields (documents files source) := by
  unfold reading documents
  split
  · exact fun _ => rfl
  · refine .bind (readPart_yields audience files _) fun dialogue => ?_
    refine .bind (readPart_yields audience files _) fun timing => ?_
    refine .bind (overBase_yields audience files _ _ dialogue) fun dialogue => ?_
    refine .bind (overBase_yields audience files _ _ timing) fun timing => ?_
    exact .bind (.ofExcept _) fun _ => .bind (.ofExcept _) fun _ => .pure _

theorem reading_spares : (reading audience files source).Spares Desk.store := by
  unfold reading
  split
  · exact fun _ => ⟨rfl, rfl⟩
  · refine .bind (readPart_spares audience files _) fun dialogue => ?_
    refine .bind (readPart_spares audience files _) fun timing => ?_
    refine .bind (overBase_spares audience files _ _ dialogue) fun dialogue => ?_
    refine .bind (overBase_spares audience files _ _ timing) fun timing => ?_
    exact .bind (.ofExcept _) fun _ => .bind (.ofExcept _) fun _ => .pure _

end documents

/-- Staging of documents that have still to be decoded. -/
def stageValues (audience : Option Audience) (dialogue timing : Value) (source : ScriptSource)
    (replace : Bool) : Edit Desk Script := do
  let dialogue ← Edit.ofExcept (Dialogue.ofValue dialogue)
  let timing ← Edit.ofExcept (Timing.ofValue timing)
  stage audience dialogue timing source replace

/-- What scenes leave in a store when their language cannot be named: a script that is there gets
the first of them, after the source if they may replace its own; an empty script comes in, and one
with scenes does not. -/
def Unnamed (source : ScriptSource) (replace : Bool) (made : Except Fault (List Scene))
    (before : ScriptStore) (fault : Fault) (after : ScriptStore) : Prop :=
  Numeral.isWritable source.language = false ∧ fault = .unwritableInteger ∧
    ∃ scenes, made = .ok scenes ∧ after = Staging.left source replace scenes before

section failing
variable (audience : Option Audience) (source : ScriptSource) (replace : Bool)

theorem stage_failsLeaving (dialogue : Dialogue) (timing : Timing) :
    (stage audience dialogue timing source replace).FailsLeaving Desk.store
      (Unnamed source replace (built dialogue timing source)) := by
  intro desk fault failed
  rw [stage_result] at failed
  rw [stage_told, stage_store]
  cases builds : built dialogue timing source with
  | error own =>
    rw [telling, leaving, builds]
    exact ⟨rfl, .inl rfl⟩
  | ok scenes =>
    rw [admitted_built builds] at failed
    rw [telling_built builds, leaving_built builds]
    refine ⟨Staging.told_refused failed, ?_⟩
    cases writable : Numeral.isWritable source.language with
    | true => exact .inl (Staging.left_refused writable failed)
    | false =>
      cases (Staging.accepted_unwritable writable).symm.trans failed
      exact .inr ⟨writable, rfl, scenes, rfl, rfl⟩

theorem stageValues_failsLeaving (dialogue timing : Value) :
    (stageValues audience dialogue timing source replace).FailsLeaving Desk.store
      (Unnamed source replace (do
        built (← Dialogue.ofValue dialogue) (← Timing.ofValue timing) source)) := by
  refine .after (.ofExcept _) (.ofExcept _) fun dialogue told => ?_
  refine .after (.ofExcept _) (.ofExcept _) fun timing timed => ?_
  rw [told, timed]
  exact stage_failsLeaving audience source replace dialogue timing

theorem load_failsLeaving (files : FileTree) :
    (load audience files source replace).FailsLeaving Desk.store
      (Unnamed source replace (do
        let (dialogue, timing) ← documents files source
        built dialogue timing source)) := by
  rw [load_eq]
  refine .after (reading_yields audience files source) (reading_spares audience files source)
    fun (dialogue, timing) read => ?_
  rw [read]
  exact stage_failsLeaving audience source replace dialogue timing

/-- Empty documents for a language that has no script and cannot be written. -/
theorem stage_empty_unwritable {source : ScriptSource} {desk : Desk}
    (huge : Numeral.isWritable source.language = false) (json : source.format = .json)
    (natural : 0 ≤ source.language) (absent : desk.store.script? source.language = none) :
    let outcome := stage audience {} {} source replace desk
    outcome.result = .error .unwritableInteger ∧
      outcome.state.store.hasScript source.language = true ∧ changes outcome.journal = [] := by
  have nothing : built {} {} source = .ok [] := built_json json natural _ _
  have room : Staging.shut source replace [] desk.store = false := by
    rw [Staging.shut_new absent]
    rfl
  refine ⟨?_, ?_, ?_⟩
  · rw [stage_result, admitted_built nothing, Staging.accepted_unwritable huge]
  · rw [stage_store, leaving_built nothing, Staging.left, room, if_neg Bool.false_ne_true,
      ScriptStore.hasScript_putScript, Staging.entered_language]
    simp
  · rw [stage_told, telling_built nothing, Staging.told_unwritable huge]

/-- A failing load tells of no script or scene that was added or replaced. It leaves every script,
its scenes and the grouping as they were, unless all that is wrong is that its language cannot be
written: then it has begun to store. This holds of documents in hand, decoded or not, and of any
files. -/
theorem failed_loading_changes_nothing_or_cannot_name_its_language :
    (∀ dialogue timing, (stage audience dialogue timing source replace).FailsLeaving Desk.store
      (Unnamed source replace (built dialogue timing source))) ∧
    (∀ dialogue timing,
      (stageValues audience dialogue timing source replace).FailsLeaving Desk.store
        (Unnamed source replace (do
          built (← Dialogue.ofValue dialogue) (← Timing.ofValue timing) source))) ∧
    ∀ files, (load audience files source replace).FailsLeaving Desk.store
      (Unnamed source replace (do
        let (dialogue, timing) ← documents files source
        built dialogue timing source)) :=
  ⟨stage_failsLeaving audience source replace, stageValues_failsLeaving audience source replace,
    load_failsLeaving audience source replace⟩

/-- Empty documents for a language that cannot be written leave a script behind, of which nobody
is told. -/
theorem unwritable_language_leaves_a_script :
    let source : ScriptSource := { language := Nat.pow 10 Numeral.decimalLimit }
    let desk : Desk := ⟨.new none none, []⟩
    let outcome := stage none {} {} source false desk
    outcome.result = .error .unwritableInteger ∧ desk.store.hasScript source.language = false ∧
      outcome.state.store.hasScript source.language = true := by
  intro source desk outcome
  have huge : Numeral.isWritable source.language = false := Numeral.isWritable_bound
  have spoken : 0 ≤ source.language := Int.natCast_nonneg _
  obtain ⟨fails, there, -⟩ := stage_empty_unwritable none false huge rfl spoken
    (show desk.store.script? source.language = none from rfl)
  simp only [outcome]
  exact ⟨fails, rfl, there⟩

end failing

end Desk

end Libretto
