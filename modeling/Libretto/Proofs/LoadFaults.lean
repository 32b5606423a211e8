import Libretto.Proofs.DecodingFaults
import Libretto.Proofs.Deliveries
import Libretto.Proofs.GroupReading
import Libretto.Proofs.TextMerging

/-! How loads fail. Of a document at fault a load tells which file it was and keeps the cause, with
a few exceptions: these come out as they are. What is done with the decoded documents fails in the
library's own words, unless it has to write a number that cannot be written. -/
namespace Libretto

def Fault.Own (fault : Fault) : Prop := fault.kind.isOwn = true

/-- A fault of the library, or a language that the fault or the journal cannot name. -/
def Fault.OwnOf (language : Int) (fault : Fault) : Prop :=
  fault.Own ∨ fault = .unwritableInteger ∧ Numeral.isWritable language = false

namespace Fault

theorem Parsing.own {fault : Fault} (parsing : fault.Parsing) : fault.Own := by
  rw [Own, parsing]
  rfl

theorem Parsing.ownOf {fault : Fault} (language : Int) (parsing : fault.Parsing) :
    fault.OwnOf language := .inl parsing.own

theorem naming_ownOf {language : Int} {fault : Fault} (own : fault.Own) :
    (naming language fault).OwnOf language := by
  unfold naming
  split
  · exact .inl own
  next huge => exact .inr ⟨rfl, Bool.eq_false_iff.mpr huge⟩

/-- The faults of a document that pass every load as they are: a text in another encoding, a path
that is none, and a number or a nesting beyond what the reader takes. -/
inductive Escapes : Fault → Prop
  | encoding (path : String) : Escapes (.file .notUtf8 path)
  | path (path : String) : Escapes (.file .nulInPath path)
  | number (digits : Nat) : Escapes (.hugeInteger digits)
  | depth (container : Json.Container) : Escapes (.deepDocument container)

theorem Escapes.foreign {fault : Fault} (escapes : fault.Escapes) :
    fault.isUnreadable = false ∧ ¬ fault.Own := by
  cases escapes <;> exact ⟨rfl, nofun⟩

end Fault

namespace FileTree
variable {files : FileTree} {path : String}

/-- What is wrong with a document is caught by the loads, or escapes them. -/
theorem document_fault {fault : Fault} (failed : files.document path = .error fault) :
    fault.isUnreadable = true ∨ fault.Escapes := by
  unfold document at failed
  cases content : files.readText path with
  | error cause =>
    rw [content] at failed
    cases failed
    cases cause
    case notUtf8 => exact .inr (.encoding path)
    case nulInPath => exact .inr (.path path)
    all_goals exact .inl rfl
  | ok text =>
    rw [content] at failed
    change readValue text = .error fault at failed
    unfold readValue at failed
    cases read : Json.read text with
    | ok value =>
      rw [read] at failed
      cases failed
    | error cause =>
      rw [read] at failed
      cases failed
      cases cause with
      | mistake mistake => exact .inl rfl
      | hugeInteger digits => exact .inr (.number digits)
      | tooDeep container => exact .inr (.depth container)

/-- A fault of the document at a path that the loads let through. -/
def LetsThrough (files : FileTree) (path : String) (fault : Fault) : Prop :=
  files.document path = .error fault ∧ fault.Escapes

end FileTree

/-- A fault of a document, as a load for a purpose tells it. -/
def Fault.toldFor (medium : Medium) (path : String) (fault : Fault) : Fault :=
  if fault.isUnreadable then .unreadable medium path fault else fault

theorem loadedDocument_error {files : FileTree} {path : String} {cause : Fault}
    (failed : files.document path = .error cause) (medium : Medium) :
    loadedDocument files medium path = .error (cause.toldFor medium path) := by
  rw [loadedDocument, failed]
  rfl

theorem loadedDocument_faults (files : FileTree) (medium : Medium) (path : String) :
    FailsAs (fun fault => fault.Own ∨ files.LetsThrough path fault)
      (loadedDocument files medium path) := by
  cases failed : files.document path with
  | ok value =>
    rw [loadedDocument, failed]
    exact .ok value
  | error fault =>
    rw [loadedDocument_error failed medium, Fault.toldFor]
    rcases FileTree.document_fault failed with caught | escapes
    · rw [if_pos caught]
      exact .error (.inl rfl)
    · rw [escapes.foreign.1, if_neg Bool.false_ne_true]
      exact .error (.inr ⟨failed, escapes⟩)

namespace Edit
variable {σ α β : Type} {property : Fault → Prop}

/-- What an edit fails with has a property, whatever state it starts from. -/
def Fails (property : Fault → Prop) (edit : Edit σ α) : Prop :=
  ∀ state, FailsAs property (edit state).result

theorem Yields.fails {edit : Edit σ α} {result : Except Fault α} (yields : edit.Yields result)
    (fails : FailsAs property result) : edit.Fails property := fun state => yields state ▸ fails

theorem Fails.pure (value : α) : (Pure.pure value : Edit σ α).Fails property := fun _ => .ok value

theorem Fails.fail {fault : Fault} (holds : property fault) :
    (fail fault : Edit σ α).Fails property := fun _ => .error holds

/-- After a fault nothing more is done. -/
theorem Fails.stop {fault : Fault} (holds : property fault) (next : α → Edit σ β) :
    ((Edit.fail fault : Edit σ α) >>= next).Fails property := fun _ => .error holds

theorem Fails.get : (Edit.get : Edit σ σ).Fails property := fun state => .ok state

theorem Fails.modify (f : σ → σ) : (Edit.modify f).Fails property := fun _ => .ok ()

theorem Fails.tell (entries : List Entry) : (Edit.tell entries : Edit σ Unit).Fails property :=
  fun _ => .ok ()

theorem Fails.bind {first : Edit σ α} {next : α → Edit σ β} (head : first.Fails property)
    (tail : ∀ value, (next value).Fails property) : (first >>= next).Fails property := by
  intro state
  rw [run_bind]
  cases result : (first state).result with
  | error fault => exact .error (head state fault result)
  | ok value => exact tail value (first state).state

theorem Fails.mono {edit : Edit σ α} {other : Fault → Prop} (fails : edit.Fails property)
    (weaker : ∀ fault, property fault → other fault) : edit.Fails other :=
  fun state => (fails state).mono weaker

theorem nameable_fails (value : Int) : (nameable value : Edit σ Unit).Fails (Fault.OwnOf value) := by
  unfold nameable
  split
  · exact .pure ()
  next huge => exact .fail (.inr ⟨rfl, Bool.eq_false_iff.mpr huge⟩)

end Edit

theorem written_faults (language : Int) (value : α) :
    FailsAs (Fault.OwnOf language) (written language value) := by
  unfold written
  split
  · exact .ok value
  next huge => exact .error (.inr ⟨rfl, Bool.eq_false_iff.mpr huge⟩)

namespace TextStore

theorem addTable_fails (group : String) (table : TextTable) :
    (addTable group table).Fails (Fault.OwnOf table.language) := by
  refine .bind .get fun store => ?_
  split
  · exact .fail (Fault.naming_ownOf rfl)
  · refine .bind (.modify fun _ => _) fun _ => .bind (Edit.nameable_fails _) fun _ => ?_
    exact .bind (.tell _) fun _ => .bind (.tell _) fun _ => .pure _

theorem merge_fails (source : TextSource) (value : Value) :
    (merge source value).Fails (Fault.OwnOf source.language) := by
  unfold merge
  dsimp only
  split
  · exact .stop (.inl rfl) _
  split
  · exact .stop (.inl rfl) _
  cases value
  case object members =>
    refine .bind ((Edit.Yields.ofExcept _).fails ?_) fun lines => .bind .get fun store => ?_
    · exact (TextTable.linesOf_parsing members).mono fun fault => Fault.Parsing.ownOf _
    · have filled (table : TextTable) : (do
          Edit.modify (·.putTable source.groupName (table.setLines lines.entries))
          Edit.nameable source.language
          Edit.log (.linesLoaded lines.size source.groupName source.language)
          return table.setLines lines.entries : Edit TextStore TextTable).Fails
            (Fault.OwnOf source.language) :=
        .bind (.modify _) fun _ => .bind (Edit.nameable_fails _) fun _ =>
          .bind (.tell _) fun _ => .pure _
      have added : (addTable source.groupName (.new source.language)).Fails
          (Fault.OwnOf source.language) := addTable_fails _ (.new source.language)
      split
      · exact .bind (.pure _) filled
      · exact .bind added filled
  all_goals exact .fail (.inl rfl)

theorem load_fails (audience : Option Audience) (files : FileTree) (source : TextSource) :
    (load audience files source).Fails fun fault =>
      fault.OwnOf source.language ∨ files.LetsThrough source.path fault := by
  unfold load
  dsimp only
  split
  · exact .stop (.inl (Fault.naming_ownOf rfl)) _
  · refine .bind (.tell _) fun _ => .bind ?_ fun value => .bind ?_ fun table =>
      .bind ?_ fun _ => .bind (.tell _) fun _ => .pure _
    · refine (loadDocument_yields audience files .text source.path).fails ?_
      exact (loadedDocument_faults files .text source.path).mono fun fault => Or.imp_left .inl
    · exact (merge_fails source value).mono fun fault => .inl
    · exact (Edit.nameable_fails _).mono fun fault => .inl

/-- A document at fault is what a load stops at. -/
theorem load_stopped (audience : Option Audience) {files : FileTree} {source : TextSource}
    {cause : Fault} (named : source.path ≠ "") (failed : files.document source.path = .error cause)
    (store : TextStore) : (load audience files source store).result =
      .error (cause.toldFor .text source.path) := by
  have there : source.path.isEmpty = false := by simpa using named
  have read := loadDocument_yields audience files .text source.path store
  rw [loadedDocument_error failed] at read
  simp [load, there, read, Edit.log]

end TextStore

/-- The files that an input is read from. -/
def ScriptSource.paths (source : ScriptSource) : List String :=
  source.dialoguePath :: source.timingPath :: (source.dialogueBase.toList ++ source.timingBase.toList)

namespace Desk
variable (dialogue : Dialogue) (timing : Timing) (source : ScriptSource)

theorem filled_faults (speakers : OrderedMap String String) (part : Part) (cues : List Cue)
    (texts : List String) (scene : Scene) :
    FailsAs Fault.Own (Staging.filled speakers part cues texts scene) := by
  unfold Staging.filled
  split
  · exact .ok _
  · exact .error rfl

theorem built_faults : FailsAs (Fault.OwnOf source.language) (built dialogue timing source) := by
  refine .bind ?_ fun _ => .bind (.mapM fun entry _ => ?_) fun _ =>
    .bind (.mapM fun entry _ => ?_) fun _ => .ok _
  · unfold admission
    split
    · exact .error (.inl rfl)
    split
    · exact .error (.inl rfl)
    · exact .ok ()
  · exact (filled_faults _ _ _ _ _).mono fun fault => .inl
  · unfold Staging.hintOf
    split
    · exact .error (Fault.naming_ownOf rfl)
    · refine .bind ((HexId.ofValue_parsing _).mono fun fault => Fault.Parsing.ownOf _) fun id => ?_
      exact (filled_faults _ _ _ _ _).mono fun fault => .inl

theorem accepted_faults (replace : Bool) (scenes : List Scene) (before : ScriptStore) :
    FailsAs (Fault.OwnOf source.language) (Staging.accepted source replace scenes before) := by
  cases free : Staging.clash source replace scenes before with
  | some scene =>
    rw [Staging.accepted_clash free]
    exact .error (Fault.naming_ownOf rfl)
  | none =>
    rw [Staging.accepted_free free]
    exact written_faults source.language _

theorem stage_fails (audience : Option Audience) (replace : Bool) :
    (stage audience dialogue timing source replace).Fails (Fault.OwnOf source.language) := by
  intro desk
  rw [stage_result]
  exact .bind (built_faults dialogue timing source) fun scenes =>
    accepted_faults source replace scenes desk.store

theorem basedDocument_faults (files : FileTree) (base : Option String) (sections : List String)
    (value : Value) : FailsAs (fun fault => fault.Own ∨ ∃ path ∈ base, files.LetsThrough path fault)
      (basedDocument files base sections value) := by
  unfold basedDocument
  split
  · exact .ok value
  split
  · exact .ok value
  next path _ =>
    refine .bind ?_ fun lower =>
      (layer_parsing sections lower value).mono fun fault parsing => .inl parsing.own
    exact (loadedDocument_faults files .subtitles path).mono fun fault =>
      .imp_right fun through => ⟨path, rfl, through⟩

theorem documents_faults (files : FileTree) :
    FailsAs (fun fault => fault.OwnOf source.language ∨
      ∃ path ∈ source.paths, files.LetsThrough path fault) (documents files source) := by
  have part (path : String) (named : path ∈ source.paths) :
      FailsAs (fun fault => fault.OwnOf source.language ∨
        ∃ path ∈ source.paths, files.LetsThrough path fault)
        (loadedDocument files .subtitles path) :=
    (loadedDocument_faults files .subtitles path).mono fun fault =>
      .imp .inl fun through => ⟨path, named, through⟩
  have based (base : Option String) (named : ∀ path ∈ base, path ∈ source.paths)
      (sections : List String) (value : Value) :
      FailsAs (fun fault => fault.OwnOf source.language ∨
        ∃ path ∈ source.paths, files.LetsThrough path fault)
        (basedDocument files base sections value) :=
    (basedDocument_faults files base sections value).mono fun fault =>
      .imp .inl fun ⟨path, here, through⟩ => ⟨path, named path here, through⟩
  unfold documents
  split
  · exact .error (.inl (Fault.naming_ownOf rfl))
  refine .bind (part _ (by simp [ScriptSource.paths])) fun dialogue => ?_
  refine .bind (part _ (by simp [ScriptSource.paths])) fun timing => ?_
  refine .bind (based _ (by simp_all [ScriptSource.paths]) _ _) fun dialogue => ?_
  refine .bind (based _ (by simp_all [ScriptSource.paths]) _ _) fun timing => ?_
  refine .bind ?_ fun _ => .bind ?_ fun _ => .ok _
  · exact (Dialogue.ofValue_parsing _).mono fun fault parsing => .inl (parsing.ownOf _)
  · exact (Timing.ofValue_parsing _).mono fun fault parsing => .inl (parsing.ownOf _)

theorem load_fails (audience : Option Audience) (files : FileTree) (replace : Bool) :
    (load audience files source replace).Fails fun fault =>
      fault.OwnOf source.language ∨ ∃ path ∈ source.paths, files.LetsThrough path fault := by
  rw [load_eq]
  refine .bind ((reading_yields audience files source).fails (documents_faults source files)) ?_
  exact fun (dialogue, timing) =>
    (stage_fails dialogue timing source audience replace).mono fun fault => .inl

/-- The dialogue is read before anything else. -/
theorem load_stopped (audience : Option Audience) {files : FileTree} {source : ScriptSource}
    {cause : Fault} (named : source.dialoguePath ≠ "" ∧ source.timingPath ≠ "")
    (failed : files.document source.dialoguePath = .error cause) (replace : Bool) (desk : Desk) :
    (load audience files source replace desk).result =
      .error (cause.toldFor .subtitles source.dialoguePath) := by
  have there : (source.dialoguePath.isEmpty || source.timingPath.isEmpty) = false := by
    simpa using named
  have read := reading_yields audience files source desk
  have stopped : documents files source =
      .error (cause.toldFor .subtitles source.dialoguePath) := by
    unfold documents
    rw [there, loadedDocument_error failed]
    rfl
  rw [load_eq, Edit.run_bind, read, stopped]

end Desk

namespace Grouping
variable {files : FileTree} {path : String}

theorem readOrder_faults (orderKey : String) (value : Value) :
    FailsAs Fault.Own (readOrder orderKey value) := by
  rw [readOrder_eq]
  split
  · exact .ok _
  · exact .error rfl

theorem Draft.read_faults (draft : Draft) (group : String) (value : Value) :
    FailsAs Fault.Own (draft.read group value) := by
  unfold read
  split
  · exact .error rfl
  · refine .map (fun fault failed => ?_) _
    obtain ⟨scene, -, other, rfl, -⟩ := readScenes_error failed
    rfl

theorem Draft.readAll_faults (orderKey : String) (members : List (String × Value)) (draft : Draft) :
    FailsAs Fault.Own (draft.readAll orderKey members) := by
  induction members generalizing draft with
  | nil => exact .ok draft
  | cons member members ih =>
    simp only [readAll]
    split
    · exact ih draft
    · exact .bind (read_faults draft member.1 member.2) ih

theorem drafted_faults (orderKey : String) (value : Value) :
    FailsAs Fault.Own (drafted orderKey value) := by
  cases value
  case object members =>
    exact .bind (readOrder_faults orderKey _) fun order => Draft.readAll_faults orderKey members _
  all_goals exact .error rfl

theorem hydrate_fails (value : Value) : (hydrate value).Fails Fault.Own := by
  intro grouping
  cases outcome : drafted grouping.orderKey value with
  | error fault =>
    rw [(hydrate_refused outcome).1]
    exact .error (drafted_faults _ _ fault outcome)
  | ok draft =>
    rw [(hydrate_drafted outcome).1]
    exact .ok ()

theorem load_eq (files : FileTree) (path : String) : load files path = (do
    Edit.log (.loadingGroups path)
    let value ← Edit.ofExcept (loadedDocument files .groups path)
    hydrate value) := by
  unfold load loadedDocument
  cases files.document path <;> rfl

theorem load_fails (files : FileTree) (path : String) :
    (load files path).Fails fun fault => fault.Own ∨ files.LetsThrough path fault := by
  rw [load_eq]
  refine .bind (.tell _) fun _ => .bind ?_ fun value => ?_
  · exact (Edit.Yields.ofExcept _).fails (loadedDocument_faults files .groups path)
  · exact (hydrate_fails value).mono fun fault => .inl

theorem load_stopped {cause : Fault} (failed : files.document path = .error cause)
    (grouping : Grouping) :
    (load files path grouping).result = .error (cause.toldFor .groups path) := by
  rw [load_eq, loadedDocument_error failed]
  rfl

end Grouping

/-- A load that fails does so in the library's own words, and of a document at fault it tells the
file and keeps the cause. The faults that escape come out as they are, and so does a language
that cannot be written. -/
theorem failed_loads_tell_their_file_or_let_faults_through (audience : Option Audience)
    (files : FileTree) :
    (∀ source : TextSource,
      ((TextStore.load audience files source).Fails fun fault =>
        fault.OwnOf source.language ∨ files.LetsThrough source.path fault) ∧
      ∀ cause, source.path ≠ "" → files.document source.path = .error cause →
        ∀ store, (TextStore.load audience files source store).result =
          .error (cause.toldFor .text source.path)) ∧
    (∀ (source : ScriptSource) (replace : Bool),
      ((Desk.load audience files source replace).Fails fun fault =>
        fault.OwnOf source.language ∨ ∃ path ∈ source.paths, files.LetsThrough path fault) ∧
      ∀ cause, source.dialoguePath ≠ "" ∧ source.timingPath ≠ "" →
        files.document source.dialoguePath = .error cause →
        ∀ desk, (Desk.load audience files source replace desk).result =
          .error (cause.toldFor .subtitles source.dialoguePath)) ∧
    (∀ path : String,
      ((Grouping.load files path).Fails fun fault => fault.Own ∨ files.LetsThrough path fault) ∧
      ∀ cause, files.document path = .error cause →
        ∀ grouping, (Grouping.load files path grouping).result =
          .error (cause.toldFor .groups path)) ∧
    ∀ path cause, files.document path = .error cause → cause.isUnreadable = true ∨ cause.Escapes :=
  ⟨fun source => ⟨TextStore.load_fails audience files source,
      fun _ named failed => TextStore.load_stopped audience named failed⟩,
    fun source replace => ⟨Desk.load_fails source audience files replace,
      fun _ named failed => Desk.load_stopped audience named failed replace⟩,
    fun path => ⟨Grouping.load_fails files path, fun _ => Grouping.load_stopped⟩,
    fun _ _ => FileTree.document_fault⟩

/-- A path that is none, and a directory in the place of a file. -/
theorem path_at_fault_escapes_and_directory_is_told :
    let files : FileTree := ⟨.ofList [(["d".toList], .directory)]⟩
    (∀ store, (TextStore.load none files { path := "\x00", language := 0 } store).result =
      .error (.file .nulInPath "\x00")) ∧
    ∀ grouping, (Grouping.load files "d" grouping).result =
      .error (.unreadable .groups "d" (.file .isDirectory "d")) := by
  intro files
  obtain ⟨texts, -, groups, -⟩ :=
    failed_loads_tell_their_file_or_let_faults_through none files
  exact ⟨(texts _).2 (.file .nulInPath "\x00") (by decide) rfl,
    (groups "d").2 (.file .isDirectory "d") rfl⟩

/-- A file in another encoding stops each load with a fault that is not the library's own. -/
theorem other_encoding_is_not_told :
    let files : FileTree := ⟨.ofList [(["a".toList], .file ⟨#[0xff]⟩)]⟩
    let fault : Fault := .file .notUtf8 "a"
    let texts : TextSource := { language := 0, path := "a" }
    let script : ScriptSource := { language := 0, dialoguePath := "a", timingPath := "a" }
    ¬ fault.Own ∧
      (TextStore.load none files texts (.new none)).result = .error fault ∧
      (Desk.load none files script false ⟨.new none none, []⟩).result = .error fault ∧
      (Grouping.load files "a" .standard).result = .error fault := by
  intro files fault texts script
  have failed : files.document "a" = .error fault := rfl
  have named : texts.path ≠ "" := by decide
  have both : script.dialoguePath ≠ "" ∧ script.timingPath ≠ "" := by decide
  have foreign : ¬ fault.Own := by
    intro own
    cases own
  exact ⟨foreign, TextStore.load_stopped none named failed _,
    Desk.load_stopped none both failed false _, Grouping.load_stopped failed _⟩

end Libretto
