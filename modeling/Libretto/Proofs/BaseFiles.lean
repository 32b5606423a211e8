import Libretto.Proofs.Deliveries
import Libretto.Proofs.SectionOrder

/-! Base files fill gaps and do nothing else. An entry of a base counts only under a key that
the document of the language does not list in that section, so two bases that have the same
entries under all other keys are as good as each other, whatever else they hold. -/
namespace Libretto

namespace Entries
variable {ν : Type}

theorem find?_graph (f : String → ν) {key : String} {keys : List String} (there : key ∈ keys) :
    find? key (keys.map fun key => (key, f key)) = some (f key) := by
  induction keys with
  | nil => cases there
  | cons first keys ih =>
    by_cases same : first = key
    · simp [find?, same]
    · have later : key ∈ keys := (List.mem_cons.mp there).resolve_left (Ne.symm same)
      simpa only [List.map_cons, find?, same, if_false] using ih later

/-- Entries over others. -/
theorem find?_layered {lower upper : List (String × ν)} (below : (lower.map Prod.fst).Nodup)
    (above : (upper.map Prod.fst).Nodup) (key : String) :
    find? key ((OrderedMap.ofList lower).extend upper).entries =
      (find? key upper).or (find? key lower) := by
  have found := OrderedMap.find?_extend_entries (OrderedMap.ofList lower) ⟨upper, above⟩ key
  rwa [OrderedMap.find?, OrderedMap.find?, OrderedMap.find?,
    OrderedMap.entries_ofList lower below] at found

/-- Entries in which the same is found, in some order. -/
theorem perm_of_find? {a b : List (String × ν)} (first : (a.map Prod.fst).Nodup)
    (second : (b.map Prod.fst).Nodup) (same : ∀ key, find? key a = find? key b) : a.Perm b :=
  OrderedMap.entries_perm (a := ⟨a, first⟩) (b := ⟨b, second⟩) same

end Entries

/-- Two values that are made first and decoded then, as if each were decoded at once. -/
theorem interleaved_ok_iff {ε α β γ δ : Type} {first : Except ε α} {second : Except ε β}
    {f : α → Except ε γ} {g : β → Except ε δ} {result : γ × δ} :
    (do
      let x ← first
      let y ← second
      return (← f x, ← g y)) = Except.ok result ↔
      (first >>= f) = .ok result.1 ∧ (second >>= g) = .ok result.2 := by
  constructor
  · intro done
    obtain ⟨x, begun, done⟩ := bind_ok done
    obtain ⟨y, ended, done⟩ := bind_ok done
    obtain ⟨u, one, done⟩ := bind_ok done
    obtain ⟨v, two, done⟩ := bind_ok done
    cases done
    rw [begun, ended]
    exact ⟨one, two⟩
  · rintro ⟨one, two⟩
    obtain ⟨x, begun, one⟩ := bind_ok one
    obtain ⟨y, ended, two⟩ := bind_ok two
    simp only [begun, ended, one, two, bind, Except.bind]
    rfl

theorem Agree.interleaved {ε α β γ δ ρ τ : Type} {first other : Except ε α} {second more : Except ε β}
    {f : α → Except ε γ} {g : β → Except ε δ} {u : α → Except ε ρ} {v : β → Except ε τ}
    {left : γ → ρ → Prop} {right : δ → τ → Prop}
    (one : Agree left (first >>= f) (other >>= u)) (two : Agree right (second >>= g) (more >>= v)) :
    Agree (fun p q => left p.1 q.1 ∧ right p.2 q.2)
      (do
        let x ← first
        let y ← second
        return (← f x, ← g y))
      (do
        let x ← other
        let y ← more
        return (← u x, ← v y)) := by
  refine .of_ok (fun both done => ?_) fun both done => ?_
  · obtain ⟨begun, ended⟩ := interleaved_ok_iff.mp done
    obtain ⟨x, there, same⟩ := one.follow begun
    obtain ⟨y, also, alike⟩ := two.follow ended
    exact ⟨(x, y), interleaved_ok_iff.mpr ⟨there, also⟩, same, alike⟩
  · obtain ⟨begun, ended⟩ := interleaved_ok_iff.mp done
    obtain ⟨x, there, -⟩ := one.followBack begun
    obtain ⟨y, also, -⟩ := two.followBack ended
    exact ⟨(x, y), interleaved_ok_iff.mpr ⟨there, also⟩⟩

theorem sectionOf_distinct {value : Value} (decoded : value.Decoded) (name : String) :
    ((sectionOf value name).map Prod.fst).Nodup := by
  unfold sectionOf
  cases found : value.member? name with
  | none => exact .nil
  | some member =>
    have own := decoded.member found
    cases member with
    | object members => exact own.distinct
    | _ => exact .nil

section layers
variable {sections : List String} {lower value layered : Value}

theorem layer_sectioned (done : layer sections lower value = .ok layered) :
    Sectioned sections lower ∧ Sectioned sections value := by
  unfold layer at done
  split at done
  next below above =>
    obtain ⟨members, each, -⟩ := bind_ok done
    have both (name : String) (there : name ∈ sections) :
        (((Value.object below).member? name).getD (.object []) =
          .object (sectionOf (.object below) name)) ∧
        ((Value.object above).member? name).getD (.object []) =
          .object (sectionOf (.object above) name) := by
      obtain ⟨entry, -, made⟩ := mapM_ok_each each name there
      unfold layerSection at made
      unfold sectionOf
      split at made
      next first second => simp only [first, second, and_self]
      next => cases made
    exact ⟨⟨⟨below, rfl⟩, fun name there => (both name there).1⟩,
      ⟨⟨above, rfl⟩, fun name there => (both name there).2⟩⟩
  next => cases done

/-- A document that has, in each section, its own entries and those of its base under other keys. -/
structure Filled (sections : List String) (lower value layered : Value) : Prop where
  sectioned : Sectioned sections layered
  distinct : ∀ name ∈ sections, ((sectionOf layered name).map Prod.fst).Nodup
  found : ∀ name ∈ sections, ∀ key, Entries.find? key (sectionOf layered name) =
    (Entries.find? key (sectionOf value name)).or (Entries.find? key (sectionOf lower name))

theorem layer_filled (below : lower.Decoded) (above : value.Decoded)
    (first : Sectioned sections lower) (second : Sectioned sections value) :
    ∃ layered, layer sections lower value = .ok layered ∧
      Filled sections lower value layered := by
  let entries (name : String) : OrderedMap String Value :=
    (OrderedMap.ofList (sectionOf lower name)).extend (sectionOf value name)
  let members := sections.map fun name => (name, Value.object (entries name).entries)
  have each : sections.mapM (layerSection lower value) = .ok members := by
    refine mapM_ok_of_each fun name there => ?_
    rw [layerSection, first.parts name there, second.parts name there]
  have own {name : String} (there : name ∈ sections) : (Value.object members).member? name =
      some (.object (entries name).entries) :=
    Entries.find?_graph _ there
  have part {name : String} (there : name ∈ sections) :
      sectionOf (.object members) name = (entries name).entries := by
    rw [sectionOf, own there]
    rfl
  refine ⟨.object members, ?_, ⟨⟨members, rfl⟩, fun name there => ?_⟩, fun name there => ?_,
    fun name there key => ?_⟩
  · obtain ⟨_, rfl⟩ := first.whole
    obtain ⟨_, rfl⟩ := second.whole
    rw [layer, each]
    rfl
  · rw [part there, own there]
    rfl
  · rw [part there]
    exact (entries name).distinct
  · rw [part there]
    exact Entries.find?_layered (sectionOf_distinct below name) (sectionOf_distinct above name) key

/-- A document with nothing below it. -/
theorem Filled.bare (above : value.Decoded) (sectioned : Sectioned sections value) :
    Filled sections (.object []) value value where
  sectioned := sectioned
  distinct _ _ := sectionOf_distinct above _
  found _ _ _ := Option.or_none.symm

/-- Over two bases that have the same in the gaps of a document, it comes out the same. -/
theorem Filled.rearranged {deeper other : Value} (filled : Filled sections lower value layered)
    (also : Filled sections deeper value other)
    (gaps : ∀ name ∈ sections, ∀ key, Entries.find? key (sectionOf value name) = none →
      Entries.find? key (sectionOf lower name) = Entries.find? key (sectionOf deeper name)) :
    Rearranged sections layered other where
  first := filled.sectioned
  second := also.sectioned
  distinct := filled.distinct
  perm := by
    intro name there
    refine Entries.perm_of_find? (filled.distinct name there) (also.distinct name there) fun key => ?_
    rw [filled.found name there, also.found name there]
    cases listed : Entries.find? key (sectionOf value name) with
    | some entry => rfl
    | none => exact gaps name there key listed

end layers

/-- What fills in for a document: the base that a path names, or nothing. -/
def FileTree.filling (files : FileTree) (base : Option String) : Except Fault Value :=
  match base with
  | none => .ok (.object [])
  | some path => if path.isEmpty then .ok (.object []) else files.document path

/-- Bases that fill the gaps of a document alike: they are one, or have the same entries under all
keys that the document does not list. -/
inductive FillsAlike (sections : List String) (value : Value) :
    Except Fault Value → Except Fault Value → Prop
  | one (base : Except Fault Value) : FillsAlike sections value base base
  | gaps {a b : Value} (first : Sectioned sections a) (second : Sectioned sections b)
      (agree : ∀ name ∈ sections, ∀ key, Entries.find? key (sectionOf value name) = none →
        Entries.find? key (sectionOf a name) = Entries.find? key (sectionOf b name)) :
      FillsAlike sections value (.ok a) (.ok b)

namespace FillsAlike
variable {sections : List String} {value : Value} {first second : Except Fault Value}

theorem symm (alike : FillsAlike sections value first second) :
    FillsAlike sections value second first := by
  cases alike with
  | one => exact .one _
  | gaps one two agree =>
    exact .gaps two one fun name there key gap => (agree name there key gap).symm

theorem sectioned (alike : FillsAlike sections value first second) {a : Value}
    (there : first = .ok a) (whole : Sectioned sections a) :
    ∃ b, second = .ok b ∧ Sectioned sections b ∧ ∀ name ∈ sections, ∀ key,
      Entries.find? key (sectionOf value name) = none →
        Entries.find? key (sectionOf a name) = Entries.find? key (sectionOf b name) := by
  cases alike with
  | one => exact ⟨a, there, whole, fun _ _ _ _ => rfl⟩
  | gaps one two agree =>
    cases there
    exact ⟨_, rfl, two, agree⟩

end FillsAlike

namespace Desk
variable {files others : FileTree} {sections : List String} {value : Value}

theorem filling_cases (files : FileTree) (base : Option String) (sections : List String)
    (value : Value) :
    (files.filling base = .ok (.object []) ∧
      basedDocument files base sections value = .ok value) ∨
    ∃ path, files.filling base = files.document path ∧
      basedDocument files base sections value =
        loadedDocument files .subtitles path >>= fun lower => layer sections lower value := by
  unfold FileTree.filling basedDocument
  cases base with
  | none => exact .inl ⟨rfl, rfl⟩
  | some path =>
    dsimp only
    split
    · exact .inl ⟨rfl, rfl⟩
    · exact .inr ⟨path, rfl, rfl⟩

theorem loadedDocument_congr {medium : Medium} {path : String}
    (same : files.document path = others.document path) :
    loadedDocument files medium path = loadedDocument others medium path := by
  rw [loadedDocument, loadedDocument, same]

theorem basedDocument_filled {base : Option String} {lower : Value} (decoded : value.Decoded)
    (below : files.filling base = .ok lower) (first : Sectioned sections lower)
    (second : Sectioned sections value) :
    ∃ layered, basedDocument files base sections value = .ok layered ∧
      Filled sections lower value layered := by
  rcases filling_cases files base sections value with ⟨bare, same⟩ | ⟨path, read, layers⟩
  · cases bare.symm.trans below
    exact ⟨value, same, .bare decoded second⟩
  · have document := read.symm.trans below
    rw [layers, loadedDocument_ok_iff.mpr document]
    exact layer_filled (FileTree.document_decoded document) decoded first second

/-- What is wrong with a base or a section of the document is found in the end, by layering if not
by decoding. -/
theorem basedDocument_sectioned {base : Option String} {α : Type} {decode : Value → Except Fault α}
    (strict : ∀ value result, decode value = .ok result → Sectioned sections value) {result : α}
    (done : basedDocument files base sections value >>= decode = .ok result) :
    Sectioned sections value ∧
      ∃ lower, files.filling base = .ok lower ∧ Sectioned sections lower := by
  obtain ⟨layered, based, decoded⟩ := bind_ok done
  rcases filling_cases files base sections value with ⟨bare, same⟩ | ⟨path, read, layers⟩
  · cases same.symm.trans based
    exact ⟨strict value result decoded, _, bare, ⟨[], rfl⟩, fun _ _ => rfl⟩
  · obtain ⟨lower, loaded, laid⟩ := bind_ok (layers.symm.trans based)
    obtain ⟨first, second⟩ := layer_sectioned laid
    exact ⟨second, lower, read.trans (loadedDocument_ok_iff.mp loaded), first⟩

/-- Of a base, only that matters which it has in the gaps of the document. -/
theorem basedDocument_agrees {base otherBase : Option String} {α : Type}
    {decode : Value → Except Fault α} {related : α → α → Prop}
    (strict : ∀ value result, decode value = .ok result → Sectioned sections value)
    (orderFree : ∀ a b, Rearranged sections a b → Agree related (decode a) (decode b))
    (decoded : value.Decoded)
    (alike : FillsAlike sections value (files.filling base) (others.filling otherBase)) :
    Agree related (basedDocument files base sections value >>= decode)
      (basedDocument others otherBase sections value >>= decode) := by
  by_cases sound : Sectioned sections value ∧
      ∃ lower, files.filling base = .ok lower ∧ Sectioned sections lower
  · obtain ⟨second, lower, below, first⟩ := sound
    obtain ⟨deeper, under, third, gaps⟩ := alike.sectioned below first
    obtain ⟨one, based, filled⟩ := basedDocument_filled decoded below first second
    obtain ⟨two, otherBased, otherFilled⟩ := basedDocument_filled decoded under third second
    rw [based, otherBased]
    exact orderFree one two (filled.rearranged otherFilled gaps)
  · refine .of_failures (fun result done => sound (basedDocument_sectioned strict done))
      fun result done => sound ?_
    obtain ⟨whole, lower, below, first⟩ := basedDocument_sectioned strict done
    obtain ⟨deeper, under, third, -⟩ := alike.symm.sectioned below first
    exact ⟨whole, deeper, under, third⟩

/-- Sources that differ in their bases alone, where the bases fill the gaps of the documents alike.
The files may differ too, but not in the documents of the language. -/
structure Matched (files others : FileTree) (source other : ScriptSource) : Prop where
  same : other = { source with dialogueBase := other.dialogueBase, timingBase := other.timingBase }
  dialogue : files.document source.dialoguePath = others.document source.dialoguePath
  timing : files.document source.timingPath = others.document source.timingPath
  dialogueGaps : ∀ value, files.document source.dialoguePath = .ok value →
    FillsAlike dialogueSections value (files.filling source.dialogueBase)
      (others.filling other.dialogueBase)
  timingGaps : ∀ value, files.document source.timingPath = .ok value →
    FillsAlike timingSections value (files.filling source.timingBase)
      (others.filling other.timingBase)

section loading
variable {source other : ScriptSource}

theorem documents_agree (matched : Matched files others source other) :
    Agree (fun one two => one.1.Alike two.1 ∧ one.2.Alike two.2) (documents files source)
      (documents others other) := by
  rw [matched.same]
  unfold documents
  dsimp only
  split
  · exact .error _ _
  · rw [← loadedDocument_congr matched.dialogue, ← loadedDocument_congr matched.timing]
    cases dialogueAt : loadedDocument files .subtitles source.dialoguePath with
    | error fault => exact .error _ _
    | ok dialogue =>
      cases timingAt : loadedDocument files .subtitles source.timingPath with
      | error fault => exact .error _ _
      | ok timing =>
        have told := loadedDocument_ok_iff.mp dialogueAt
        have timed := loadedDocument_ok_iff.mp timingAt
        have dialogues := basedDocument_agrees (fun _ _ => Dialogue.ofValue_sectioned)
          (fun _ _ => Dialogue.ofValue_alike) (FileTree.document_decoded told)
          (matched.dialogueGaps dialogue told)
        have timings := basedDocument_agrees (fun _ _ => Timing.ofValue_sectioned)
          (fun _ _ => Timing.ofValue_alike) (FileTree.document_decoded timed)
          (matched.timingGaps timing timed)
        exact dialogues.interleaved timings

/-- What the files and the store make of a load, whoever listens. -/
theorem load_result (audience : Option Audience) (replace : Bool) (desk : Desk) :
    (load audience files source replace desk).result = documents files source >>=
      fun (dialogue, timing) => admitted dialogue timing source replace desk.store := by
  have read := reading_yields audience files source desk
  have kept := (reading_spares audience files source desk).1
  rw [load_eq, Edit.run_bind, read]
  cases documents files source with
  | error fault => rfl
  | ok both =>
    refine (stage_result audience).trans ?_
    rw [kept]
    rfl

theorem load_store {audience : Option Audience} {replace : Bool} {desk : Desk} {made : Script}
    (done : (load audience files source replace desk).result = .ok made) :
    (load audience files source replace desk).state.store = desk.store.putScript made := by
  have read := reading_yields audience files source desk
  have kept := (reading_spares audience files source desk).1
  rw [load_eq, Edit.run_bind, read] at done ⊢
  cases both : documents files source with
  | error fault =>
    rw [both] at done
    cases done
  | ok both =>
    rw [both] at done
    rw [← kept]
    exact (stage_admitted audience ((stage_result audience).symm.trans done)).2

/-- Where the language can be named, a load that fails leaves the store as it was. -/
theorem load_refused {audience : Option Audience} {replace : Bool} {desk : Desk} {fault : Fault}
    (writable : Numeral.isWritable source.language = true)
    (failed : (load audience files source replace desk).result = .error fault) :
    (load audience files source replace desk).state.store = desk.store := by
  rcases (load_failsLeaving audience source replace files desk fault failed).2 with kept | unnamed
  · exact kept
  · cases unnamed.1.symm.trans writable

/-- Two loads into equal stores come out alike: both fail, or both make the same scenes. So do the
stores, unless the loads stop on the way because they cannot name their language. -/
def LoadsAlike (files others : FileTree) (source other : ScriptSource) : Prop :=
  ∀ (audience listeners : Option Audience) (replace : Bool) (desk twin : Desk),
    desk.store = twin.store →
    let first := load audience files source replace desk
    let second := load listeners others other replace twin
    Agree Script.Same first.result second.result ∧
      (Numeral.isWritable source.language = true →
        first.state.store.Same second.state.store)

theorem Matched.loadsAlike (matched : Matched files others source other) :
    LoadsAlike files others source other := by
  intro audience listeners replace desk twin equal first second
  have agree : Agree Script.Same first.result second.result := by
    rw [load_result, load_result, ← equal]
    refine (documents_agree matched).bind fun one two alike => ?_
    rw [matched.same]
    exact admitted_alike alike.1 alike.2 source replace desk.store _ _
  refine ⟨agree, fun writable => ?_⟩
  have otherWritable : Numeral.isWritable other.language = true := by
    rw [matched.same]
    exact writable
  cases done : first.result with
  | ok made =>
    obtain ⟨more, also, same⟩ := agree.follow done
    rw [load_store done, load_store also, ← equal]
    exact .putScript desk.store same
  | error fault =>
    cases also : second.result with
    | ok more =>
      obtain ⟨made, there, -⟩ := agree.followBack also
      cases done.symm.trans there
    | error other =>
      rw [load_refused writable done, load_refused otherWritable also, ← equal]
      exact .refl desk.store

/-- A base fills gaps and does nothing else: loads with bases that agree in the gaps of the
documents come out alike, whatever the bases have elsewhere. An empty base is as good as none. -/
theorem base_files_fill_gaps_only :
    (∀ files others source other, Matched files others source other →
      LoadsAlike files others source other) ∧
    ∀ (files : FileTree) (source : ScriptSource) (base : String),
      files.document base = .ok (.object []) →
      LoadsAlike files files { source with dialogueBase := none }
        { source with dialogueBase := some base } ∧
      LoadsAlike files files { source with timingBase := none }
        { source with timingBase := some base } := by
  refine ⟨fun _ _ _ _ matched => matched.loadsAlike, fun files source base empty => ?_⟩
  have same : files.filling (some base) = files.filling none := by
    simp only [FileTree.filling, empty, ite_self]
  constructor
  · refine Matched.loadsAlike ⟨rfl, rfl, rfl, fun value _ => ?_, fun value _ => .one _⟩
    rw [same]
    exact .one _
  · refine Matched.loadsAlike ⟨rfl, rfl, rfl, fun value _ => .one _, fun value _ => ?_⟩
    rw [same]
    exact .one _

/-- A base that is malformed under a key that the document lists, and one that has no such entry. -/
theorem shadowed_fault_is_never_met :
    let files : FileTree := ⟨.ofList [
      (["texts".toList], .file "\x7b\"cutscenes\":\x7b\"a\":[\"hi\"]\x7d\x7d".toUTF8),
      (["times".toList], .file "\x7b\"cutscenes\":\x7b\"a\":[\x7b\"frame\":5\x7d]\x7d\x7d".toUTF8),
      (["faulty".toList], .file "\x7b\"cutscenes\":\x7b\"a\":7\x7d\x7d".toUTF8),
      (["empty".toList], .file "\x7b\x7d".toUTF8)]⟩
    let bare : ScriptSource := { language := 0, dialoguePath := "texts", timingPath := "times" }
    let faulty : ScriptSource := { bare with dialogueBase := some "faulty" }
    let desk : Desk := ⟨(ScriptStore.new none none).putScript { language := 0 }, []⟩
    let made (source : ScriptSource) := (load none files source true desk).result
    ∃ one two three, made faulty = .ok one ∧ made bare = .ok two ∧
      made { bare with timingBase := some "empty" } = .ok three ∧
      one.Same two ∧ two.Same three := by
  intro files bare faulty desk made
  have texts : files.document "texts" =
      .ok (.object [("cutscenes", .object [("a", .list [.str "hi"])])]) :=
    FileTree.document_of_text rfl (by decide +kernel) (by cbv)
  have malformed : files.document "faulty" =
      .ok (.object [("cutscenes", .object [("a", .int 7)])]) :=
    FileTree.document_of_text rfl (by decide +kernel) (by cbv)
  have times : files.document "times" =
      .ok (.object [("cutscenes", .object [("a", .list [.object [("frame", .int 5)]])])]) :=
    FileTree.document_of_text rfl (by decide +kernel) (by cbv)
  have empty : files.document "empty" = .ok (.object []) :=
    FileTree.document_of_text rfl (by decide +kernel) (by cbv)
  let dialogue : Dialogue := { cutscenes := .ofList [("a", ["hi"])] }
  let timing : Timing := { cutscenes := .ofList [("a", [⟨5, false, "", false⟩])] }
  have read : documents files bare = .ok (dialogue, timing) :=
    documents_of_values ⟨rfl, rfl⟩ rfl texts times rfl rfl
  have builds : built dialogue timing bare =
      .ok [{ name := "a", lines := [⟨5, "hi", "", false⟩] }] := rfl
  have writable : Numeral.isWritable bare.language = true := by decide +kernel
  obtain ⟨two, accepted⟩ : ∃ two, admitted dialogue timing bare true desk.store = .ok two :=
    ⟨_, (admitted_built builds).trans
      ((Staging.accepted_free rfl).trans (written_ok writable _))⟩
  have done : made bare = .ok two := by
    simp only [made]
    rw [load_result, read]
    simpa only [bind, Except.bind] using accepted
  obtain ⟨gaps, blank⟩ := base_files_fill_gaps_only
  have shadowed : Matched files files faulty bare := by
    refine ⟨rfl, rfl, rfl, fun value told => ?_, fun _ _ => .one _⟩
    cases texts.symm.trans told
    change FillsAlike _ _ (files.document "faulty") (.ok (.object []))
    rw [malformed]
    refine .gaps ⟨⟨_, rfl⟩, ?_⟩ ⟨⟨_, rfl⟩, fun _ _ => rfl⟩ ?_
    · simp only [dialogueSections, List.forall_mem_cons]
      exact ⟨rfl, rfl, rfl, List.forall_mem_nil _⟩
    · simp only [dialogueSections, List.forall_mem_cons]
      refine ⟨fun _ _ => rfl, fun key gap => ?_, fun _ _ => rfl, List.forall_mem_nil _⟩
      have unlisted : "a" ≠ key := by
        rintro rfl
        cases gap
      exact if_neg unlisted
  obtain ⟨one, first, same⟩ :=
    (gaps files files faulty bare shadowed none none true _ _ rfl).1.followBack done
  obtain ⟨three, third, again⟩ :=
    ((blank files bare "empty" empty).2 none none true _ _ rfl).1.follow done
  exact ⟨one, two, three, first, done, third, same, again⟩

end loading

end Desk

end Libretto
