import Libretto.Proofs.DecodedValues
import Libretto.Proofs.Sessions
import Libretto.Proofs.WrittenScripts

/-! The order of the members in the sections of a document. It tells which entry comes first and
so which fault is met first, but neither whether there is one nor what the entries are: documents
that differ in that order alone make the same scenes, in another order. -/
namespace Libretto

/-- Two results that fail together, or give what is related. -/
inductive Agree {ε α β : Type} (related : α → β → Prop) : Except ε α → Except ε β → Prop
  | error (first second : ε) : Agree related (.error first) (.error second)
  | ok {x : α} {y : β} (same : related x y) : Agree related (.ok x) (.ok y)

namespace Agree
variable {ε α β γ δ : Type} {related : α → β → Prop} {later : γ → δ → Prop}
  {first : Except ε α} {second : Except ε β}

theorem bind {f : α → Except ε γ} {g : β → Except ε δ} (agree : Agree related first second)
    (next : ∀ x y, related x y → Agree later (f x) (g y)) :
    Agree later (first >>= f) (second >>= g) := by
  cases agree with
  | error one other => exact .error one other
  | ok same => exact next _ _ same

theorem map {f : α → γ} {g : β → δ} (agree : Agree related first second)
    (next : ∀ x y, related x y → later (f x) (g y)) : Agree later (first.map f) (second.map g) := by
  cases agree with
  | error one other => exact .error one other
  | ok same => exact .ok (next _ _ same)

theorem of_failures (left : ∀ x, first ≠ .ok x) (right : ∀ y, second ≠ .ok y) :
    Agree related first second := by
  cases one : first with
  | ok x => exact absurd one (left x)
  | error fault =>
    cases two : second with
    | ok y => exact absurd two (right y)
    | error other => exact .error fault other

/-- What holds as soon as one of the two succeeds. -/
theorem of_ok (left : ∀ x, first = .ok x → ∃ y, second = .ok y ∧ related x y)
    (right : ∀ y, second = .ok y → ∃ x, first = .ok x) : Agree related first second := by
  cases one : first with
  | ok x =>
    obtain ⟨y, other, same⟩ := left x one
    rw [other]
    exact .ok same
  | error fault =>
    cases two : second with
    | error other => exact .error fault other
    | ok y =>
      obtain ⟨x, there⟩ := right y two
      cases one.symm.trans there

/-- Where the first gives something, that is known of it. -/
theorem known (agree : Agree related first second) :
    Agree (fun x y => first = .ok x ∧ related x y) first second := by
  cases agree with
  | error one other => exact .error one other
  | ok same => exact .ok ⟨rfl, same⟩

theorem follow (agree : Agree related first second) {x : α} (done : first = .ok x) :
    ∃ y, second = .ok y ∧ related x y := by
  cases agree with
  | error => cases done
  | ok same =>
    cases done
    exact ⟨_, rfl, same⟩

theorem followBack (agree : Agree related first second) {y : β} (done : second = .ok y) :
    ∃ x, first = .ok x ∧ related x y := by
  cases agree with
  | error => cases done
  | ok same =>
    cases done
    exact ⟨_, rfl, same⟩

theorem mapM_perm {f : α → Except ε β} {items others : List α} (perm : items.Perm others) :
    Agree List.Perm (items.mapM f) (others.mapM f) := by
  refine .of_ok (fun results done => mapM_ok_perm perm done) fun results done => ?_
  obtain ⟨more, there, -⟩ := mapM_ok_perm perm.symm done
  exact ⟨more, there⟩

end Agree

/-- Where all faults are one, the items may be looked at before it is told. -/
theorem mapM_elim {ε α β : Type} {f : α → Option β} {fault : ε} (items : List α) :
    (items.mapM fun item => (f item).elim (.error fault) Except.ok) =
      (items.mapM f).elim (.error fault) Except.ok := by
  induction items with
  | nil => rfl
  | cons item items ih =>
    rw [List.mapM_cons, List.mapM_cons, ih]
    cases f item with
    | none => rfl
    | some result => cases items.mapM f <;> rfl

/-- Maps in which the same is found. -/
def OrderedMap.Alike (a b : OrderedMap String ν) : Prop := ∀ key, a.find? key = b.find? key

theorem OrderedMap.Alike.keys {a b : OrderedMap String ν} (alike : a.Alike b) :
    a.contains = b.contains := by
  funext key
  rw [contains, contains, alike key]

/-- Entries that are decoded one by one under their own names make maps that are alike, in
whatever order they come. -/
theorem decoded_alike {decode : String × Value → Except Fault (String × ν)}
    (named : ∀ entry decoded, decode entry = .ok decoded → decoded.1 = entry.1)
    {items others : List (String × Value)} (distinct : (items.map Prod.fst).Nodup)
    (perm : items.Perm others) :
    Agree OrderedMap.Alike ((items.mapM decode).map OrderedMap.ofList)
      ((others.mapM decode).map OrderedMap.ofList) := by
  refine (Agree.mapM_perm perm).known.map fun results more known => ?_
  obtain ⟨done, same⟩ := known
  have names : (results.map Prod.fst).Nodup := by
    rwa [mapM_ok_image done named]
  refine OrderedMap.find?_of_perm ?_
  rw [OrderedMap.entries_ofList _ names,
    OrderedMap.entries_ofList _ ((same.map Prod.fst).nodup_iff.mp names)]
  exact same

/-- The members of a section. Without the section, or where it is no object, there are none. -/
def sectionOf (value : Value) (name : String) : List (String × Value) :=
  match (value.member? name).getD (.object []) with
  | .object members => members
  | _ => []

/-- A document whose sections are objects, as far as they are there. -/
structure Sectioned (sections : List String) (value : Value) : Prop where
  whole : ∃ members, value = .object members
  parts : ∀ name ∈ sections, (value.member? name).getD (.object []) = .object (sectionOf value name)

/-- Documents that have the same in each section, in some order. -/
structure Rearranged (sections : List String) (a b : Value) : Prop where
  first : Sectioned sections a
  second : Sectioned sections b
  distinct : ∀ name ∈ sections, ((sectionOf a name).map Prod.fst).Nodup
  perm : ∀ name ∈ sections, (sectionOf a name).Perm (sectionOf b name)

theorem Sectioned.part {sections : List String} {members : List (String × Value)} {name : String}
    (sectioned : Sectioned sections (.object members)) (there : name ∈ sections)
    (context : String) : part context members name = .ok (sectionOf (.object members) name) := by
  exact congrArg (objectOf context) (sectioned.parts name there)

theorem part_ok {context : String} {members inner : List (String × Value)} {name : String}
    (done : part context members name = .ok inner) :
    ((Value.object members).member? name).getD (.object []) =
      .object (sectionOf (.object members) name) := by
  unfold part objectOf at done
  unfold sectionOf Value.member?
  dsimp only
  generalize (Entries.find? name members).getD (.object []) = own at *
  cases own <;> first | rfl | cases done

namespace Dialogue

/-- Dialogues in which the same is found. -/
structure Alike (a b : Dialogue) : Prop where
  speakers : a.speakers.Alike b.speakers
  cutscenes : a.cutscenes.Alike b.cutscenes
  hints : a.hints.Alike b.hints

/-- A speaker with a text for a name. -/
def textOf? (entry : String × Value) : Option (String × String) := entry.2.str?.map (entry.1, ·)

/-- One speaker of a document. -/
def textMember (context : String) (entry : String × Value) : Except Fault (String × String) :=
  (textOf? entry).elim (.error (.shape (.notTextMap context))) .ok

theorem textMap_elim (context : String) (members : List (String × Value)) :
    textMap context members = (members.mapM textOf?).elim
      (.error (.shape (.notTextMap context))) fun texts => .ok (.ofList texts) := by
  unfold textMap
  split
  next texts found =>
    have same : members.mapM textOf? = some texts := found
    rw [same]
    rfl
  next failed =>
    have same : members.mapM textOf? = none := failed
    rw [same]
    rfl

/-- All faults of a map of texts are one, so it may as well be read entry by entry. -/
theorem textMap_eq (context : String) (members : List (String × Value)) :
    textMap context members = (members.mapM (textMember context)).map .ofList := by
  unfold textMember
  rw [textMap_elim, mapM_elim]
  cases members.mapM textOf? <;> rfl

theorem textMember_name {context : String} {entry : String × Value} {decoded : String × String}
    (done : textMember context entry = .ok decoded) : decoded.1 = entry.1 := by
  unfold textMember textOf? at done
  cases text : entry.2.str? with
  | none =>
    rw [text] at done
    cases done
  | some own =>
    rw [text] at done
    cases done
    rfl

theorem textList_name {context : String} {entry : String × Value}
    {decoded : String × List String} (done : textList context entry = .ok decoded) :
    decoded.1 = entry.1 := by
  obtain ⟨lines, -, done⟩ := bind_ok done
  split at done <;> cases done
  rfl

theorem textLists_eq (context : String) (members : List (String × Value)) :
    textLists context members = (members.mapM (textList context)).map .ofList := by
  unfold textLists
  cases members.mapM (textList context) <;> rfl

theorem ofValue_eq {members : List (String × Value)}
    (sectioned : Sectioned dialogueSections (.object members)) : ofValue (.object members) = (do
      let speakers ← ((sectionOf (.object members) "speakers").mapM
        (textMember "Subtitle speakers")).map OrderedMap.ofList
      let cutscenes ← ((sectionOf (.object members) "cutscenes").mapM
        (textList "Subtitle cutscenes")).map OrderedMap.ofList
      let hints ← ((sectionOf (.object members) "hints").mapM
        (textList "Subtitle hints")).map OrderedMap.ofList
      return ⟨speakers, cutscenes, hints⟩) := by
  have speakers := sectioned.part (show "speakers" ∈ dialogueSections by decide)
  have cutscenes := sectioned.part (show "cutscenes" ∈ dialogueSections by decide)
  have hints := sectioned.part (show "hints" ∈ dialogueSections by decide)
  simp only [← textMap_eq, ← textLists_eq]
  simp only [ofValue, objectOf, bind, Except.bind, speakers, cutscenes, hints]
  rfl

theorem ofValue_alike {a b : Value} (same : Rearranged dialogueSections a b) :
    Agree Alike (ofValue a) (ofValue b) := by
  obtain ⟨first, second, distinct, perm⟩ := same
  obtain ⟨members, rfl⟩ := first.whole
  obtain ⟨others, rfl⟩ := second.whole
  have speakers : "speakers" ∈ dialogueSections := by decide
  have cutscenes : "cutscenes" ∈ dialogueSections := by decide
  have hints : "hints" ∈ dialogueSections := by decide
  rw [ofValue_eq first, ofValue_eq second]
  refine (decoded_alike (fun _ _ => textMember_name) (distinct _ speakers)
    (perm _ speakers)).bind fun _ _ speakers => ?_
  refine (decoded_alike (fun _ _ => textList_name) (distinct _ cutscenes)
    (perm _ cutscenes)).bind fun _ _ cutscenes => ?_
  refine (decoded_alike (fun _ _ => textList_name) (distinct _ hints)
    (perm _ hints)).bind fun _ _ hints => ?_
  exact .ok ⟨speakers, cutscenes, hints⟩

theorem ofValue_sectioned {value : Value} {dialogue : Dialogue}
    (done : ofValue value = .ok dialogue) : Sectioned dialogueSections value := by
  cases value with
  | object members =>
    obtain ⟨_, whole, done⟩ := bind_ok done
    cases whole
    obtain ⟨speakers, speakersAt, done⟩ := bind_ok done
    obtain ⟨_, -, done⟩ := bind_ok done
    obtain ⟨cutscenes, cutscenesAt, done⟩ := bind_ok done
    obtain ⟨_, -, done⟩ := bind_ok done
    obtain ⟨hints, hintsAt, -⟩ := bind_ok done
    refine ⟨⟨members, rfl⟩, ?_⟩
    simp only [dialogueSections, List.forall_mem_cons]
    exact ⟨part_ok speakersAt, part_ok cutscenesAt, part_ok hintsAt, List.forall_mem_nil _⟩
  | _ => cases done

end Dialogue

namespace Timing

/-- Timings in which the same is found. -/
structure Alike (a b : Timing) : Prop where
  cutscenes : a.cutscenes.Alike b.cutscenes
  hints : a.hints.Alike b.hints

theorem cutscene_name {entry : String × Value} {decoded : String × List Cue}
    (done : cutscene entry = .ok decoded) : decoded.1 = entry.1 := by
  obtain ⟨lines, -, done⟩ := bind_ok done
  obtain ⟨cues, -, done⟩ := bind_ok done
  cases done
  rfl

theorem hint_name {entry : String × Value} {decoded : String × HintTiming}
    (done : hint entry = .ok decoded) : decoded.1 = entry.1 := by
  obtain ⟨timing, -, done⟩ := bind_ok done
  cases done
  rfl

theorem ofValue_eq {members : List (String × Value)}
    (sectioned : Sectioned timingSections (.object members)) : ofValue (.object members) = (do
      let cutscenes ← ((sectionOf (.object members) "cutscenes").mapM cutscene).map OrderedMap.ofList
      let hints ← ((sectionOf (.object members) "hints").mapM hint).map OrderedMap.ofList
      return ⟨cutscenes, hints⟩) := by
  have cutscenes := sectioned.part (show "cutscenes" ∈ timingSections by decide)
  have hints := sectioned.part (show "hints" ∈ timingSections by decide)
  simp only [ofValue, objectOf, bind, Except.bind, cutscenes, hints]
  cases (sectionOf (.object members) "cutscenes").mapM cutscene with
  | error fault => rfl
  | ok cutscenes => cases (sectionOf (.object members) "hints").mapM hint <;> rfl

theorem ofValue_alike {a b : Value} (same : Rearranged timingSections a b) :
    Agree Alike (ofValue a) (ofValue b) := by
  obtain ⟨first, second, distinct, perm⟩ := same
  obtain ⟨members, rfl⟩ := first.whole
  obtain ⟨others, rfl⟩ := second.whole
  have cutscenes : "cutscenes" ∈ timingSections := by decide
  have hints : "hints" ∈ timingSections := by decide
  rw [ofValue_eq first, ofValue_eq second]
  refine (decoded_alike (fun _ _ => cutscene_name) (distinct _ cutscenes)
    (perm _ cutscenes)).bind fun _ _ cutscenes => ?_
  refine (decoded_alike (fun _ _ => hint_name) (distinct _ hints)
    (perm _ hints)).bind fun _ _ hints => ?_
  exact .ok ⟨cutscenes, hints⟩

theorem ofValue_sectioned {value : Value} {timing : Timing}
    (done : ofValue value = .ok timing) : Sectioned timingSections value := by
  cases value with
  | object members =>
    obtain ⟨_, whole, done⟩ := bind_ok done
    cases whole
    obtain ⟨cutscenes, cutscenesAt, done⟩ := bind_ok done
    obtain ⟨hints, hintsAt, -⟩ := bind_ok done
    refine ⟨⟨members, rfl⟩, ?_⟩
    simp only [timingSections, List.forall_mem_cons]
    exact ⟨part_ok cutscenesAt, part_ok hintsAt, List.forall_mem_nil _⟩
  | _ => cases done

end Timing

namespace Staging
variable {dialogue other : Dialogue} {timing more : Timing}

theorem displayName_alike {speakers others : OrderedMap String String}
    (same : speakers.Alike others) : displayName speakers = displayName others := by
  funext key
  simp only [displayName, same key]

theorem cutsceneOf_alike (same : dialogue.Alike other) : cutsceneOf dialogue = cutsceneOf other := by
  funext entry
  simp only [cutsceneOf, filled, same.cutscenes entry.1,
    timed?_congr (displayName_alike same.speakers)]

theorem hintOf_alike (same : dialogue.Alike other) (timed : timing.Alike more) (language : Int) :
    hintOf dialogue timing language = hintOf other more language := by
  funext entry
  simp only [hintOf, filled, same.hints entry.1, timed.cutscenes.keys,
    timed?_congr (displayName_alike same.speakers)]

theorem scenesOf_alike (same : dialogue.Alike other) (timed : timing.Alike more) (language : Int) :
    Agree List.Perm (scenesOf dialogue timing language) (scenesOf other more language) := by
  unfold scenesOf
  rw [cutsceneOf_alike same, hintOf_alike same timed language]
  refine (Agree.mapM_perm (OrderedMap.entries_perm timed.cutscenes)).bind
    fun _ _ cutscenes => ?_
  refine (Agree.mapM_perm (OrderedMap.entries_perm timed.hints)).bind fun _ _ hints => ?_
  exact .ok (cutscenes.append hints)

end Staging

/-- Scripts that hold the same scenes, in some order. -/
structure Script.Same (a b : Script) : Prop where
  language : a.language = b.language
  version : a.version = b.version
  path : a.path = b.path
  audience : a.audience = b.audience
  scenes : a.scenes.Alike b.scenes

theorem Script.Same.refl (script : Script) : script.Same script := ⟨rfl, rfl, rfl, rfl, fun _ => rfl⟩

/-- Stores with the same scripts, up to the order of the scenes in each. -/
structure ScriptStore.Same (a b : ScriptStore) : Prop where
  scripts : ∀ language, Option.Rel Script.Same (a.script? language) (b.script? language)
  grouping : a.grouping = b.grouping
  audience : a.audience = b.audience

theorem ScriptStore.Same.refl (store : ScriptStore) : store.Same store := by
  refine ⟨fun language => ?_, rfl, rfl⟩
  cases store.script? language with
  | none => exact .none
  | some script => exact .some (.refl script)

theorem ScriptStore.Same.putScript (store : ScriptStore) {made more : Script}
    (same : made.Same more) : (store.putScript made).Same (store.putScript more) := by
  refine ⟨fun language => ?_, rfl, rfl⟩
  rw [script?_putScript, script?_putScript, same.language]
  split
  · exact .some same
  · exact (ScriptStore.Same.refl store).scripts language

section scenes
variable {scenes others : List Scene}

theorem Script.find?_name_iff (distinct : (scenes.map Scene.name).Nodup) (name : String)
    (scene : Scene) :
    scenes.find? (·.name = name) = some scene ↔ scene ∈ scenes ∧ scene.name = name := by
  constructor
  · intro found
    have called := List.find?_some found
    exact ⟨List.mem_of_find?_eq_some found, of_decide_eq_true called⟩
  · rintro ⟨member, rfl⟩
    exact find?_name distinct member

/-- Scenes of distinct names may come in in any order. -/
theorem Script.overrideAll_same (script : Script) (distinct : (scenes.map Scene.name).Nodup)
    (perm : scenes.Perm others) : (script.overrideAll scenes).Same (script.overrideAll others) := by
  have still : (others.map Scene.name).Nodup := (perm.map Scene.name).nodup_iff.mp distinct
  constructor
  case scenes =>
    intro name
    have found : scenes.find? (·.name = name) = others.find? (·.name = name) := by
      refine Option.ext fun scene => ?_
      rw [find?_name_iff distinct, find?_name_iff still, perm.mem_iff]
    rw [find?_overrideAll script scenes distinct, find?_overrideAll script others still, found]
  all_goals simp

theorem Staging.clash_perm (source : ScriptSource) (replace : Bool) (store : ScriptStore)
    (perm : scenes.Perm others) :
    clash source replace scenes store = none ↔ clash source replace others store = none := by
  unfold clash
  split
  · exact Iff.rfl
  · simp only [List.find?_eq_none, perm.mem_iff]

/-- Whether scenes are let in, and what becomes of the script, does not hang on their order, nor
on the bases that they are from. -/
theorem Staging.accepted_perm (source : ScriptSource) (replace : Bool) (store : ScriptStore)
    (distinct : (scenes.map Scene.name).Nodup) (perm : scenes.Perm others)
    (dialogueBase timingBase : Option String) :
    Agree Script.Same (accepted source replace scenes store)
      (accepted { source with dialogueBase, timingBase } replace others store) := by
  have bases : accepted { source with dialogueBase, timingBase } replace others store =
      accepted source replace others store := rfl
  rw [bases]
  have clashes := clash_perm source replace store perm
  cases first : clash source replace scenes store with
  | none =>
    rw [accepted_free first, accepted_free (clashes.mp first)]
    cases writable : Numeral.isWritable source.language with
    | true =>
      rw [written_ok writable, written_ok writable]
      exact .ok (Script.overrideAll_same _ distinct perm)
    | false =>
      rw [written_error writable, written_error writable]
      exact .error _ _
  | some scene =>
    cases second : clash source replace others store with
    | none => cases first.symm.trans (clashes.mpr second)
    | some other =>
      rw [accepted_clash first, accepted_clash second]
      exact .error _ _

end scenes

namespace Desk
variable {dialogue other : Dialogue} {timing more : Timing}

/-- Documents that are alike make the same of a store. Of the source, the bases have no part
in it. -/
theorem admitted_alike (same : dialogue.Alike other) (timed : timing.Alike more)
    (source : ScriptSource) (replace : Bool) (store : ScriptStore)
    (dialogueBase timingBase : Option String) :
    Agree Script.Same (admitted dialogue timing source replace store)
      (admitted other more { source with dialogueBase, timingBase } replace store) := by
  have let_in : Agree (fun _ _ => True) (admission source)
      (admission { source with dialogueBase, timingBase }) := by
    unfold admission
    dsimp only
    split
    · exact .error _ _
    · split
      · exact .error _ _
      · exact .ok trivial
  have scenes := Staging.scenesOf_alike same timed source.language
  refine (let_in.bind fun _ _ _ => scenes.known).bind fun scenes others known => ?_
  obtain ⟨done, perm⟩ := known
  exact Staging.accepted_perm source replace store (Staging.scenesOf_distinct done) perm _ _

end Desk

end Libretto
