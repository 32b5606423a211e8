import Libretto.Proofs.DecodingFaults
import Libretto.Proofs.SectionOrder

/-! The form that the documents of a script have to have, told of values and not of how they are
decoded. The decoders accept what has this form and nothing else, and whatever they refuse they
refuse as malformed. -/
namespace Libretto

namespace Value

def IsInt (value : Value) : Prop := ∃ number, value = .int number
def IsBool (value : Value) : Prop := ∃ flag, value = .bool flag
def IsText (value : Value) : Prop := ∃ text, value = .str text
def IsObject (value : Value) : Prop := ∃ members, value = .object members

/-- A list of items that all have a form. -/
def ListOf (form : Value → Prop) : Value → Prop
  | list items => ∀ item ∈ items, form item
  | _ => False

/-- An object of values that all have a form, whatever their names. -/
def MapOf (form : Value → Prop) : Value → Prop
  | object members => ∀ member ∈ members, form member.2
  | _ => False

def Has (name : String) (form : Value → Prop) (value : Value) : Prop :=
  ∃ member ∈ value.member? name, form member

def MayHave (name : String) (form : Value → Prop) (value : Value) : Prop :=
  ∀ member ∈ value.member? name, form member

theorem int?_isSome (value : Value) : value.int?.isSome = true ↔ value.IsInt := by
  cases value <;> simp [IsInt, int?]

theorem bool?_isSome (value : Value) : value.bool?.isSome = true ↔ value.IsBool := by
  cases value <;> simp [IsBool, bool?]

theorem str?_isSome (value : Value) : value.str?.isSome = true ↔ value.IsText := by
  cases value <;> simp [IsText, str?]

instance : DecidablePred IsInt := fun value => decidable_of_iff _ value.int?_isSome
instance : DecidablePred IsBool := fun value => decidable_of_iff _ value.bool?_isSome
instance : DecidablePred IsText := fun value => decidable_of_iff _ value.str?_isSome

instance : DecidablePred IsObject
  | object members => isTrue ⟨members, rfl⟩
  | null | bool _ | int _ | float _ | str _ | list _ => isFalse nofun

section
variable {form : Value → Prop} [DecidablePred form]

instance : DecidablePred (ListOf form)
  | list items => inferInstanceAs (Decidable (∀ item ∈ items, form item))
  | null | bool _ | int _ | float _ | str _ | object _ => isFalse id

instance : DecidablePred (MapOf form)
  | object members => inferInstanceAs (Decidable (∀ member ∈ members, form member.2))
  | null | bool _ | int _ | float _ | str _ | list _ => isFalse id

instance (name : String) : DecidablePred (Has name form) := fun value =>
  inferInstanceAs (Decidable (∃ member ∈ value.member? name, form member))

instance (name : String) : DecidablePred (MayHave name form) := fun value =>
  inferInstanceAs (Decidable (∀ member ∈ value.member? name, form member))

end

end Value

open Value (IsInt IsBool IsText IsObject ListOf MapOf)

/-- The form of a cue: a frame, and a flag, a speaker and a mark that may be there. A flag is no
number, though it may stand for one elsewhere. -/
def Cue.Form (value : Value) : Prop :=
  value.IsObject ∧ value.Has "frame" IsInt ∧ value.MayHave "offscreen" IsBool ∧
    value.MayHave "speaker" IsText ∧ value.MayHave "clear" IsBool

def HintCue.Form (value : Value) : Prop :=
  value.IsObject ∧ value.Has "frame" IsInt ∧ value.MayHave "speaker" IsText ∧
    value.MayHave "clear" IsBool

def HintTiming.Form (value : Value) : Prop :=
  value.IsObject ∧ value.Has "id" IsText ∧ value.MayHave "lines" (ListOf HintCue.Form)

def Timing.Form (value : Value) : Prop :=
  value.IsObject ∧ value.MayHave "cutscenes" (MapOf (ListOf Cue.Form)) ∧
    value.MayHave "hints" (MapOf HintTiming.Form)

def Dialogue.Form (value : Value) : Prop :=
  value.IsObject ∧ value.MayHave "speakers" (MapOf IsText) ∧
    value.MayHave "cutscenes" (MapOf (ListOf IsText)) ∧
    value.MayHave "hints" (MapOf (ListOf IsText))

instance : DecidablePred Cue.Form := fun _ => inferInstanceAs (Decidable (_ ∧ _))
instance : DecidablePred HintCue.Form := fun _ => inferInstanceAs (Decidable (_ ∧ _))
instance : DecidablePred HintTiming.Form := fun _ => inferInstanceAs (Decidable (_ ∧ _))
instance : DecidablePred Timing.Form := fun _ => inferInstanceAs (Decidable (_ ∧ _))
instance : DecidablePred Dialogue.Form := fun _ => inferInstanceAs (Decidable (_ ∧ _))

section decoders
variable {context : String} {form : Value → Prop}

theorem objectOf_iff {value : Value} {next : List (String × Value) → Except Fault α} {p : Prop}
    (tail : ∀ members, value = .object members → (Succeeds (next members) ↔ p)) :
    Succeeds (objectOf context value >>= next) ↔ value.IsObject ∧ p := by
  refine Succeeds.bind_iff ?_ fun members done => tail members ?_
  · cases value <;> simp [objectOf, Value.IsObject]
  · cases value <;> cases done
    rfl

theorem listOf_iff {value : Value} {next : List Value → Except Fault α}
    (tail : ∀ items, Succeeds (next items) ↔ ∀ item ∈ items, form item) :
    Succeeds (listOf context value >>= next) ↔ value.ListOf form := by
  cases value with
  | list items => exact tail items
  | _ => exact iff_of_false (Succeeds.error _) id

section fields
variable {as? : Value → Option α} (typed : ∀ value, (as? value).isSome = true ↔ form value)
  (members : List (String × Value)) (field expected : String)
include typed

theorem typedField_iff (value : Value) :
    Succeeds (typedField context field expected as? value) ↔ form value := by
  rw [← typed, typedField]
  cases as? value <;> simp

theorem required_iff : Succeeds (required context members field expected as?) ↔
    (Value.object members).Has field form := by
  simp only [required, Value.Has, Value.member?]
  cases Entries.find? field members with
  | none => simp
  | some value => simp [typedField_iff typed]

theorem optional_iff (instead : α) :
    Succeeds (optional context members field expected as? instead) ↔
      (Value.object members).MayHave field form := by
  simp only [optional, Value.MayHave, Value.member?]
  cases Entries.find? field members with
  | none => simp
  | some value => simp [typedField_iff typed]

end fields

theorem optionalList_iff {members : List (String × Value)} {field expected : String}
    {next : List Value → Except Fault α}
    (tail : ∀ items, Succeeds (next items) ↔ ∀ item ∈ items, form item) :
    Succeeds (optional context members field expected Value.list? [] >>= next) ↔
      (Value.object members).MayHave field (ListOf form) := by
  simp only [optional, Value.MayHave, Value.member?]
  cases Entries.find? field members with
  | none => exact iff_of_true ((tail []).mpr (List.forall_mem_nil _)) (by simp)
  | some value =>
    simp only [Option.mem_some_iff, forall_eq']
    cases value with
    | list items => exact tail items
    | _ => exact iff_of_false (Succeeds.error _) id

/-- A section, where `q` is what the rest of the document has to be like. -/
theorem section_iff {members : List (String × Value)} {name : String}
    {next : List (String × Value) → Except Fault α} {q : Prop}
    (tail : ∀ inner, Succeeds (next inner) ↔ (∀ member ∈ inner, form member.2) ∧ q) :
    Succeeds (part context members name >>= next) ↔
      (Value.object members).MayHave name (MapOf form) ∧ q := by
  simp only [part, Value.MayHave, Value.member?]
  cases Entries.find? name members with
  | none =>
    refine (tail []).trans (and_congr_left' ?_)
    exact iff_of_true (List.forall_mem_nil _) (by simp)
  | some value =>
    simp only [Option.mem_some_iff, forall_eq']
    cases value with
    | object inner => exact tail inner
    | _ => exact iff_of_false (Succeeds.error _) And.left

end decoders

theorem Cue.ofValue_iff (value : Value) : Succeeds (ofValue value) ↔ Form value := by
  refine objectOf_iff fun members whole => ?_
  subst whole
  refine Succeeds.bind_iff (required_iff Value.int?_isSome members _ _) fun _ _ => ?_
  refine Succeeds.bind_iff (optional_iff Value.bool?_isSome members _ _ _) fun _ _ => ?_
  refine Succeeds.bind_iff (optional_iff Value.str?_isSome members _ _ _) fun _ _ => ?_
  exact Succeeds.last_iff (optional_iff Value.bool?_isSome members _ _ _)

theorem HintCue.ofValue_iff (value : Value) : Succeeds (ofValue value) ↔ Form value := by
  refine objectOf_iff fun members whole => ?_
  subst whole
  refine Succeeds.bind_iff (required_iff Value.int?_isSome members _ _) fun _ _ => ?_
  refine Succeeds.bind_iff (optional_iff Value.str?_isSome members _ _ _) fun _ _ => ?_
  exact Succeeds.last_iff (optional_iff Value.bool?_isSome members _ _ _)

theorem HintTiming.ofValue_iff (value : Value) : Succeeds (ofValue value) ↔ Form value := by
  refine objectOf_iff fun members whole => ?_
  subst whole
  refine Succeeds.bind_iff (required_iff Value.str?_isSome members _ _) fun _ _ => ?_
  refine optionalList_iff fun items => Succeeds.last_iff ?_
  exact Succeeds.mapM_iff fun item _ => HintCue.ofValue_iff item

namespace Timing

theorem cutscene_iff (entry : String × Value) :
    Succeeds (cutscene entry) ↔ entry.2.ListOf Cue.Form := by
  refine listOf_iff fun items => Succeeds.last_iff ?_
  exact Succeeds.mapM_iff fun item _ => Cue.ofValue_iff item

theorem hint_iff (entry : String × Value) : Succeeds (hint entry) ↔ HintTiming.Form entry.2 :=
  Succeeds.last_iff (HintTiming.ofValue_iff entry.2)

/-- Both sections are opened before either is decoded. -/
theorem ofValue_iff (value : Value) : Succeeds (ofValue value) ↔ Form value := by
  refine objectOf_iff fun members whole => ?_
  subst whole
  refine section_iff fun cutscenes => ?_
  rw [and_comm]
  refine section_iff fun hints => ?_
  rw [and_comm]
  refine Succeeds.bind_iff (Succeeds.mapM_iff fun entry _ => cutscene_iff entry) fun _ _ => ?_
  exact Succeeds.last_iff (Succeeds.mapM_iff fun entry _ => hint_iff entry)

end Timing

namespace Dialogue

theorem textMember_iff (context : String) (entry : String × Value) :
    Succeeds (textMember context entry) ↔ entry.2.IsText := by
  obtain ⟨name, value⟩ := entry
  rw [← Value.str?_isSome, textMember, textOf?]
  cases value.str? <;> simp

theorem textMap_iff (context : String) (members : List (String × Value)) :
    Succeeds (textMap context members) ↔ ∀ member ∈ members, member.2.IsText := by
  rw [textMap_eq, Succeeds.map_iff]
  exact Succeeds.mapM_iff fun entry _ => textMember_iff context entry

theorem texts?_isSome (items : List Value) :
    (Value.texts? items).isSome = true ↔ ∀ item ∈ items, item.IsText := by
  induction items with
  | nil => simp [Value.texts?]
  | cons item items ih =>
    rw [List.forall_mem_cons, ← ih]
    unfold Value.texts?
    rw [List.mapM_cons]
    cases item with
    | str text =>
      rw [and_iff_right ⟨text, rfl⟩]
      cases items.mapM (m := Option) _ <;> rfl
    | _ => exact iff_of_false nofun fun both => nomatch both.1

theorem textList_iff (context : String) (entry : String × Value) :
    Succeeds (textList context entry) ↔ entry.2.ListOf IsText := by
  refine listOf_iff fun items => ?_
  rw [← texts?_isSome]
  cases Value.texts? items <;> simp

theorem textLists_iff (context : String) (members : List (String × Value)) :
    Succeeds (textLists context members) ↔ ∀ member ∈ members, member.2.ListOf IsText := by
  rw [textLists_eq, Succeeds.map_iff]
  exact Succeeds.mapM_iff fun entry _ => textList_iff context entry

theorem ofValue_iff (value : Value) : Succeeds (ofValue value) ↔ Form value := by
  refine objectOf_iff fun members whole => ?_
  subst whole
  refine section_iff fun speakers => Succeeds.bind_iff (textMap_iff _ speakers) fun _ _ => ?_
  refine section_iff fun cutscenes => Succeeds.bind_iff (textLists_iff _ cutscenes) fun _ _ => ?_
  -- Nothing comes behind the last section, so nothing more is asked for.
  rw [← and_true (Value.MayHave _ _ _)]
  refine section_iff fun hints => ?_
  rw [and_true]
  exact Succeeds.last_iff (textLists_iff _ hints)

end Dialogue

/-- A decoder that accepts what has a form, and refuses all else as malformed. -/
structure Accepts (decode : Value → Except Fault α) (form : Value → Prop) : Prop where
  accepted : ∀ value, Succeeds (decode value) ↔ form value
  refused : ∀ value, ¬ form value → ∃ fault, decode value = .error fault ∧ fault.kind = .parse

theorem Accepts.of_parsing {decode : Value → Except Fault α} {form : Value → Prop}
    (accepted : ∀ value, Succeeds (decode value) ↔ form value)
    (parsing : ∀ value, FailsAs Fault.Parsing (decode value)) : Accepts decode form := by
  refine ⟨accepted, fun value malformed => ?_⟩
  cases result : decode value with
  | ok decoded => exact absurd ((accepted value).mp ⟨decoded, result⟩) malformed
  | error fault => exact ⟨fault, rfl, parsing value fault result⟩

/-- The decoders of both documents accept whatever has the form of the document and nothing else,
and what they refuse they refuse as malformed. -/
theorem documents_accept_their_form :
    Accepts Timing.ofValue Timing.Form ∧ Accepts Dialogue.ofValue Dialogue.Form :=
  ⟨.of_parsing Timing.ofValue_iff Timing.ofValue_parsing,
    .of_parsing Dialogue.ofValue_iff Dialogue.ofValue_parsing⟩

/-- A flag is no frame, and where a member may be missing it may not be null. -/
example :
    let cue (members : List (String × Value)) : Value :=
      .object [("cutscenes", .object [("scene", .list [.object members])])]
    Timing.Form (cue [("frame", .int 1), ("extra", .null)]) ∧
      ¬ Timing.Form (cue [("frame", .bool true)]) ∧
      ¬ Timing.Form (cue [("frame", .int 1), ("speaker", .null)]) := by decide

end Libretto
