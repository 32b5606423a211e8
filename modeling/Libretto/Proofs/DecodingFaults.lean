import Libretto.Setup
import Libretto.Proofs.Edits

/-! How documents fail to be decoded: on their form alone. A fault is handed up from the step that
meets it, so what can be said of the faults of each step can be said of the whole. -/
namespace Libretto

/-- What a result fails with, if it fails, has a property. -/
def FailsAs (property : Fault → Prop) (result : Except Fault α) : Prop :=
  ∀ fault, result = .error fault → property fault

namespace FailsAs
variable {property other : Fault → Prop}

theorem ok (value : α) : FailsAs property (.ok value) := fun _ failed => nomatch failed

theorem error {fault : Fault} (holds : property fault) :
    FailsAs property (.error fault : Except Fault α) := by
  intro own failed
  cases failed
  exact holds

theorem mono {result : Except Fault α} (fails : FailsAs property result)
    (weaker : ∀ fault, property fault → other fault) : FailsAs other result :=
  fun fault failed => weaker fault (fails fault failed)

theorem bind {first : Except Fault α} {next : α → Except Fault β} (head : FailsAs property first)
    (tail : ∀ value, FailsAs property (next value)) : FailsAs property (first >>= next) := by
  cases first with
  | error fault => exact .error (head fault rfl)
  | ok value => exact tail value

theorem map {result : Except Fault α} (fails : FailsAs property result) (f : α → β) :
    FailsAs property (result.map f) := by
  cases result with
  | error fault => exact .error (fails fault rfl)
  | ok value => exact .ok (f value)

theorem mapM {f : α → Except Fault β} {items : List α}
    (each : ∀ item ∈ items, FailsAs property (f item)) : FailsAs property (items.mapM f) := by
  intro fault failed
  obtain ⟨item, member, own⟩ := mapM_error_origin failed
  exact each item member fault own

theorem foldlM {step : β → α → Except Fault β} {items : List α}
    (each : ∀ value, ∀ item ∈ items, FailsAs property (step value item)) (start : β) :
    FailsAs property (items.foldlM step start) := by
  induction items generalizing start with
  | nil => exact .ok start
  | cons item items ih =>
    rw [List.foldlM_cons]
    exact .bind (each start item (by simp)) fun value =>
      ih (fun value other later => each value other (by simp [later])) value

end FailsAs

section decoders
variable (context : String)

/-- The form of a document is at fault. -/
def Fault.Parsing (fault : Fault) : Prop := fault.kind = .parse

theorem objectOf_parsing (value : Value) : FailsAs Fault.Parsing (objectOf context value) := by
  cases value
  case object members => exact .ok members
  all_goals exact .error rfl

theorem listOf_parsing (value : Value) : FailsAs Fault.Parsing (listOf context value) := by
  cases value
  case list items => exact .ok items
  all_goals exact .error rfl

theorem typedField_parsing (field expected : String) (as? : Value → Option α) (value : Value) :
    FailsAs Fault.Parsing (typedField context field expected as? value) := by
  unfold typedField
  cases as? value with
  | some typed => exact .ok typed
  | none => exact .error rfl

theorem required_parsing (members : List (String × Value)) (field expected : String)
    (as? : Value → Option α) :
    FailsAs Fault.Parsing (required context members field expected as?) := by
  unfold required
  cases Entries.find? field members with
  | some value => exact typedField_parsing context field expected as? value
  | none => exact .error rfl

theorem optional_parsing (members : List (String × Value)) (field expected : String)
    (as? : Value → Option α) (instead : α) :
    FailsAs Fault.Parsing (optional context members field expected as? instead) := by
  unfold optional
  cases Entries.find? field members with
  | some value => exact typedField_parsing context field expected as? value
  | none => exact .ok instead

theorem HexId.ofValue_parsing (value : Value) : FailsAs Fault.Parsing (HexId.ofValue value) := by
  unfold HexId.ofValue
  split
  · exact .ok _
  · exact .error rfl
  · split
    · exact .ok _
    · exact .error rfl

theorem TextTable.linesOf_parsing (members : List (String × Value)) :
    FailsAs Fault.Parsing (TextTable.linesOf members) := by
  refine .foldlM (fun lines member _ => ?_) OrderedMap.empty
  obtain ⟨name, value⟩ := member
  cases value
  case str text => exact .bind (HexId.ofValue_parsing _) fun id => .ok _
  all_goals exact .error rfl

namespace Dialogue

theorem textMap_parsing (members : List (String × Value)) :
    FailsAs Fault.Parsing (textMap context members) := by
  unfold textMap
  split
  · exact .ok _
  · exact .error rfl

theorem textLists_parsing (members : List (String × Value)) :
    FailsAs Fault.Parsing (textLists context members) := by
  refine .bind (.mapM fun entry _ => .bind (listOf_parsing _ _) fun lines => ?_) fun _ => .ok _
  split
  · exact .ok _
  · exact .error rfl

theorem ofValue_parsing (value : Value) : FailsAs Fault.Parsing (ofValue value) := by
  refine .bind (objectOf_parsing _ value) fun members => ?_
  refine .bind (objectOf_parsing _ _) fun speakers => .bind (textMap_parsing _ speakers) fun _ => ?_
  refine .bind (objectOf_parsing _ _) fun cutscenes =>
    .bind (textLists_parsing _ cutscenes) fun _ => ?_
  exact .bind (objectOf_parsing _ _) fun hints => .bind (textLists_parsing _ hints) fun _ => .ok _

end Dialogue

theorem Cue.ofValue_parsing (value : Value) : FailsAs Fault.Parsing (Cue.ofValue value) :=
  .bind (objectOf_parsing _ value) fun members =>
    .bind (required_parsing _ members _ _ _) fun _ =>
    .bind (optional_parsing _ members _ _ _ _) fun _ =>
    .bind (optional_parsing _ members _ _ _ _) fun _ =>
    .bind (optional_parsing _ members _ _ _ _) fun _ => .ok _

theorem HintCue.ofValue_parsing (value : Value) : FailsAs Fault.Parsing (HintCue.ofValue value) :=
  .bind (objectOf_parsing _ value) fun members =>
    .bind (required_parsing _ members _ _ _) fun _ =>
    .bind (optional_parsing _ members _ _ _ _) fun _ =>
    .bind (optional_parsing _ members _ _ _ _) fun _ => .ok _

theorem HintTiming.ofValue_parsing (value : Value) :
    FailsAs Fault.Parsing (HintTiming.ofValue value) :=
  .bind (objectOf_parsing _ value) fun members =>
    .bind (required_parsing _ members _ _ _) fun _ =>
    .bind (optional_parsing _ members _ _ _ _) fun _ =>
    .bind (.mapM fun line _ => HintCue.ofValue_parsing line) fun _ => .ok _

theorem Timing.ofValue_parsing (value : Value) : FailsAs Fault.Parsing (Timing.ofValue value) := by
  refine .bind (objectOf_parsing _ value) fun members => ?_
  refine .bind (objectOf_parsing _ _) fun cutscenes => .bind (objectOf_parsing _ _) fun hints => ?_
  refine .bind (.mapM fun entry _ => ?_) fun _ => .bind (.mapM fun entry _ => ?_) fun _ => .ok _
  · exact .bind (listOf_parsing _ _) fun lines =>
      .bind (.mapM fun line _ => Cue.ofValue_parsing line) fun _ => .ok _
  · exact .bind (HintTiming.ofValue_parsing _) fun _ => .ok _

theorem layer_parsing (sections : List String) (base value : Value) :
    FailsAs Fault.Parsing (layer sections base value) := by
  unfold layer
  split
  · refine .bind (.mapM fun name _ => ?_) fun _ => .ok _
    unfold layerSection
    split
    · exact .ok _
    · exact .error rfl
  · exact .error rfl

end decoders

end Libretto
