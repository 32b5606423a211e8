import Libretto.Proofs.DocumentForms
import Libretto.Proofs.SectionOrder

/-! Documents written and read again. What comes back is what was written, but for the clear
entries, of which the frame alone is written. Whatever a document was like, writing what was read
from it settles its form: the members that may be missing are there, those that mean nothing are
gone and the names are in order, and reading and writing it once more changes nothing. -/
namespace Libretto

namespace OrderedMap
variable {m : OrderedMap String ν}

theorem alike_ofList_sorted : m.Alike (ofList (m.sorted byName)) :=
  fun name => (find?_ofList_sorted byName m name).symm

theorem sorted_ofList_sorted : (ofList (m.sorted byName)).sorted byName = m.sorted byName := by
  rw [sorted, entries_ofList_sorted]
  exact arrange_of_arranged _ (inNameOrder_sorted m)

end OrderedMap

namespace Dialogue

theorem alike_inOrder (dialogue : Dialogue) : dialogue.Alike dialogue.inOrder :=
  ⟨OrderedMap.alike_ofList_sorted, OrderedMap.alike_ofList_sorted, OrderedMap.alike_ofList_sorted⟩

theorem toValue_inOrder (dialogue : Dialogue) : dialogue.inOrder.toValue = dialogue.toValue := by
  simp only [toValue, inOrder, OrderedMap.sorted_ofList_sorted]

/-- A document as it is when what was read from it is written. -/
def normalized (value : Value) : Except Fault Value := (ofValue value).map toValue

theorem normalized_toValue (dialogue : Dialogue) :
    normalized dialogue.toValue = .ok dialogue.toValue := by
  rw [normalized, ofValue_toValue, Except.map, toValue_inOrder]

end Dialogue

theorem Cue.toValue_plain (cue : Cue) : cue.plain.toValue = cue.toValue := by
  obtain ⟨frame, offscreen, speaker, clear⟩ := cue
  cases clear <;> rfl

theorem HintCue.toValue_plain (cue : HintCue) : cue.plain.toValue = cue.toValue := by
  obtain ⟨frame, speaker, clear⟩ := cue
  cases clear <;> rfl

theorem HintTiming.toValue_plain (hint : HintTiming) : hint.plain.toValue = hint.toValue := by
  simp [toValue, plain, HintCue.toValue_plain]

namespace Timing

/-- A timing as far as it is written, with everything where it was. -/
def plain (timing : Timing) : Timing where
  cutscenes := timing.cutscenes.map fun _ => List.map Cue.plain
  hints := timing.hints.map fun _ => HintTiming.plain

theorem inOrder_eq (timing : Timing) : timing.inOrder =
    ⟨.ofList (timing.plain.cutscenes.sorted byName), .ofList (timing.plain.hints.sorted byName)⟩ := by
  rw [plain, OrderedMap.sorted_map, OrderedMap.sorted_map, inOrder]

theorem alike_inOrder (timing : Timing) : timing.plain.Alike timing.inOrder := by
  rw [inOrder_eq]
  exact ⟨OrderedMap.alike_ofList_sorted, OrderedMap.alike_ofList_sorted⟩

theorem toValue_plain (timing : Timing) : timing.plain.toValue = timing.toValue := by
  simp [toValue, plain, OrderedMap.sorted_map, Value.ofMap, Cue.toValue_plain,
    HintTiming.toValue_plain]

theorem toValue_inOrder (timing : Timing) : timing.inOrder.toValue = timing.toValue := by
  rw [← toValue_plain timing, inOrder_eq]
  simp only [toValue, OrderedMap.sorted_ofList_sorted]

/-- A document as it is when what was read from it is written. -/
def normalized (value : Value) : Except Fault Value := (ofValue value).map toValue

theorem normalized_toValue (timing : Timing) : normalized timing.toValue = .ok timing.toValue := by
  rw [normalized, ofValue_toValue, Except.map, toValue_inOrder]

end Timing

/-- What is written is read back: every scene under its name, with its id and its entries in their
order, of which the clear ones keep their frames alone; and every speaker and every text. And a
document that was read and written is in normal form: it stays as it is, with its members in their
order, when it is read and written again. -/
theorem documents_come_back :
    (∀ timing : Timing,
      ∃ back, Timing.ofValue timing.toValue = .ok back ∧ timing.plain.Alike back) ∧
    (∀ dialogue : Dialogue,
      ∃ back, Dialogue.ofValue dialogue.toValue = .ok back ∧ dialogue.Alike back) ∧
    (∀ value document, Timing.normalized value = .ok document →
      Timing.normalized document = .ok document) ∧
    ∀ value document, Dialogue.normalized value = .ok document →
      Dialogue.normalized document = .ok document := by
  refine ⟨fun timing => ?_, fun dialogue => ?_, fun value document done => ?_,
    fun value document done => ?_⟩
  · exact ⟨timing.inOrder, timing.ofValue_toValue, timing.alike_inOrder⟩
  · exact ⟨dialogue.inOrder, dialogue.ofValue_toValue, dialogue.alike_inOrder⟩
  · obtain ⟨timing, -, rfl⟩ := map_ok done
    exact timing.normalized_toValue
  · obtain ⟨dialogue, -, rfl⟩ := map_ok done
    exact dialogue.normalized_toValue

/-- Names out of order, a section that is missing, a clear entry that has a speaker and a cue
without one, and a member that means nothing. -/
theorem crossed_document_is_settled :
    let cue (members : List (String × Value)) : Value := .object (("frame", .int 5) :: members)
    let value : Value := .object [("note", .null), ("cutscenes", .object [
      ("b", .list [cue [("speaker", .str "jak"), ("clear", .bool true)]]),
      ("a", .list [cue [("clear", .bool false)]])])]
    let document : Value := .object [("cutscenes", .object [
      ("a", .list [cue [("offscreen", .bool false), ("speaker", .str "")]]),
      ("b", .list [cue [("clear", .bool true)]])]), ("hints", .object [])]
    Timing.normalized value = .ok document ∧ Timing.normalized document = .ok document := by
  intro cue value document
  let marked : Cue := { frame := 5, speaker := "jak", clear := true }
  let timing : Timing := { cutscenes := .ofList [("b", [marked]), ("a", [{ frame := 5 }])] }
  have read : Timing.ofValue value = .ok timing := rfl
  have sorted : timing.cutscenes.sorted byName = [("a", [{ frame := 5 }]), ("b", [marked])] := by
    decide
  have settled : Timing.normalized value = .ok document := by
    rw [Timing.normalized, read, Except.map, Timing.toValue, sorted]
    rfl
  exact ⟨settled, documents_come_back.2.2.1 value document settled⟩

end Libretto
