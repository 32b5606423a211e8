import Libretto.Proofs.PrintedDocuments
import Libretto.Proofs.SortedLists
import Libretto.Proofs.TextMerging

/-! Tables of text on their way through a document. The names in the document come back as the
ids that they were written for, so a table that can be written is read back line by line, and
written again it is the same document. -/
namespace Libretto

theorem byId_ranks : Ranks byId := by
  constructor
  · intro a b
    simp only [byId, decide_eq_true_eq, decide_eq_false_iff_not]
    omega
  · intro a b c
    simp only [byId, decide_eq_false_iff_not]
    omega

namespace TextTable

/-- The ids can be written. -/
def NaturalIds (table : TextTable) : Prop := ∀ id ∈ table.lines.keys, 0 ≤ id

/-- A line under the name that it has in a document. -/
def written (line : Int × String) : String × String := (HexId.text 4 line.1.toNat, line.2)

/-- A line as it stands in a document. -/
def member (line : Int × String) : String × Value := ((written line).1, .str (written line).2)

variable {table : TextTable}

theorem mem_inOrder (table : TextTable) (line : Int × String) :
    line ∈ table.inOrder ↔ line ∈ table.lines.entries :=
  mem_arrange _ table.lines.entries line

theorem NaturalIds.inOrder (natural : table.NaturalIds) : ∀ line ∈ table.inOrder, 0 ≤ line.1 :=
  fun line member =>
    natural line.1 (List.mem_map_of_mem ((mem_inOrder table line).mp member))

theorem compose_natural (natural : table.NaturalIds) :
    table.compose = .ok (table.inOrder.map written) := by
  refine mapM_ok_of_each fun line member => ?_
  have format := HexId.format_natural (natural.inOrder line member) 4 (by decide)
    (by decide)
  simp only [format]
  rfl

theorem compose_error {fault : Fault} (failed : table.compose = .error fault) :
    ∃ id ∈ table.lines.keys, id < 0 ∧ fault = .negativeHexId id := by
  obtain ⟨⟨id, text⟩, member, faulty⟩ := mapM_error_origin failed
  have there : id ∈ table.lines.keys := List.mem_map_of_mem ((mem_inOrder table _).mp member)
  refine ⟨id, there, ?_⟩
  by_cases natural : 0 ≤ id
  · have format := HexId.format_natural natural 4 (by decide) (by decide)
    simp only [format] at faulty
    cases faulty
  · have negative : id < 0 := by omega
    simp only [HexId.format, negative, if_true] at faulty
    cases faulty
    exact ⟨negative, rfl⟩

theorem compose_error_iff (table : TextTable) :
    (∃ fault, table.compose = .error fault) ↔ ∃ id ∈ table.lines.keys, id < 0 := by
  constructor
  · rintro ⟨fault, failed⟩
    obtain ⟨id, there, negative, -⟩ := compose_error failed
    exact ⟨id, there, negative⟩
  · rintro ⟨id, there, negative⟩
    obtain ⟨⟨_, text⟩, member, rfl⟩ := List.mem_map.mp there
    cases composed : table.compose with
    | error fault => exact ⟨fault, rfl⟩
    | ok members =>
      obtain ⟨result, -, made⟩ := mapM_ok_each composed _ ((mem_inOrder table _).mpr member)
      simp only [HexId.format, negative, if_true] at made
      cases made

theorem document_eq (table : TextTable) : table.document =
    table.compose.map fun members => Json.text (Value.ofMap .str members) := by
  unfold document
  cases table.compose <;> rfl

/-- What is in the way of a document is an id below zero, and nothing else. -/
theorem document_error_iff (table : TextTable) :
    (∃ fault, table.document = .error fault) ↔ ∃ id ∈ table.lines.keys, id < 0 := by
  rw [← compose_error_iff, document_eq]
  cases table.compose <;> simp [Except.map]

theorem document_error {fault : Fault} (failed : table.document = .error fault) :
    fault.kind = .value := by
  rw [document_eq] at failed
  cases composed : table.compose with
  | ok members => simp [composed, Except.map] at failed
  | error cause =>
    obtain ⟨id, -, -, rfl⟩ := compose_error composed
    rw [composed] at failed
    cases failed
    rfl

theorem natural_of_document {text : String} (written : table.document = .ok text) :
    table.NaturalIds := by
  intro id there
  rcases Int.lt_or_le id 0 with negative | natural
  · obtain ⟨fault, failed⟩ := (document_error_iff table).mpr ⟨id, there, negative⟩
    rw [written] at failed
    cases failed
  · exact natural

theorem document_natural (natural : table.NaturalIds) :
    table.document = .ok (Json.text (.object (table.inOrder.map member))) := by
  rw [document_eq, compose_natural natural]
  simp only [Except.map, Value.ofMap, List.map_map]
  rfl

/-- Different ids have different names. -/
theorem member_distinct {lines : List (Int × String)} (distinct : (lines.map Prod.fst).Nodup)
    (natural : ∀ line ∈ lines, 0 ≤ line.1) : ((lines.map member).map Prod.fst).Nodup := by
  rw [List.map_map]
  apply List.pairwise_map.mpr
  apply (List.pairwise_map.mp distinct).imp_of_mem
  intro first second inFirst inSecond apart same
  have equal : first.1.toNat = second.1.toNat := HexId.text_injective same
  have := natural first inFirst
  have := natural second inSecond
  omega

theorem readValue_members {lines : List (Int × String)}
    (distinct : (lines.map Prod.fst).Nodup) (natural : ∀ line ∈ lines, 0 ≤ line.1) :
    readValue (Json.text (.object (lines.map member))) = .ok (.object (lines.map member)) := by
  have legible : Json.Legible Json.depthLimit 0 (.object (lines.map member)) := by
    refine Json.legible_object (member_distinct distinct natural) fun entry there => ?_
    obtain ⟨line, -, rfl⟩ := List.mem_map.mp there
    exact Json.legible_str _ _ _
  rw [readValue, Json.read_text legible]
  rfl

/-- The names of a document are the ids again. -/
theorem linesOf_members {lines : List (Int × String)} (natural : ∀ line ∈ lines, 0 ≤ line.1) :
    linesOf (lines.map member) = .ok (.ofList lines) := by
  unfold linesOf OrderedMap.ofList
  generalize (OrderedMap.empty : OrderedMap Int String) = before
  induction lines generalizing before with
  | nil => rfl
  | cons line lines ih =>
    have id_eq : (line.1.toNat : Int) = line.1 := Int.toNat_of_nonneg (natural line (by simp))
    have read := HexId.ofValue_text 4 line.1.toNat
    rw [id_eq] at read
    rw [List.map_cons, List.foldlM_cons]
    simp only [member, written, read]
    exact ih (fun other later => natural other (by simp [later])) (before.insert line.1 line.2)

/-- Lines that have been arranged stay as they are. -/
theorem inOrder_ofList (language : Int) (table : TextTable) :
    inOrder ⟨language, .ofList table.inOrder⟩ = table.inOrder := by
  have entries := OrderedMap.entries_ofList_sorted byId table.lines
  have ranks : Ranks fun a b : Int × String => byId a.1 b.1 := byId_ranks.comap
  have arranged := arrange_arranged ranks table.lines.entries
  unfold inOrder OrderedMap.sorted at *
  rw [entries, arrange_of_arranged _ arranged]

/-- The table that is read from the document of another one. -/
def restored (table : TextTable) (language : Int) : TextTable := ⟨language, .ofList table.inOrder⟩

theorem restored_line (table : TextTable) (language id : Int) :
    (table.restored language).lines.find? id = table.lines.find? id :=
  OrderedMap.find?_ofList_sorted byId table.lines id

theorem NaturalIds.restored (natural : table.NaturalIds) (language : Int) :
    (table.restored language).NaturalIds := by
  intro id there
  obtain ⟨line, member, rfl⟩ := List.mem_map.mp there
  rw [TextTable.restored, TextTable.inOrder, OrderedMap.entries_ofList_sorted] at member
  exact natural.inOrder line member

theorem restored_document (natural : table.NaturalIds) (language : Int) :
    (table.restored language).document = table.document := by
  rw [document_natural natural, document_natural (natural.restored language), restored,
    inOrder_ofList]

/-- Into a table that has no lines yet, lines that have been arranged come as they are. -/
theorem setLines_restored (table : TextTable) (language : Int) :
    (new language).setLines (OrderedMap.ofList table.inOrder).entries =
      table.restored language := by
  rw [setLines_eq, inOrder, OrderedMap.entries_ofList_sorted]
  rfl

end TextTable

namespace TextStore
variable {table : TextTable} {source : TextSource} {store : TextStore}

/-- A document is read into a store that has no table in its place. -/
theorem mergeText_document (natural : table.NaturalIds) {text : String}
    (written : table.document = .ok text) (json : source.format = .json)
    (spoken : 0 ≤ source.language)
    (absent : store.table? source.groupName source.language = none) :
    mergeText source text store = if Numeral.isWritable source.language then
      ⟨.ok (table.restored source.language),
        store.putTable source.groupName (table.restored source.language),
        .log (.tableAdded source.groupName source.language) ::
          announce store.audience (.tableAdded source.groupName source.language 0) ++
          [.log (.linesLoaded table.size source.groupName source.language)]⟩
      else ⟨.error .unwritableInteger, store.putTable source.groupName (.new source.language),
        []⟩ := by
  have distinct : (table.inOrder.map Prod.fst).Nodup :=
    (((arrange_perm _ table.lines.entries).map Prod.fst).nodup_iff).mpr table.lines.distinct
  rw [TextTable.document_natural natural] at written
  cases written
  rw [mergeText, TextTable.readValue_members distinct natural.inOrder]
  have lines := TextTable.linesOf_members natural.inOrder
  have ran := merge_absent json (Int.not_lt.mpr spoken) lines absent
  have size : (OrderedMap.ofList table.inOrder).size = table.size := by
    unfold OrderedMap.size TextTable.inOrder
    rw [OrderedMap.entries_ofList_sorted]
    exact (arrange_perm _ table.lines.entries).length_eq
  rw [TextTable.setLines_restored, size] at ran
  exact ran

/-- A table can be written unless it has an id below zero, and what is written is read back line
by line. Written again it is the same text. Only a language that cannot be written is in the
way. -/
theorem document_restores_table (table : TextTable) :
    ((∃ fault, table.document = .error fault) ↔ ∃ id ∈ table.lines.keys, id < 0) ∧
    (∀ fault, table.document = .error fault → fault.kind = .value) ∧
    ∀ text, table.document = .ok text → ∀ (source : TextSource) (store : TextStore),
      source.format = .json → 0 ≤ source.language →
      Numeral.isWritable source.language = true →
      store.table? source.groupName source.language = none →
      ∃ made, (mergeText source text store).result = .ok made ∧
        (mergeText source text store).state.table? source.groupName source.language = some made ∧
        (∀ id, made.lines.find? id = table.lines.find? id) ∧ made.document = .ok text := by
  refine ⟨TextTable.document_error_iff table, fun fault => TextTable.document_error, ?_⟩
  intro text written source store json spoken writable absent
  have natural : table.NaturalIds := TextTable.natural_of_document written
  have ran := mergeText_document natural written json spoken absent
  rw [writable, if_pos rfl] at ran
  refine ⟨table.restored source.language, by rw [ran], ?_, table.restored_line _, ?_⟩
  · rw [ran, table?_putTable, if_pos ⟨rfl, rfl⟩]
  · rw [TextTable.restored_document natural, written]

/-- A text with a quote, a backslash, a line end and a control character, under an id that is
longer than its field, and a line before it. -/
theorem document_restores_marked_text :
    let table : TextTable := ⟨3, .ofList [(0x12345, "a\"\\\n\x01é"), (7, "")]⟩
    let text := "\x7b\n  \"0007\": \"\",\n  \"12345\": \"a\\\"\\\\\\n\\u0001é\"\n\x7d"
    let source : TextSource := { language := 0 }
    table.document = .ok text ∧
      ∃ made, (mergeText source text (.new none)).result = .ok made ∧
        made.lines.find? 0x12345 = some "a\"\\\n\x01é" ∧ made.document = .ok text := by
  intro table text source
  have written : table.document = .ok text := rfl
  obtain ⟨-, -, restores⟩ := document_restores_table table
  obtain ⟨made, result, -, lines, again⟩ :=
    restores text written source (.new none) rfl (Int.le_refl 0) (by decide +kernel) rfl
  exact ⟨written, made, result, (lines 0x12345).trans rfl, again⟩

/-- In a language that cannot be written no text comes in: loading stops at the empty table. -/
theorem unwritable_language_takes_no_texts :
    let table : TextTable := ⟨0, .ofList [(1, "a")]⟩
    let source : TextSource := { language := Nat.pow 10 Numeral.decimalLimit }
    source.format = .json ∧ 0 ≤ source.language ∧ ∃ text, table.document = .ok text ∧
      (mergeText source text (.new none)).result = .error .unwritableInteger := by
  intro table source
  have natural : table.NaturalIds := by
    intro id there
    have same : id = 1 := List.mem_singleton.mp there
    omega
  have spoken : 0 ≤ source.language := Int.natCast_nonneg _
  have huge : Numeral.isWritable source.language = false := Numeral.isWritable_bound
  have written := TextTable.document_natural natural
  have absent : (new none).table? source.groupName source.language = none := rfl
  have ran := mergeText_document natural written rfl spoken absent
  rw [huge, if_neg Bool.false_ne_true] at ran
  exact ⟨rfl, spoken, _, written, by rw [ran]⟩

end TextStore

end Libretto
