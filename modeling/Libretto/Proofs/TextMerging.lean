import Libretto.TextImport
import Libretto.Proofs.Deliveries

/-! What one load does to a store of texts. Once its names are read a document is a map of lines,
in which the last text for an id counts; a table takes these in over the lines that it has. The
document is read to its end before the store changes, so a load comes in whole or not at all,
unless its language cannot be named: that is found out on the way. -/
namespace Libretto

/-- Whether a name in a document stands for the line of an id. -/
def HexId.standsFor (id : Int) (name : String) : Bool :=
  (HexId.ofValue (.str name)).toOption = some id

/-- The text that a document has for a line, the last one if several names stand for it. -/
def lastText (id : Int) (members : List (String × Value)) : Option String :=
  (members.reverse.find? fun (name, _) => HexId.standsFor id name).map fun (_, value) => value.text

theorem lastText_cons (id : Int) (name text : String) (members : List (String × Value)) :
    lastText id ((name, .str text) :: members) =
      (lastText id members).or (if HexId.standsFor id name then some text else none) := by
  unfold lastText
  rw [List.reverse_cons, List.find?_append, Option.map_or]
  by_cases here : HexId.standsFor id name <;> simp [here, Value.text]

/-- The members of a document; what is no object has none. -/
def Value.members : Value → List (String × Value)
  | .object members => members
  | _ => []

namespace TextTable

/-- A document that is read has for each line the last text. -/
theorem find?_linesOf {members : List (String × Value)} {lines : OrderedMap Int String}
    (read : linesOf members = .ok lines) (id : Int) : lines.find? id = lastText id members := by
  unfold linesOf at read
  rw [← (lastText id members).or_none, ← OrderedMap.find?_empty id]
  -- Over any lines that are there already: the reader starts from none.
  generalize OrderedMap.empty = before at read ⊢
  induction members generalizing before with
  | nil =>
    cases read
    rfl
  | cons member members ih =>
    obtain ⟨name, value⟩ := member
    obtain ⟨after, first, rest⟩ := bind_ok read
    cases value with
    | str text =>
      obtain ⟨key, known, entered⟩ := bind_ok first
      cases entered
      have stands : HexId.standsFor id name = decide (key = id) := by
        simp [HexId.standsFor, known, Except.toOption]
      rw [ih _ rest, lastText_cons, stands, OrderedMap.find?_insert, Option.or_assoc]
      by_cases same : key = id <;> simp [same]
    | _ => cases first

@[simp] theorem new_language (language : Int) : (new language).language = language := rfl

theorem setLines_eq (table : TextTable) (lines : List (Int × String)) :
    table.setLines lines = ⟨table.language, table.lines.extend lines⟩ := by
  induction lines generalizing table with
  | nil => rfl
  | cons line lines ih => exact ih (table.setLine line.1 line.2)

@[simp] theorem setLines_language (table : TextTable) (lines : List (Int × String)) :
    (table.setLines lines).language = table.language := by
  rw [setLines_eq]

end TextTable

namespace TextStore
variable {store : TextStore} {group : String} {language : Int}

theorem table?_putTable (store : TextStore) (group other : String) (table : TextTable)
    (language : Int) : (store.putTable group table).table? other language =
      if group = other ∧ table.language = language then some table
      else store.table? other language := by
  unfold table? TextStore.group putTable
  rw [OrderedMap.find?_insert]
  by_cases same : group = other
  · simp [same, OrderedMap.find?_insert, TextStore.group]
  · simp [same]

/-- Of two tables for one place the later one is left. -/
theorem putTable_putTable (store : TextStore) (group : String) {first second : TextTable}
    (same : first.language = second.language) :
    (store.putTable group first).putTable group second = store.putTable group second := by
  simp [putTable, TextStore.group, same, OrderedMap.insert_insert]

theorem hasTable_eq_false_iff (store : TextStore) (group : String) (language : Int) :
    store.hasTable group language = false ↔ store.table? group language = none := by
  simp [hasTable]

/-- The table that the lines of an input go to: that of its place, or a new one. -/
def tableFor (store : TextStore) (source : TextSource) : TextTable :=
  (store.table? source.groupName source.language).getD (.new source.language)

/-- The table of a load whose language cannot be named, as far as the load gets: one that was there
has its lines, a new one is still empty. -/
def begun (store : TextStore) (source : TextSource) (lines : OrderedMap Int String) : TextTable :=
  match store.table? source.groupName source.language with
  | some table => table.setLines lines.entries
  | none => .new source.language

/-- What a load does: it is refused and all stays as it is, or it begins and cannot be told of, or
the lines of its document come in over those of its table. Only a table that was not there is
announced, still empty. -/
inductive Step (before : TextStore) (source : TextSource) (members : List (String × Value)) :
    Except Fault TextTable → TextStore → List Event → Prop where
  | refused (fault : Fault) : Step before source members (.error fault) before []
  | unnamed {lines : OrderedMap Int String} (huge : Numeral.isWritable source.language = false)
      (read : TextTable.linesOf members = .ok lines) :
      Step before source members (.error .unwritableInteger)
        (before.putTable source.groupName (before.begun source lines)) []
  | merged {lines : OrderedMap Int String} {table : TextTable} {told : List Event}
      (named : Numeral.isWritable source.language = true)
      (read : TextTable.linesOf members = .ok lines)
      (filled : table = (before.tableFor source).setLines lines.entries)
      (tells : told = if before.hasTable source.groupName source.language then []
        else changes (announce before.audience
          (.tableAdded source.groupName source.language 0))) :
      Step before source members (.ok table) (before.putTable source.groupName table) told

theorem Step.of_refused {before : TextStore} {source : TextSource}
    {members : List (String × Value)} {outcome : Outcome TextStore TextTable} (fault : Fault)
    (ran : outcome = ⟨.error fault, before, []⟩) :
    Step before source members outcome.result outcome.state (changes outcome.journal) :=
  ran ▸ .refused fault

theorem Step.named {before after : TextStore} {source : TextSource}
    {members : List (String × Value)} {table : TextTable} {told : List Event}
    (step : Step before source members (.ok table) after told) :
    Numeral.isWritable source.language = true := by
  cases step with
  | merged named _ _ _ => exact named

theorem addTable_new (absent : store.table? group language = none) :
    addTable group (.new language) store =
      ⟨written language (.new language), store.putTable group (.new language),
        if Numeral.isWritable language then .log (.tableAdded group language) ::
          announce store.audience (.tableAdded group language 0) else []⟩ := by
  have empty : (TextTable.new language).size = 0 := rfl
  have unknown : store.hasTable group language = false :=
    (store.hasTable_eq_false_iff group language).mpr absent
  cases writable : Numeral.isWritable language <;>
    simp [addTable, unknown, empty, written, writable, Edit.log, Edit.send, Except.map]

section document
variable {source : TextSource} {members : List (String × Value)} {lines : OrderedMap Int String}
  (json : source.format = .json) (spoken : ¬ source.language < 0)
  (read : TextTable.linesOf members = .ok lines)
include json spoken read

theorem merge_present {table : TextTable}
    (found : store.table? source.groupName source.language = some table) :
    let filled := table.setLines lines.entries
    merge source (.object members) store =
      ⟨written source.language filled, store.putTable source.groupName filled,
        if Numeral.isWritable source.language then
          [.log (.linesLoaded lines.size source.groupName source.language)] else []⟩ := by
  intro filled
  have ready : (Edit.ofExcept (.ok lines) : Edit TextStore _) = pure lines := rfl
  cases writable : Numeral.isWritable source.language <;>
    simp [merge, json, spoken, read, ready, found, written, writable, filled, Edit.log, Except.map]

/-- A table is added empty, and then replaced by one with the lines. -/
theorem merge_absent (absent : store.table? source.groupName source.language = none) :
    let filled := (TextTable.new source.language).setLines lines.entries
    merge source (.object members) store = if Numeral.isWritable source.language then
      ⟨.ok filled, store.putTable source.groupName filled,
        .log (.tableAdded source.groupName source.language) ::
          announce store.audience (.tableAdded source.groupName source.language 0) ++
          [.log (.linesLoaded lines.size source.groupName source.language)]⟩
      else ⟨.error .unwritableInteger, store.putTable source.groupName (.new source.language),
        []⟩ := by
  intro filled
  have ready : (Edit.ofExcept (.ok lines) : Edit TextStore _) = pure lines := rfl
  have added := addTable_new absent
  cases writable : Numeral.isWritable source.language with
  | true =>
    have same : (TextTable.new source.language).language = filled.language :=
      ((TextTable.new source.language).setLines_language lines.entries).symm
    have replaced := putTable_putTable store source.groupName same
    rw [written_ok writable, writable, if_pos rfl] at added
    simp [merge, json, spoken, read, ready, absent, added, replaced, filled, written, writable,
      Edit.log, Except.map]
  | false =>
    rw [written_error writable, writable, if_neg Bool.false_ne_true] at added
    simp [merge, json, spoken, read, ready, absent, added]

theorem merge_read (store : TextStore) :
    let outcome := merge source (.object members) store
    Step store source members outcome.result outcome.state (changes outcome.journal) := by
  cases found : store.table? source.groupName source.language with
  | some table =>
    rw [merge_present json spoken read found]
    cases writable : Numeral.isWritable source.language with
    | true =>
      rw [written_ok writable, if_pos rfl]
      refine .merged writable read ?_ ?_
      · simp [tableFor, found]
      · simp [hasTable, found]
    | false =>
      have begun : store.begun source lines = table.setLines lines.entries := by
        simp only [TextStore.begun, found]
      rw [written_error writable, if_neg Bool.false_ne_true, ← begun]
      exact .unnamed writable read
  | none =>
    rw [merge_absent json spoken read found]
    cases writable : Numeral.isWritable source.language with
    | true =>
      rw [if_pos rfl]
      refine .merged writable read ?_ ?_
      · simp [tableFor, found]
      · simp [hasTable, found]
    | false =>
      have begun : store.begun source lines = .new source.language := by
        simp only [TextStore.begun, found]
      rw [if_neg Bool.false_ne_true, ← begun]
      exact .unnamed writable read

end document

theorem merge_step (source : TextSource) (value : Value) (store : TextStore) :
    let outcome := merge source value store
    Step store source value.members outcome.result outcome.state (changes outcome.journal) := by
  by_cases json : source.format = .json
  case neg => exact .of_refused (.unsupportedText source) (by simp [merge, json])
  by_cases spoken : source.language < 0
  case pos => exact .of_refused (.noTextLanguage source) (by simp [merge, json, spoken])
  cases value with
  | object members =>
    cases read : TextTable.linesOf members with
    | error fault =>
      exact .of_refused fault (by simp [merge, json, spoken, Edit.ofExcept, read])
    | ok lines => exact merge_read json spoken read store
  | _ =>
    simp only [merge, json, spoken]
    exact .refused _

end TextStore

end Libretto
