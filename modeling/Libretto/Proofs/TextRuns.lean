import Libretto.Proofs.TextMerging
import Mathlib.Data.List.Induction
import Mathlib.Data.List.Nodup

/-! Runs of loads into one store of texts. In the languages that can be named the store is at any
time what the loads that succeeded make of it: each line has the text that came last, and the tables
were announced in the order in which they came first. In another language no load succeeds, though
it may leave a table. Loads that fail are steps of a run like others. -/
namespace Libretto

/-- The ways in which texts come into a store: as a document, as the text of one, or as the
file of an input. -/
inductive TextCall
  | merge (source : TextSource) (value : Value)
  | mergeText (source : TextSource) (text : String)
  | load (audience : Option Audience) (files : FileTree) (source : TextSource)

namespace TextCall

def perform : TextCall → Edit TextStore TextTable
  | merge source value => TextStore.merge source value
  | mergeText source text => TextStore.mergeText source text
  | load audience files source => TextStore.load audience files source

def source : TextCall → TextSource
  | merge source _ | mergeText source _ | load _ _ source => source

/-- The document of a call, if it can be got at all. -/
def value : TextCall → Except Fault Value
  | merge _ value => .ok value
  | mergeText _ text => readValue text
  | load _ files source => files.document source.path

/-- The members of the document of a call, none if there is no such document. -/
def members (call : TextCall) : List (String × Value) :=
  match call.value with
  | .ok value => value.members
  | .error _ => []

/-- The table that a call is for, by its group and its language. -/
def place (call : TextCall) : String × Int := (call.source.groupName, call.source.language)

/-- The calls differ in how they get their documents alone. -/
theorem perform_step (call : TextCall) (store : TextStore) :
    let outcome := call.perform store
    store.Step call.source call.members outcome.result outcome.state
      (changes outcome.journal) := by
  cases call with
  | merge source value => exact TextStore.merge_step source value store
  | mergeText source text =>
    dsimp only [perform, TextStore.mergeText, members, value]
    cases readValue text with
    | error fault => exact .refused _
    | ok value => exact TextStore.merge_step source value store
  | load audience files source =>
    dsimp only [perform, TextCall.source, members, value]
    by_cases nowhere : source.path.isEmpty
    case pos =>
      simp only [TextStore.load, nowhere]
      exact .refused _
    cases read : files.document source.path with
    | error fault =>
      have failed := loadDocument_yields audience files .text source.path store
      have spared := @loadDocument_spares _ _ (fun store : TextStore => store) audience files .text
        source.path store
      rw [loadedDocument, read] at failed
      change _ = Except.error _ at failed
      simpa [TextStore.load, nowhere, failed, spared, Edit.log] using TextStore.Step.refused _
    | ok value =>
      have got : (loadDocument audience files .text source.path : Edit TextStore Value) =
          pure value := by
        simp only [loadDocument, read]
      have step := TextStore.merge_step source value store
      cases merged : (TextStore.merge source value store).result with
      | error fault =>
        simp only [merged] at step
        simpa [TextStore.load, nowhere, got, merged, Edit.log] using step
      | ok table =>
        simp only [merged] at step
        simpa [TextStore.load, nowhere, got, merged, written_ok step.named, Edit.log, Edit.report,
          Except.map] using step

end TextCall

/-- The text of a line by the last call for its table that has one. -/
def latestText (place : String × Int) (id : Int) (done : List TextCall) : Option String :=
  done.reverse.findSome? fun call =>
    if call.place = place then lastText id call.members else none

/-- The tables that calls are for, each where it came first. -/
def firstPlaces (done : List TextCall) : List (String × Int) :=
  (done.map TextCall.place).eraseDups

theorem latestText_append (place : String × Int) (id : Int) (done : List TextCall)
    (call : TextCall) : latestText place id (done ++ [call]) =
      (if call.place = place then lastText id call.members else none).or
        (latestText place id done) := by
  rw [latestText, List.reverse_append, List.findSome?_append, List.reverse_singleton,
    List.findSome?_singleton]
  rfl

theorem latestText_of_absent {place : String × Int} {done : List TextCall}
    (absent : place ∉ done.map TextCall.place) (id : Int) : latestText place id done = none := by
  refine List.findSome?_eq_none_iff.mpr fun call member => if_neg ?_
  rintro rfl
  exact absent (List.mem_map_of_mem (List.mem_reverse.mp member))

theorem firstPlaces_append (done : List TextCall) (call : TextCall) :
    firstPlaces (done ++ [call]) = firstPlaces done ++
      if call.place ∈ done.map TextCall.place then [] else [call.place] := by
  unfold firstPlaces
  rw [List.map_append, List.eraseDups_append]
  generalize done.map TextCall.place = places
  by_cases before : call.place ∈ places <;> simp [List.removeAll, List.eraseDups_cons, before]

theorem firstPlaces_nodup (done : List TextCall) : (firstPlaces done).Nodup := by
  induction done using List.reverseRecOn with
  | nil => exact .nil
  | append_singleton done call ih =>
    rw [firstPlaces_append]
    split
    next => rwa [List.append_nil]
    next unheard =>
      have new : call.place ∉ firstPlaces done := mt List.mem_eraseDups.mp unheard
      exact List.concat_eq_append ▸ ih.concat new

namespace TextStore

/-- What a store is after calls, be they failing or not. -/
def run (store : TextStore) : List TextCall → TextStore
  | [] => store
  | call :: calls => run (call.perform store).state calls

/-- What the calls of a run tell, those that fail among them. -/
def told (store : TextStore) : List TextCall → List Entry
  | [] => []
  | call :: calls => (call.perform store).journal ++ told (call.perform store).state calls

/-- The calls of a run that succeed. -/
def succeeded (store : TextStore) : List TextCall → List TextCall
  | [] => []
  | call :: calls =>
    let rest := succeeded (call.perform store).state calls
    if (call.perform store).result.toBool then call :: rest else rest

/-- A store holds what calls brought in languages that can be named, and has told of the tables. -/
structure Holds (loggers : Bool) (store : TextStore) (done : List TextCall)
    (sent : List Event) : Prop where
  audience : store.audience = some ⟨true, loggers⟩
  named : ∀ call ∈ done, Numeral.isWritable call.source.language = true
  tables : ∀ group language, Numeral.isWritable language = true →
    (store.hasTable group language ↔ (group, language) ∈ done.map TextCall.place)
  own : ∀ group language table, store.table? group language = some table →
    table.language = language
  lines : ∀ group language table, Numeral.isWritable language = true →
    store.table? group language = some table →
      ∀ id, table.lines.find? id = latestText (group, language) id done
  announced : sent = (firstPlaces done).map fun (group, language) => .tableAdded group language 0

variable {loggers : Bool} {store after : TextStore} {done : List TextCall} {sent told : List Event}

theorem Holds.new (loggers : Bool) : Holds loggers (.new (some ⟨true, loggers⟩)) [] [] := by
  have bare (group : String) (language : Int) :
      (TextStore.new (some ⟨true, loggers⟩)).table? group language = none := rfl
  constructor
  case audience => rfl
  case named => simp
  case tables => simp [hasTable, bare]
  case own => simp [bare]
  case lines => simp [bare]
  case announced => rfl

namespace Holds

theorem tableFor_language (holds : Holds loggers store done sent) (source : TextSource) :
    (store.tableFor source).language = source.language := by
  unfold tableFor
  cases found : store.table? source.groupName source.language with
  | none => rfl
  | some table => exact holds.own _ _ table found

theorem tableFor_line (holds : Holds loggers store done sent) {source : TextSource}
    (named : Numeral.isWritable source.language = true) (id : Int) :
    (store.tableFor source).lines.find? id =
      latestText (source.groupName, source.language) id done := by
  unfold tableFor
  cases found : store.table? source.groupName source.language with
  | none =>
    have absent : (source.groupName, source.language) ∉ done.map TextCall.place := by
      rw [← holds.tables _ _ named, hasTable, found]
      exact Bool.false_ne_true
    rw [latestText_of_absent absent]
    rfl
  | some table => exact holds.lines _ _ table named found id

/-- The lines of one more call come over those that are there. -/
theorem merged {call : TextCall} {table : TextTable} (holds : Holds loggers store done sent)
    (step : store.Step call.source call.members (.ok table) after told) :
    Holds loggers after (done ++ [call]) (sent ++ told) := by
  cases step with
  | @merged lines _ _ named read filled announces =>
    have own : table.language = call.source.language := by
      rw [filled, TextTable.setLines_language, holds.tableFor_language]
    have line (id : Int) : table.lines.find? id =
        (lastText id call.members).or (latestText call.place id done) := by
      rw [filled, TextTable.setLines_eq, OrderedMap.find?_extend_entries,
        TextTable.find?_linesOf read, holds.tableFor_line named]
      rfl
    have found (group : String) (language : Int) :
        (store.putTable call.source.groupName table).table? group language =
          if call.place = (group, language) then some table else store.table? group language := by
      rw [table?_putTable, own]
      simp only [TextCall.place, Prod.mk.injEq]
    have tells : told = if call.place ∈ done.map TextCall.place then []
        else [.tableAdded call.source.groupName call.source.language 0] := by
      have known := holds.tables call.source.groupName call.source.language named
      simp only [announces, holds.audience, known]
      rfl
    constructor
    case audience => exact holds.audience
    case named =>
      intro other member
      rcases List.mem_append.mp member with before | last
      · exact holds.named other before
      · cases List.mem_singleton.mp last
        exact named
    case tables =>
      intro group language writable
      rw [hasTable, found, List.map_append, List.mem_append, ← holds.tables _ _ writable,
        List.map_singleton, List.mem_singleton, @eq_comm _ (group, language)]
      by_cases same : call.place = (group, language)
      · simp [same]
      · simp [same, hasTable]
    case own =>
      intro group language other there
      rw [found] at there
      split at there
      next same =>
        cases there
        cases same
        exact own
      next => exact holds.own group language other there
    case lines =>
      intro group language other writable there id
      rw [found] at there
      rw [latestText_append]
      split at there
      next same =>
        cases there
        rw [line, same, if_pos rfl]
      next different =>
        rw [if_neg different, Option.none_or]
        exact holds.lines group language other writable there id
    case announced =>
      rw [firstPlaces_append, List.map_append, ← holds.announced, tells]
      by_cases before : call.place ∈ done.map TextCall.place
      · rw [if_pos before, if_pos before, List.map_nil]
      · rw [if_neg before, if_neg before]
        rfl

/-- Into a language that cannot be named a load may put a table, but none that anybody hears of. -/
theorem unnamed {group : String} {table : TextTable} (holds : Holds loggers store done sent)
    (huge : Numeral.isWritable table.language = false) :
    Holds loggers (store.putTable group table) done sent := by
  have elsewhere (other : String) {language : Int}
      (writable : Numeral.isWritable language = true) :
      (store.putTable group table).table? other language = store.table? other language := by
    rw [table?_putTable, if_neg]
    rintro ⟨-, rfl⟩
    rw [writable] at huge
    cases huge
  constructor
  case audience => exact holds.audience
  case named => exact holds.named
  case tables =>
    intro other language writable
    rw [hasTable, elsewhere other writable]
    exact holds.tables other language writable
  case own =>
    intro other language held there
    rw [table?_putTable] at there
    split at there
    next same =>
      cases there
      exact same.2
    next => exact holds.own other language held there
  case lines =>
    intro other language held writable there
    rw [elsewhere other writable] at there
    exact holds.lines other language held writable there
  case announced => exact holds.announced

theorem begun_language (holds : Holds loggers store done sent) (source : TextSource)
    (lines : OrderedMap Int String) : (store.begun source lines).language = source.language := by
  unfold begun
  cases found : store.table? source.groupName source.language with
  | none => rfl
  | some table =>
    rw [TextTable.setLines_language]
    exact holds.own _ _ table found

/-- A call that fails adds nothing that counts. -/
theorem failed {source : TextSource} {members : List (String × Value)} {fault : Fault}
    (holds : Holds loggers store done sent)
    (step : store.Step source members (.error fault) after told) :
    Holds loggers after done (sent ++ told) := by
  cases step with
  | refused => rwa [List.append_nil]
  | @unnamed lines huge read =>
    rw [List.append_nil]
    exact holds.unnamed (holds.begun_language source lines ▸ huge)

end Holds

/-- A run adds the calls that succeed in it to those before. -/
theorem run_holds {calls : List TextCall} (holds : Holds loggers store done sent) :
    Holds loggers (store.run calls) (done ++ store.succeeded calls)
      (sent ++ changes (store.told calls)) := by
  induction calls generalizing store done sent with
  | nil => simpa [run, succeeded, TextStore.told] using holds
  | cons call calls ih =>
    have step := call.perform_step store
    dsimp only at step
    rw [run, succeeded, TextStore.told, changes_append, ← List.append_assoc]
    cases result : (call.perform store).result with
    | error fault =>
      rw [result] at step
      have rest := ih (holds.failed step)
      simpa [Except.toBool] using rest
    | ok table =>
      rw [result] at step
      have rest := ih (holds.merged step)
      simpa [Except.toBool] using rest

/-- What a load leaves behind whose language cannot be named: its document is fine, and the table
is there as far as the load got. -/
def Unnamed (call : TextCall) (before : TextStore) (fault : Fault) (after : TextStore) : Prop :=
  Numeral.isWritable call.source.language = false ∧ fault = .unwritableInteger ∧
    ∃ lines, TextTable.linesOf call.members = .ok lines ∧
      after = before.putTable call.source.groupName (before.begun call.source lines)

theorem Step.leaves {call : TextCall} {before after : TextStore} {fault : Fault} {told : List Event}
    (step : before.Step call.source call.members (.error fault) after told) :
    told = [] ∧ (after = before ∨ Unnamed call before fault after) := by
  cases step with
  | refused => exact ⟨rfl, .inl rfl⟩
  | unnamed huge read => exact ⟨rfl, .inr ⟨huge, rfl, _, read, rfl⟩⟩

/-- The last load wins. In a store that was empty and has an audience, there is a table for the
places that loads were for and for no other, under its own language. A line is the last that a
document has for its id, of the latest document that has it; without one it is not found. Each
table was announced once, in the order in which they came first. All this is of the languages that
can be named, and of another one no load succeeds. Loads that fail announce nothing, and leave the
store as it was unless only the name of their language is wrong. -/
theorem texts_come_from_the_last_loads_or_cannot_name_their_language (loggers : Bool)
    (calls : List TextCall) :
    let start := TextStore.new (some ⟨true, loggers⟩)
    let store := start.run calls
    let done := start.succeeded calls
    (∀ call ∈ done, Numeral.isWritable call.source.language = true) ∧
    (∀ group language, Numeral.isWritable language = true →
      (store.hasTable group language ↔
        ∃ call ∈ done, call.source.groupName = group ∧ call.source.language = language)) ∧
    (∀ group language table, store.table? group language = some table →
      table.language = language ∧
      (Numeral.isWritable language = true →
        ∀ id, table.line id = match latestText (group, language) id done with
          | some text => .ok text
          | none => .error (.lineNotFound id language))) ∧
    (changes (start.told calls) =
      (firstPlaces done).map fun (group, language) => .tableAdded group language 0) ∧
    (changes (start.told calls)).Nodup ∧
    ∀ (call : TextCall) (store : TextStore) (fault : Fault),
      (call.perform store).result = .error fault →
        changes (call.perform store).journal = [] ∧
        ((call.perform store).state = store ∨
          Unnamed call store fault (call.perform store).state) := by
  intro start store done
  have holds : Holds loggers store done (changes (start.told calls)) :=
    run_holds (Holds.new loggers)
  refine ⟨holds.named, fun group language writable => ?_,
    fun group language table found => ⟨?_, fun writable id => ?_⟩,
    holds.announced, ?_, fun call store fault failed => ?_⟩
  · rw [holds.tables group language writable, List.mem_map]
    simp only [TextCall.place, Prod.mk.injEq]
  · exact holds.own group language table found
  · have line := holds.lines group language table writable found id
    have own := holds.own group language table found
    cases latest : latestText (group, language) id done with
    | none => simp [TextTable.line, line, latest, own, Fault.naming, writable]
    | some text => simp [TextTable.line, line, latest]
  · rw [holds.announced]
    refine (firstPlaces_nodup done).map fun one two same => ?_
    injection same with group language
    exact Prod.ext group language
  · have step := call.perform_step store
    dsimp only at step
    rw [failed] at step
    exact step.leaves

/-- An empty document for a language that cannot be written fails, and its table is there. -/
theorem unwritable_language_leaves_a_table :
    let source : TextSource := { language := Nat.pow 10 Numeral.decimalLimit }
    let start := TextStore.new (some ⟨true, false⟩)
    let calls : List TextCall := [.merge source (.object [])]
    start.hasTable source.groupName source.language = false ∧ start.succeeded calls = [] ∧
      (start.run calls).hasTable source.groupName source.language = true ∧
      changes (start.told calls) = [] := by
  intro source start calls
  have huge : Numeral.isWritable source.language = false := Numeral.isWritable_bound
  have spoken : ¬ source.language < 0 := Int.not_lt.mpr (Int.natCast_nonneg _)
  have ran := merge_absent rfl spoken (show TextTable.linesOf [] = .ok .empty from rfl)
    (show start.table? source.groupName source.language = none from rfl)
  dsimp only at ran
  rw [huge, if_neg Bool.false_ne_true] at ran
  simp only [calls, succeeded, run, told, TextCall.perform]
  simp only [ran]
  refine ⟨rfl, rfl, ?_, rfl⟩
  rw [hasTable, table?_putTable, if_pos ⟨rfl, rfl⟩]
  rfl

/-- The same id in three spellings, and a document between that is refused at its last member. -/
example :
    let source : TextSource := { language := 1 }
    let start := TextStore.new (some ⟨true, false⟩)
    let store := start.run [
      .merge source (.object [("0x10", .str "first"), ("010", .str "second")]),
      .merge source (.object [("10", .str "lost"), ("g", .str "no id")]),
      .merge source (.object [("11", .str "other")])]
    (store.table? "common" 1).map (·.lines.entries) = some [(16, "second"), (17, "other")] := by
  decide +kernel

end TextStore

end Libretto
