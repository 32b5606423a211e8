import Libretto.Document
import Libretto.HexId.Value
import Libretto.Settings
import Libretto.TextStore

/-! Tables of text as documents: an object with the line ids in base 16 as names. -/
namespace Libretto

def defaultGroup : String := "common"

/-- The group of an input; without a name it is the default one. -/
def TextSource.groupName (source : TextSource) : String :=
  Fault.orElse (source.group.getD "") defaultGroup

namespace TextTable

/-- The lines of a document. Two names may stand for one id; the later text counts. -/
def linesOf (members : List (String × Value)) : Except Fault (OrderedMap Int String) :=
  members.foldlM (fun lines (key, value) =>
    match value with
    | .str text => do .ok (lines.insert (← HexId.ofValue (.str key)) text)
    | other => .error (.shape (.notTextLine key other.typeName))) .empty

def setLines (table : TextTable) (lines : List (Int × String)) : TextTable :=
  lines.foldl (fun table (id, text) => table.setLine id text) table

/-- The lines under their ids in base 16, in the order of the ids. -/
def compose (table : TextTable) : Except Fault (List (String × String)) :=
  table.inOrder.mapM fun (id, text) => do .ok (← HexId.format id 4, text)

def document (table : TextTable) : Except Fault String := do
  .ok (Json.text (Value.ofMap .str (← table.compose)))

end TextTable

namespace TextStore

/-- Adds the lines of a document to the table of an input. The document is read to its
end before the store changes, and a table that has to be added comes in empty. -/
def merge (source : TextSource) (value : Value) : Edit TextStore TextTable := do
  if source.format ≠ .json then Edit.fail (.unsupportedText source)
  if source.language < 0 then Edit.fail (.noTextLanguage source)
  match value with
  | .object members =>
    let lines ← Edit.ofExcept (TextTable.linesOf members)
    let store ← Edit.get
    let table ← match store.table? source.groupName source.language with
      | some table => pure table
      | none => addTable source.groupName (.new source.language)
    let table := table.setLines lines.entries
    Edit.modify (·.putTable source.groupName table)
    Edit.nameable source.language
    Edit.log (.linesLoaded lines.size source.groupName source.language)
    return table
  | other => Edit.fail (.shape (.notObject "Text JSON" other.typeName))

def mergeText (source : TextSource) (text : String) : Edit TextStore TextTable :=
  match readValue text with
  | .ok value => merge source value
  | .error fault =>
    Edit.fail (if fault.kind = .document then .malformedText fault else fault)

/-- Reads the file of an input into the store. Reports go to `audience`, changes of the
store to its own. -/
def load (audience : Option Audience) (files : FileTree) (source : TextSource) :
    Edit TextStore TextTable := do
  if source.path.isEmpty then
    Edit.fail (Fault.naming source.language (.noTextPath source))
  Edit.log (.readingText source.path)
  let value ← loadDocument audience files .text source.path
  let table ← merge source value
  Edit.nameable source.language
  Edit.report audience (.textLoaded source.language source.path)
  return table

end TextStore

end Libretto
