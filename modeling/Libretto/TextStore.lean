import Libretto.Edit

/-! Numbered lines of text, a table for each language in each named group. -/
namespace Libretto

def byId (a b : Int) : Bool := a < b

structure TextTable where
  language : Int
  lines : OrderedMap Int String

namespace TextTable

def new (language : Int) : TextTable := ⟨language, .empty⟩

/-- Adds a line or overwrites it. -/
def setLine (table : TextTable) (id : Int) (text : String) : TextTable :=
  { table with lines := table.lines.insert id text }

def hasLine (table : TextTable) (id : Int) : Bool := table.lines.contains id

def line (table : TextTable) (id : Int) : Except Fault String :=
  match table.lines.find? id with
  | some text => .ok text
  | none => .error (.naming table.language (.lineNotFound id table.language))

/-- The lines in the order of their ids. -/
def inOrder (table : TextTable) : List (Int × String) := table.lines.sorted byId

def size (table : TextTable) : Nat := table.lines.size

def describe (table : TextTable) : String :=
  "GameTextBank (language " ++ toString table.language ++ ", " ++ toString table.size ++ " lines)"

end TextTable

structure TextStore where
  groups : OrderedMap String (OrderedMap Int TextTable)
  audience : Option Audience

namespace TextStore

def new (audience : Option Audience) : TextStore := ⟨.empty, audience⟩

def groupNames (store : TextStore) : List String := store.groups.keys

/-- The tables of a group, none if there is no such group. -/
def group (store : TextStore) (name : String) : OrderedMap Int TextTable :=
  (store.groups.find? name).getD .empty

def table? (store : TextStore) (group : String) (language : Int) : Option TextTable :=
  (store.group group).find? language

def hasTable (store : TextStore) (group : String) (language : Int) : Bool :=
  (store.table? group language).isSome

/-- The tables of a group in the order of their languages. -/
def tables (store : TextStore) (name : String) : Except Fault (List (Int × TextTable)) :=
  match store.groups.find? name with
  | some tables => .ok (tables.sorted byId)
  | none => .error (.groupNotFound name)

/-- Puts a table in its place, over the one that is there. -/
def putTable (store : TextStore) (group : String) (table : TextTable) : TextStore :=
  { store with
    groups := store.groups.insert group ((store.group group).insert table.language table) }

/-- Adds a table where there is none, and tells of it then, in words that name its language. -/
def addTable (group : String) (table : TextTable) : Edit TextStore TextTable := do
  let store ← Edit.get
  if store.hasTable group table.language then
    Edit.fail (.naming table.language (.duplicateTable group table.language))
  else
    Edit.set (store.putTable group table)
    Edit.nameable table.language
    Edit.log (.tableAdded group table.language)
    Edit.send store.audience (.tableAdded group table.language table.size)
    return table

end TextStore

end Libretto
