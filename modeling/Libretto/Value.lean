import Libretto.Binary64
import Libretto.OrderedMap
import Libretto.Text.Quoted

/-! Decoded values: what a document or a mapping of settings holds. The members of an
object keep the order in which they were written. -/
namespace Libretto

inductive Value
  | null
  | bool (value : Bool)
  | int (value : Int)
  | float (value : Binary64)
  | str (value : String)
  | list (items : List Value)
  | object (members : List (String × Value))
  deriving Inhabited

namespace Value

/-- The name of a value's type in messages. -/
def typeName : Value → String
  | null => "NoneType"
  | bool _ => "bool"
  | int _ => "int"
  | float _ => "float"
  | str _ => "str"
  | list _ => "list"
  | object _ => "dict"

mutual

/-- A value inside a message, texts in quotes. -/
def quoted : Value → String
  | null => "None"
  | bool value => if value then "True" else "False"
  | int value => toString value
  | float value => value.text
  | str value => Text.quoted value
  | list items => "[" ++ String.intercalate ", " (quotedItems items) ++ "]"
  | object members => "\x7b" ++ String.intercalate ", " (quotedMembers members) ++ "\x7d"

def quotedItems : List Value → List String
  | [] => []
  | item :: rest => item.quoted :: quotedItems rest

def quotedMembers : List (String × Value) → List String
  | [] => []
  | (name, value) :: rest => (Text.quoted name ++ ": " ++ value.quoted) :: quotedMembers rest

end

/-- A value as plain text: a text stands for itself. -/
def text : Value → String
  | str value => value
  | other => other.quoted

/-- The member of an object, or nothing for any other value. -/
def member? (value : Value) (name : String) : Option Value :=
  match value with
  | object members => Entries.find? name members
  | _ => none

/-- An object with the members of a map. -/
def ofMap (f : ν → Value) (map : List (String × ν)) : Value :=
  object (map.map fun (name, value) => (name, f value))

/-- The texts of a list that holds nothing else. -/
def texts? (items : List Value) : Option (List String) :=
  items.mapM fun
    | str text => some text
    | _ => none

theorem texts?_str (texts : List String) : texts? (texts.map .str) = some texts := by
  induction texts with
  | nil => rfl
  | cons text texts ih =>
    unfold texts? at ih ⊢
    rw [List.map_cons, List.mapM_cons, ih]
    rfl

end Value

end Libretto
