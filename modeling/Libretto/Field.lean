import Libretto.Fault

/-! Fields of document objects, with the type that each has to have. -/
namespace Libretto

namespace Value

def int? : Value → Option Int
  | int value => some value
  | _ => none

def bool? : Value → Option Bool
  | bool value => some value
  | _ => none

def str? : Value → Option String
  | str value => some value
  | _ => none

def list? : Value → Option (List Value)
  | list items => some items
  | _ => none

end Value

def notObject (context : String) (value : Value) : Fault :=
  .shape (.notObject context value.typeName)

/-- The members of an object. -/
def objectOf (context : String) : Value → Except Fault (List (String × Value))
  | .object members => .ok members
  | other => .error (notObject context other)

def listOf (context : String) : Value → Except Fault (List Value)
  | .list items => .ok items
  | other => .error (.shape (.notList context other.typeName))

/-- The object that a member holds; without the member an empty one. -/
def part (context : String) (members : List (String × Value)) (name : String) :
    Except Fault (List (String × Value)) :=
  objectOf context ((Entries.find? name members).getD (.object []))

def typedField (context field expected : String) (as? : Value → Option α) (value : Value) :
    Except Fault α :=
  match as? value with
  | some typed => .ok typed
  | none => .error (.shape (.wrongField context field expected value.typeName))

def required (context : String) (members : List (String × Value)) (field expected : String)
    (as? : Value → Option α) : Except Fault α :=
  match Entries.find? field members with
  | some value => typedField context field expected as? value
  | none => .error (.shape (.missingField context field))

def optional (context : String) (members : List (String × Value)) (field expected : String)
    (as? : Value → Option α) (instead : α) : Except Fault α :=
  match Entries.find? field members with
  | some value => typedField context field expected as? value
  | none => .ok instead

end Libretto
