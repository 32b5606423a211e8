import Libretto.Value

/-! Values into document texts: one item or member a line, two spaces deeper than its
container, and no escape that is not needed. -/
namespace Libretto.Json

def escape (c : Char) : List Char :=
  if c = '"' then ['\\', '"']
  else if c = '\\' then ['\\', '\\']
  else if c = '\n' then ['\\', 'n']
  else if c = '\r' then ['\\', 'r']
  else if c = '\t' then ['\\', 't']
  else if c = '\x08' then ['\\', 'b']
  else if c = '\x0c' then ['\\', 'f']
  else if c < ' ' then '\\' :: 'u' :: Text.hexText 4 c.toNat
  else [c]

def printString (text : String) : List Char := '"' :: text.toList.flatMap escape ++ ['"']

def printFloat : Binary64 → List Char
  | .notANumber => "NaN".toList
  | .infinite negative => if negative then "-Infinity".toList else "Infinity".toList
  | other => other.text.toList

def newLine (depth : Nat) : List Char := '\n' :: List.replicate (2 * depth) ' '

mutual

def print (depth : Nat) : Value → List Char
  | .null => "null".toList
  | .bool value => if value then "true".toList else "false".toList
  | .int value => (toString value).toList
  | .float value => printFloat value
  | .str value => printString value
  | .list [] => ['[', ']']
  | .list (item :: rest) =>
    '[' :: newLine (depth + 1) ++ print (depth + 1) item ++ printItems (depth + 1) rest ++
      newLine depth ++ [']']
  | .object [] => ['\x7b', '\x7d']
  | .object ((name, value) :: rest) =>
    '\x7b' :: newLine (depth + 1) ++ printString name ++ ':' :: ' ' :: print (depth + 1) value ++
      printMembers (depth + 1) rest ++ newLine depth ++ ['\x7d']

def printItems (depth : Nat) : List Value → List Char
  | [] => []
  | item :: rest => ',' :: newLine depth ++ print depth item ++ printItems depth rest

def printMembers (depth : Nat) : List (String × Value) → List Char
  | [] => []
  | (name, value) :: rest =>
    ',' :: newLine depth ++ printString name ++ ':' :: ' ' :: print depth value ++
      printMembers depth rest

end

def text (value : Value) : String := String.ofList (print 0 value)

end Libretto.Json
