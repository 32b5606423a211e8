/-! Mistakes in a document text, each at the character where reading stopped. -/
namespace Libretto.Json

inductive Complaint
  | value
  | name
  | colon
  | comma
  | unterminated
  | control
  | escape
  | unicode
  | extra
  | byteOrderMark
  deriving DecidableEq, Repr

def Complaint.message : Complaint → String
  | value => "Expecting value"
  | name => "Expecting property name enclosed in double quotes"
  | colon => "Expecting ':' delimiter"
  | comma => "Expecting ',' delimiter"
  | unterminated => "Unterminated string starting at"
  | control => "Invalid control character at"
  | escape => "Invalid \\escape"
  | unicode => "Invalid \\uXXXX escape"
  | extra => "Extra data"
  | byteOrderMark => "Unexpected UTF-8 BOM (decode using utf-8-sig)"

/-- A mistake with its position, counted from zero, and its line and column, from one. -/
structure Mistake where
  complaint : Complaint
  position : Nat
  line : Nat
  column : Nat
  deriving DecidableEq, Repr

/-- Only a line feed ends a line. -/
def Mistake.locate (complaint : Complaint) (text : List Char) (position : Nat) : Mistake :=
  let before := text.take position
  ⟨complaint, position, before.count '\n' + 1,
    (before.reverse.takeWhile (· ≠ '\n')).length + 1⟩

def Mistake.message (mistake : Mistake) : String :=
  mistake.complaint.message ++ ": line " ++ toString mistake.line ++ " column " ++
    toString mistake.column ++ " (char " ++ toString mistake.position ++ ")"

inductive Container
  | list
  | object
  deriving DecidableEq, Repr

def Container.name : Container → String
  | list => "array"
  | object => "object"

inductive Error
  | mistake (mistake : Mistake)
  | hugeInteger (digits : Nat)
  | tooDeep (container : Container)
  deriving DecidableEq, Repr

end Libretto.Json
