import Libretto.Text.Blank
import Libretto.Text.Digit

/-! Ids in base 16, with or without a base mark in front. -/
namespace Libretto.HexId

open Libretto.Text

def withoutMark : List Char → List Char
  | '0' :: 'x' :: rest => rest
  | '0' :: 'X' :: rest => rest
  | text => text

def ofDigits (digits : List Nat) : Nat :=
  digits.foldl (fun value digit => value * 16 + digit) 0

/-- The id that a text stands for, white space at its ends aside. -/
def read? (text : String) : Option Nat :=
  match (withoutMark (trim isBlank text.toList)).mapM hexDigit? with
  | some (digit :: digits) => some (ofDigits (digit :: digits))
  | _ => none

/-- Lower-case digits, zeros in front up to a width. -/
def text (width id : Nat) : String := String.ofList (hexText width id)

/-- An id with sign and base mark, as messages name it. -/
def marked (id : Int) : String :=
  String.ofList ((if id < 0 then ['-'] else []) ++ '0' :: 'x' :: hexText 1 id.natAbs)

end Libretto.HexId
