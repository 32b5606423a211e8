import Libretto.Text.Blank
import Libretto.Text.Digit

/-! Integers as people write them: white space around, a sign, decimal digits of any
script or a base mark with digits of that base, and single underscores between digits. -/
namespace Libretto.Numeral

open Libretto.Text

/-- Decimal numbers of more digits than this are neither read nor written. -/
def decimalLimit : Nat := 4300

def isWritable (value : Int) : Bool := value.natAbs < Nat.pow 10 decimalLimit

def digit? (base : Nat) (c : Char) : Option Nat :=
  match decimalDigit? c with
  | some value => if value < base then some value else none
  | none => (hexDigit? c).bind fun value => if value < base then some value else none

/-- One digit or more, with at most one underscore between two of them. -/
def digits? (base : Nat) : List Char → Option (List Nat)
  | [] => none
  | [c] => (digit? base c).map ([·])
  | c :: '_' :: rest => (digit? base c).bind fun value => (digits? base rest).map (value :: ·)
  | c :: rest => (digit? base c).bind fun value => (digits? base rest).map (value :: ·)

def ofDigits (base : Nat) (digits : List Nat) : Nat :=
  digits.foldl (fun value digit => value * base + digit) 0

/-- The base that a letter after a zero announces. -/
def baseOfMark? (c : Char) : Option Nat :=
  if c = 'x' ∨ c = 'X' then some 16
  else if c = 'o' ∨ c = 'O' then some 8
  else if c = 'b' ∨ c = 'B' then some 2
  else none

def decimal? (text : List Char) : Option Nat := do
  let digits ← digits? 10 text
  if digits.length ≤ decimalLimit then some (ofDigits 10 digits) else none

/-- A zero, a base mark, possibly an underscore, and digits of that base. -/
def marked? : List Char → Option Nat
  | lead :: mark :: rest => do
    if decimalDigit? lead ≠ some 0 then none
    let base ← baseOfMark? mark
    let digits ← digits? base (match rest with | '_' :: after => after | _ => rest)
    some (ofDigits base digits)
  | _ => none

def unsigned? (text : List Char) : Option Nat := (decimal? text).or (marked? text)

def read? (text : String) : Option Int :=
  match trim isNumberBlank text.toList with
  | '-' :: rest => (unsigned? rest).map fun value => -(value : Int)
  | '+' :: rest => (unsigned? rest).map Int.ofNat
  | rest => (unsigned? rest).map Int.ofNat

end Libretto.Numeral
