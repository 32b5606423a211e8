import Libretto.Numeral

/-! Double precision numbers, kept exactly: a sign and `significand * 2 ^ exponent`.
A decimal is read as the nearest double, ties to even, and a double is shown with the
fewest digits that read back. -/
namespace Libretto

inductive Binary64
  | notANumber
  | infinite (negative : Bool)
  | finite (negative : Bool) (significand : Nat) (exponent : Int)
  deriving DecidableEq, Repr, Inhabited

namespace Binary64

/-- Exponents of the smallest and of the largest doubles. -/
def lowest : Int := -1074
def highest : Int := 971

def nearestEven (x : Rat) : Nat :=
  let below := x.floor
  let rest := x - below
  let up := if rest = 1 / 2 then below % 2 = 1 else rest > 1 / 2
  (if up then below + 1 else below).toNat

/-- The binary exponent of a positive rational. -/
def binaryExponent (x : Rat) : Int :=
  let guess : Int := x.num.natAbs.log2 - x.den.log2
  if x < 2 ^ guess then guess - 1 else guess

def ofRat (negative : Bool) (x : Rat) : Binary64 :=
  if x = 0 then finite negative 0 lowest
  else
    let exponent := max (binaryExponent x - 52) lowest
    let significand := nearestEven (x / 2 ^ exponent)
    let (significand, exponent) :=
      if significand = Nat.pow 2 53 then (Nat.pow 2 52, exponent + 1) else (significand, exponent)
    if exponent > highest then infinite negative else finite negative significand exponent

/-- The double nearest to `digits * 10 ^ scale`. A number that is out of range by its
count of digits alone is not computed. -/
def ofDecimal (negative : Bool) (digits : Nat) (scale : Int) : Binary64 :=
  if digits = 0 then finite negative 0 lowest
  else if scale + (digits.log2 * 3 / 10 : Nat) > 330 then infinite negative
  else if scale + (digits.log2 * 4 / 10 + 1 : Nat) < -340 then finite negative 0 lowest
  else ofRat negative (digits * 10 ^ scale)

/-- The integer towards zero, for a finite number. -/
def truncate? : Binary64 → Option Int
  | finite negative significand exponent =>
    let magnitude := ((significand : Rat) * 2 ^ exponent).floor
    some (if negative then -magnitude else magnitude)
  | _ => none

/-- The point of the decimal grid at a place that lies in the interval of numbers which
read as `x`, nearest to `x` and even in a tie. -/
def gridPoint? (x low high : Rat) (closed : Bool) (place : Int) : Option Nat :=
  let step : Rat := 10 ^ place
  let below := (x / step).floor.toNat
  let above := below + 1
  let fits (n : Nat) : Bool :=
    let y := n * step
    (low < y && y < high) || (closed && (y = low || y = high))
  if fits below && fits above then
    let twice := 2 * (x - below * step)
    if twice < step || (twice = step && below % 2 = 0) then some below else some above
  else if fits below then some below
  else if fits above then some above
  else none

/-- The place left of which the first digit of a positive rational stands. -/
def decimalPoint (x : Rat) : Int :=
  let guess := (binaryExponent x * 30103) / 100000
  ([guess, guess + 1, guess + 2].find? fun point => x < 10 ^ point).getD (guess + 3)

/-- The digits and the place of the last one, as few digits as read back. -/
def shortest (significand : Nat) (exponent : Int) : Nat × Int :=
  let unit : Rat := 2 ^ exponent
  let x := significand * unit
  let low := x - (if significand = Nat.pow 2 52 ∧ exponent > lowest then unit / 4 else unit / 2)
  let high := x + unit / 2
  let point := decimalPoint x
  ((List.range 17).findSome? fun (count : Nat) =>
    let place := point - (count + 1)
    (gridPoint? x low high (significand % 2 = 0) place).map (·, place)).getD (0, 0)

/-- Positional between 0.0001 and 10 ^ 16, otherwise one digit before the point and an
exponent of at least two digits. -/
def layout (digits : List Char) (point : Int) : List Char :=
  if -4 < point ∧ point ≤ 16 then
    if point ≤ 0 then '0' :: '.' :: List.replicate (-point).toNat '0' ++ digits
    else
      let whole := digits.take point.toNat
      let rest := digits.drop point.toNat
      whole ++ List.replicate (point.toNat - whole.length) '0' ++
        '.' :: (if rest.isEmpty then ['0'] else rest)
  else
    let exponent := point - 1
    let size := Nat.toDigits 10 exponent.natAbs
    let fraction := digits.drop 1
    digits.take 1 ++ (if fraction.isEmpty then [] else '.' :: fraction) ++
      'e' :: (if exponent < 0 then '-' else '+') ::
      (List.replicate (2 - size.length) '0' ++ size)

def text : Binary64 → String
  | notANumber => "nan"
  | infinite negative => if negative then "-inf" else "inf"
  | finite negative significand exponent =>
    let magnitude :=
      if significand = 0 then ['0', '.', '0']
      else
        let (digits, place) := shortest significand exponent
        let all := Nat.toDigits 10 digits
        let bare := (all.reverse.dropWhile (· == '0')).reverse
        layout bare (place + all.length)
    String.ofList (if negative then '-' :: magnitude else magnitude)

/-- Digits before and after a point, either of which may be missing but not both. -/
def mantissa? (text : List Char) : Option (Nat × Int) :=
  let whole := text.takeWhile (· ≠ '.')
  let part (chars : List Char) : Option (List Nat) :=
    if chars.isEmpty then some [] else Numeral.digits? 10 chars
  do
    let before ← part whole
    let after ← part ((text.drop whole.length).drop 1)
    let digits := before ++ after
    if digits.isEmpty then none else some (Numeral.ofDigits 10 digits, -after.length)

def exponent? : List Char → Option Int
  | '-' :: rest => (Numeral.digits? 10 rest).map fun digits => -(Numeral.ofDigits 10 digits : Int)
  | '+' :: rest => (Numeral.digits? 10 rest).map fun digits => (Numeral.ofDigits 10 digits : Int)
  | rest => (Numeral.digits? 10 rest).map fun digits => (Numeral.ofDigits 10 digits : Int)

def unsigned? (negative : Bool) (text : List Char) : Option Binary64 :=
  let lower := text.map Char.toLower
  if lower = "inf".toList ∨ lower = "infinity".toList then some (infinite negative)
  else if lower = "nan".toList then some notANumber
  else
    let isMark (c : Char) : Bool := c == 'e' || c == 'E'
    let head := text.takeWhile fun c => !isMark c
    let tail := text.drop head.length
    do
      let (digits, scale) ← mantissa? head
      let exponent ← match tail with
        | [] => some 0
        | _ :: rest => exponent? rest
      some (ofDecimal negative digits (scale + exponent))

def read? (text : String) : Option Binary64 :=
  match Text.trim Text.isNumberBlank text.toList with
  | '-' :: rest => unsigned? true rest
  | '+' :: rest => unsigned? false rest
  | rest => unsigned? false rest

end Binary64

end Libretto
