import Libretto.Text.Digit
import Libretto.Text.Printable

/-! Texts shown in quotes inside a message. Single quotes are used unless the text holds
one and no double quote. What cannot be seen is written as an escape. -/
namespace Libretto.Text

def quoteMark (text : List Char) : Char :=
  if text.contains '\'' && !text.contains '"' then '"' else '\''

/-- The shortest of the three numeric escapes that holds the code point. -/
def numericEscape (c : Char) : List Char :=
  if c.toNat ≤ 0xff then '\\' :: 'x' :: hexText 2 c.toNat
  else if c.toNat ≤ 0xffff then '\\' :: 'u' :: hexText 4 c.toNat
  else '\\' :: 'U' :: hexText 8 c.toNat

def quotedChar (mark c : Char) : List Char :=
  if c = mark ∨ c = '\\' then ['\\', c]
  else match c with
    | '\n' => ['\\', 'n']
    | '\r' => ['\\', 'r']
    | '\t' => ['\\', 't']
    | _ => if isPrintable c then [c] else numericEscape c

def quoted (text : String) : String :=
  let chars := text.toList
  let mark := quoteMark chars
  String.ofList (mark :: chars.flatMap (quotedChar mark) ++ [mark])

end Libretto.Text
