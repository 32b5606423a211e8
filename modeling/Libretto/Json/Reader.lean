import Libretto.Json.Error
import Libretto.Value

/-! Document texts into values, by recursive descent. A step returns the rest of the text
with a proof that it is shorter, which is why reading ends. A mistake is noted with the
number of characters that were left, so no step carries a position. -/
namespace Libretto.Json

/-- Integers of more digits are refused. -/
def digitLimit : Nat := 4300

/-- Containers lie in one another up to this depth. The room is what is left of a stack, so it is
another one for a caller who stands higher or lower on it: this one is near the bottom. -/
def depthLimit : Nat := 987

inductive Stop
  | mistake (complaint : Complaint) (left : Nat)
  | hugeInteger (digits : Nat)
  | tooDeep (container : Container)

structure Parsed (α : Type) (text : List Char) where
  value : α
  rest : List Char
  shorter : rest.length < text.length

def Parsed.within {text longer : List Char} (p : Parsed α text)
    (fits : text.length ≤ longer.length) : Parsed α longer :=
  ⟨p.value, p.rest, Nat.lt_of_lt_of_le p.shorter fits⟩

def isBlank (c : Char) : Bool := c = ' ' || c = '\t' || c = '\n' || c = '\r'

def skip (text : List Char) : List Char := text.dropWhile isBlank

theorem skip_length_le (text : List Char) : (skip text).length ≤ text.length :=
  (List.dropWhile_suffix isBlank).length_le

/-- The first character that is not blank, with what follows it. -/
def next? : (text : List Char) → Option (Parsed Char text)
  | [] => none
  | c :: rest =>
    if isBlank c then (next? rest).map (·.within (Nat.le_succ _))
    else some ⟨c, rest, Nat.lt_succ_self _⟩

/-- A character of a string, or a unit of UTF-16 that an escape gave. -/
inductive Piece
  | char (c : Char)
  | unit (n : Nat)

def unit? (a b c d : Char) : Option Nat := do
  let a ← Text.hexDigit? a
  let b ← Text.hexDigit? b
  let c ← Text.hexDigit? c
  let d ← Text.hexDigit? d
  some (((a * 16 + b) * 16 + c) * 16 + d)

def escaped? (c : Char) : Option Char :=
  match c with
  | '"' => some '"'
  | '\\' => some '\\'
  | '/' => some '/'
  | 'b' => some '\x08'
  | 'f' => some '\x0c'
  | 'n' => some '\n'
  | 'r' => some '\r'
  | 't' => some '\t'
  | _ => none

def prepend (piece : Piece) (text : List Char) (c : Char)
    (more : Except Stop (Parsed (List Piece) text)) :
    Except Stop (Parsed (List Piece) (c :: text)) :=
  more.map fun p => ⟨piece :: p.value, p.rest, Nat.lt_succ_of_lt p.shorter⟩

/-- The pieces up to the closing quote. `opening` is what was left at the opening one; it is
counted only if the closing one is missing. -/
def pieces (opening : Thunk Nat) : (text : List Char) → Except Stop (Parsed (List Piece) text)
  | [] => .error (.mistake .unterminated opening.get)
  | c :: rest =>
    if c = '"' then .ok ⟨[], rest, Nat.lt_succ_self _⟩
    else if c = '\\' then
      match rest with
      | [] => .error (.mistake .unterminated opening.get)
      | e :: after =>
        if e = 'u' then
          match after with
          | h₁ :: h₂ :: h₃ :: h₄ :: more :: further =>
            match unit? h₁ h₂ h₃ h₄ with
            | some n =>
              (pieces opening (more :: further)).map fun p =>
                ⟨.unit n :: p.value, p.rest, by
                  have := p.shorter; simp only [List.length_cons] at *; omega⟩
            | none => .error (.mistake .unicode (after.length + 1))
          | _ => .error (.mistake .unicode (after.length + 1))
        else match escaped? e with
          | some x =>
            (pieces opening after).map fun p =>
              ⟨.char x :: p.value, p.rest, by
                have := p.shorter; simp only [List.length_cons] at *; omega⟩
          | none => .error (.mistake .escape (after.length + 2))
    else if c < ' ' then .error (.mistake .control (rest.length + 1))
    else prepend (.char c) rest c (pieces opening rest)

def isHigh (n : Nat) : Bool := 0xd800 ≤ n && n ≤ 0xdbff
def isLow (n : Nat) : Bool := 0xdc00 ≤ n && n ≤ 0xdfff

/-- A high unit and a low one behind it are one character. A unit that stays alone in
either range is no character and becomes U+FFFD, so texts that differ in such units alone come
out as one. -/
def joinUnits : List Piece → List Char
  | [] => []
  | .char c :: rest => c :: joinUnits rest
  | .unit high :: .unit low :: rest =>
    if isHigh high && isLow low then
      Char.ofNat (0x10000 + (high - 0xd800) * 0x400 + (low - 0xdc00)) :: joinUnits rest
    else
      (if isHigh high || isLow high then '\ufffd' else Char.ofNat high) ::
        joinUnits (.unit low :: rest)
  | .unit n :: rest =>
    (if isHigh n || isLow n then '\ufffd' else Char.ofNat n) :: joinUnits rest

/-- The string whose opening quote has been read. -/
def string (text : List Char) : Except Stop (Parsed String text) :=
  (pieces (.mk fun _ => text.length + 1) text).map fun p =>
    ⟨String.ofList (joinUnits p.value), p.rest, p.shorter⟩

def isDigit (c : Char) : Bool := '0' ≤ c && c ≤ '9'

def natural (run : List Char) : Nat := Numeral.ofDigits 10 (run.map (·.toNat - '0'.toNat))

/-- A run of digits that is not empty. -/
def digits? (text : List Char) : Option (Parsed (List Char) text) :=
  match text with
  | [] => none
  | c :: rest =>
    if isDigit c then
      some ⟨c :: rest.takeWhile isDigit, rest.dropWhile isDigit,
        Nat.lt_succ_of_le (List.dropWhile_suffix isDigit).length_le⟩
    else none

/-- The digits before the point. A zero in front stands alone. -/
def whole? : (text : List Char) → Option (Parsed (List Char) text)
  | [] => none
  | c :: rest => if c = '0' then some ⟨['0'], rest, Nat.lt_succ_self _⟩ else digits? (c :: rest)

def fraction? : (text : List Char) → Option (Parsed (List Char) text)
  | [] => none
  | c :: rest => if c = '.' then (digits? rest).map (·.within (Nat.le_succ _)) else none

def signed? : (text : List Char) → Option (Parsed Int text)
  | [] => none
  | c :: rest =>
    if c = '-' then
      (digits? rest).map fun p => ⟨-(natural p.value : Int), p.rest, Nat.lt_succ_of_lt p.shorter⟩
    else if c = '+' then
      (digits? rest).map fun p => ⟨natural p.value, p.rest, Nat.lt_succ_of_lt p.shorter⟩
    else (digits? (c :: rest)).map fun p => ⟨natural p.value, p.rest, p.shorter⟩

def exponent? : (text : List Char) → Option (Parsed Int text)
  | [] => none
  | c :: rest =>
    if c = 'e' ∨ c = 'E' then (signed? rest).map (·.within (Nat.le_succ _)) else none

/-- The longest unsigned number at the front, with a sign to be given to it. A fraction
or an exponent makes it a float. -/
def unsigned (negative : Bool) (text : List Char) : Except Stop (Parsed Value text) :=
  match whole? text with
  | none => .error (.mistake .value (text.length + negative.toNat))
  | some whole =>
    match fraction? whole.rest with
    | some fraction =>
      let digits := natural (whole.value ++ fraction.value)
      let places : Int := fraction.value.length
      match exponent? fraction.rest with
      | some exponent =>
        .ok ⟨.float (.ofDecimal negative digits (exponent.value - places)), exponent.rest,
          Nat.lt_trans exponent.shorter (Nat.lt_trans fraction.shorter whole.shorter)⟩
      | none =>
        .ok ⟨.float (.ofDecimal negative digits (-places)), fraction.rest,
          Nat.lt_trans fraction.shorter whole.shorter⟩
    | none =>
      match exponent? whole.rest with
      | some exponent =>
        .ok ⟨.float (.ofDecimal negative (natural whole.value) exponent.value), exponent.rest,
          Nat.lt_trans exponent.shorter whole.shorter⟩
      | none =>
        if whole.value.length > digitLimit then .error (.hugeInteger whole.value.length)
        else
          let magnitude : Int := natural whole.value
          .ok ⟨.int (if negative then -magnitude else magnitude), whole.rest, whole.shorter⟩

/-- The rest of a text behind a word it starts with. -/
def behind? : (word text : List Char) → Option (List Char)
  | [], text => some text
  | _ :: _, [] => none
  | w :: word, c :: text => if w = c then behind? word text else none

theorem behind?_length {word text rest : List Char} (found : behind? word text = some rest) :
    rest.length + word.length = text.length := by
  induction word generalizing text with
  | nil => cases found; rfl
  | cons w word ih =>
    cases text with
    | nil => cases found
    | cons c text =>
      simp only [behind?] at found
      split at found
      · have := ih found
        simp only [List.length_cons]
        omega
      · cases found

/-- The words that stand for a value. -/
def words : List (List Char × Value) := [
  ("null".toList, .null), ("true".toList, .bool true), ("false".toList, .bool false),
  ("NaN".toList, .float .notANumber), ("Infinity".toList, .float (.infinite false)),
  ("-Infinity".toList, .float (.infinite true))]

def word? (text : List Char) : List (List Char × Value) → Option (Parsed Value text)
  | [] => none
  | (word, value) :: more =>
    match found : behind? word text with
    | some rest =>
      if long : 0 < word.length then
        some ⟨value, rest, by have := behind?_length found; omega⟩
      else word? text more
    | none => word? text more

/-- A value that is neither a string nor a container. -/
def scalar (text : List Char) : Except Stop (Parsed Value text) :=
  match word? text words with
  | some word => .ok word
  | none =>
    match text with
    | [] => .error (.mistake .value 0)
    | c :: rest =>
      if c = '-' then (unsigned true rest).map (·.within (Nat.le_succ _))
      else unsigned false (c :: rest)

/-- A later member replaces the value of an earlier one of the same name. -/
def object (members : List (String × Value)) : Value :=
  .object (OrderedMap.ofList members).entries

mutual

/-- The value at the front of a text, with room for so many containers in one another. -/
def value (room : Nat) (text : List Char) : Except Stop (Parsed Value text) :=
  match text with
  | [] => .error (.mistake .value 0)
  | c :: rest =>
    if c = '"' then
      (string rest).map fun p => ⟨.str p.value, p.rest, Nat.lt_succ_of_lt p.shorter⟩
    else if c = '\x7b' then
      match room, next? rest with
      | 0, _ => .error (.tooDeep .object)
      | inner + 1, some first =>
        if first.value = '\x7d' then
          .ok ⟨.object [], first.rest, Nat.lt_succ_of_lt first.shorter⟩
        else
          (members inner (skip rest)).map fun p =>
            ⟨object p.value, p.rest,
              Nat.lt_succ_of_lt (Nat.lt_of_lt_of_le p.shorter (skip_length_le rest))⟩
      | _ + 1, none => .error (.mistake .name 0)
    else if c = '[' then
      match room, next? rest with
      | 0, _ => .error (.tooDeep .list)
      | inner + 1, some first =>
        if first.value = ']' then .ok ⟨.list [], first.rest, Nat.lt_succ_of_lt first.shorter⟩
        else
          (items inner (skip rest)).map fun p =>
            ⟨.list p.value, p.rest,
              Nat.lt_succ_of_lt (Nat.lt_of_lt_of_le p.shorter (skip_length_le rest))⟩
      | _ + 1, none => .error (.mistake .value 0)
    else scalar (c :: rest)
termination_by (text.length, 0)
decreasing_by
  · exact .left _ _ (Nat.lt_succ_of_le (skip_length_le rest))
  · exact .left _ _ (Nat.lt_succ_of_le (skip_length_le rest))

/-- The items of a list, one at least, and the closing bracket. -/
def items (room : Nat) (text : List Char) : Except Stop (Parsed (List Value) text) := do
  let first ← value room text
  match next? first.rest with
  | none => .error (.mistake .comma 0)
  | some mark =>
    if mark.value = ']' then
      .ok ⟨[first.value], mark.rest, Nat.lt_trans mark.shorter first.shorter⟩
    else if mark.value = ',' then
      have := skip_length_le mark.rest
      have := mark.shorter
      have := first.shorter
      let more ← items room (skip mark.rest)
      .ok ⟨first.value :: more.value, more.rest, by have := more.shorter; omega⟩
    else .error (.mistake .comma (mark.rest.length + 1))
termination_by (text.length, 1)
decreasing_by
  · exact .right _ Nat.one_pos
  · exact .left _ _ (by omega)

/-- The members of an object, one at least, and the closing brace. -/
def members (room : Nat) (text : List Char) : Except Stop (Parsed (List (String × Value)) text) :=
  match text with
  | [] => .error (.mistake .name 0)
  | c :: rest =>
    if c = '"' then do
      let name ← string rest
      match next? name.rest with
      | none => .error (.mistake .colon 0)
      | some colon =>
        if colon.value = ':' then
          have := skip_length_le colon.rest
          have := colon.shorter
          have := name.shorter
          let first ← value room (skip colon.rest)
          have := first.shorter
          match next? first.rest with
          | none => .error (.mistake .comma 0)
          | some mark =>
            have := mark.shorter
            if mark.value = '\x7d' then
              .ok ⟨[(name.value, first.value)], mark.rest, by
                simp only [List.length_cons]; omega⟩
            else if mark.value = ',' then
              have := skip_length_le mark.rest
              let more ← members room (skip mark.rest)
              .ok ⟨(name.value, first.value) :: more.value, more.rest, by
                have := more.shorter; simp only [List.length_cons]; omega⟩
            else .error (.mistake .comma (mark.rest.length + 1))
        else .error (.mistake .colon (colon.rest.length + 1))
    else .error (.mistake .name (rest.length + 1))
termination_by (text.length, 1)
decreasing_by
  · exact .left _ _ (by simp only [List.length_cons]; omega)
  · exact .left _ _ (by simp only [List.length_cons]; omega)

end

/-- The whole document: one value with blanks around it. -/
def document (text : List Char) : Except Stop Value :=
  match text with
  | '\ufeff' :: _ => .error (.mistake .byteOrderMark text.length)
  | _ => do
    let parsed ← value depthLimit (skip text)
    match next? parsed.rest with
    | none => .ok parsed.value
    | some extra => .error (.mistake .extra (extra.rest.length + 1))

def Stop.error (text : List Char) : Stop → Error
  | mistake complaint left => .mistake (.locate complaint text (text.length - left))
  | hugeInteger digits => .hugeInteger digits
  | tooDeep container => .tooDeep container

/-- The value that a document text holds. -/
def read (text : String) : Except Error Value :=
  (document text.toList).mapError (Stop.error text.toList)

end Libretto.Json
