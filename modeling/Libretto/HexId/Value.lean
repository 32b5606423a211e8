import Libretto.Fault

/-! Ids of lines and hints, out of values and into texts. -/
namespace Libretto

/-- The id of a line or of a hint, an integer or a text in base 16. -/
def HexId.ofValue (value : Value) : Except Fault Int :=
  match value with
  | .int id => .ok id
  | .bool _ => .error (.invalidHexId value)
  | _ => match HexId.read? value.text with
    | some id => .ok id
    | none => .error (.invalidHexId value)

/-- Widths from here on are no widths of a field. -/
def HexId.widthLimit : Int := Int.pow 2 63

/-- The width of a field of digits. -/
def HexId.fieldWidth (width : Int) : Except Fault Nat :=
  if width < 0 then .error (.naming width (.negativeWidth width))
  else if widthLimit ≤ width then .error (.naming width .hugeWidth)
  else .ok width.toNat

/-- An id in a field of a width at least. -/
def HexId.format (id width : Int) : Except Fault String :=
  if id < 0 then .error (.negativeHexId id)
  else (fieldWidth width).map (HexId.text · id.toNat)

end Libretto
