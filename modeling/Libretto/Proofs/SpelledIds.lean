import Libretto.Proofs.Edits
import Libretto.Proofs.HexNumerals
import Mathlib.Data.List.TakeWhile
import Mathlib.Data.Nat.Digits.Defs

/-! How ids are spelled, in place-value notation. A text is read as an id when it spells one:
digits of base 16 of either case, perhaps behind a base mark, with nothing but white space around
them. The text of an id spells it in lower case, in a field that a text can have. -/
namespace Libretto

namespace Text
variable {kind : Char → Bool}

/-- Off a text come characters of the kind alone. -/
theorem exists_trim (kind : Char → Bool) (text : List Char) : ∃ before after,
    text = before ++ trim kind text ++ after ∧ (∀ c ∈ before, kind c) ∧ ∀ c ∈ after, kind c := by
  let rest := text.dropWhile kind
  refine ⟨text.takeWhile kind, (rest.reverse.takeWhile kind).reverse, ?_, ?_, ?_⟩
  · have back : rest = trim kind text ++ (rest.reverse.takeWhile kind).reverse := by
      rw [trim, ← List.reverse_append, List.takeWhile_append_dropWhile, List.reverse_reverse]
    rw [List.append_assoc, ← back, List.takeWhile_append_dropWhile]
  · exact fun c => List.mem_takeWhile_imp
  · exact fun c member => List.mem_takeWhile_imp (List.mem_reverse.mp member)

/-- Around a text without characters of the kind these are all that come off. -/
theorem trim_surrounded {before core after : List Char} (written : core ≠ [])
    (none : ∀ c ∈ core, kind c = false) (left : ∀ c ∈ before, kind c)
    (right : ∀ c ∈ after, kind c) : trim kind (before ++ core ++ after) = core := by
  obtain ⟨c, rest, rfl⟩ := List.exists_cons_of_ne_nil written
  have front : (before ++ c :: rest ++ after).dropWhile kind = c :: rest ++ after := by
    rw [List.append_assoc, List.dropWhile_append_of_pos left, List.cons_append,
      List.dropWhile_cons, none c (by simp), if_neg Bool.false_ne_true]
  have back : ((c :: rest ++ after).reverse).dropWhile kind = (c :: rest).reverse := by
    rw [List.reverse_append,
      List.dropWhile_append_of_pos fun d member => right d (List.mem_reverse.mp member)]
    exact dropWhile_of_none fun d member => none d (List.mem_reverse.mp member)
  rw [trim, front, back, List.reverse_reverse]

/-- The digits of base 16 in the order of their values. -/
def hexDigits : List Char := "0123456789abcdef".toList

/-- A digit is found among these when its case is set aside. Beyond ASCII there are none, and
within it each character is tried. -/
theorem hexDigit?_eq (c : Char) : hexDigit? c =
    if c.toLower ∈ hexDigits then some (hexDigits.idxOf c.toLower) else none := by
  by_cases ascii : c.toNat < 128
  · have each : ∀ n : Fin 128, hexDigit? (Char.ofNat n) =
        if (Char.ofNat n).toLower ∈ hexDigits then some (hexDigits.idxOf (Char.ofNat n).toLower)
        else none := by decide +kernel
    have tried := each ⟨c.toNat, ascii⟩
    rwa [Char.ofNat_toNat] at tried
  · have lower : c.toLower = c := by
      unfold Char.toLower
      split
      next upper =>
        have low : c.toNat ≤ 90 := UInt32.le_iff_toNat_le.mp upper.2
        omega
      · rfl
    have known : ∀ d ∈ hexDigits, d.toNat < 128 := fun d member => of_decide_eq_true
      (List.all_eq_true.mp (show hexDigits.all (·.toNat < 128) = true by decide) d member)
    have other : c ∉ hexDigits := fun member => ascii (known c member)
    have none : ¬ (hexDigit? c).isSome := fun digit => by
      have range := range_of_hexDigit digit
      omega
    rw [lower, if_neg other, ← Option.not_isSome_iff_eq_none]
    exact none

end Text

namespace HexId

open Text

/-- A digit of base 16, in lower or in upper case. -/
def IsDigit (c : Char) : Prop := c.toLower ∈ hexDigits

def digitValue (c : Char) : Nat := hexDigits.idxOf c.toLower

/-- The number that digits of base 16 stand for, the last one for units. -/
def placeValue (digits : List Char) : Nat := Nat.ofDigits 16 (digits.reverse.map digitValue)

/-- What may stand before the digits. -/
def marks : List (List Char) := [[], ['0', 'x'], ['0', 'X']]

/-- A text that is blank but for an id. -/
def Spells (text : List Char) (id : Nat) : Prop :=
  ∃ before mark digits after, text = before ++ (mark ++ digits) ++ after ∧
    (∀ c ∈ before, isBlank c) ∧ (∀ c ∈ after, isBlank c) ∧ mark ∈ marks ∧ digits ≠ [] ∧
    (∀ c ∈ digits, IsDigit c) ∧ placeValue digits = id

theorem hexDigit?_isSome (c : Char) : (hexDigit? c).isSome ↔ IsDigit c := by
  rw [hexDigit?_eq, IsDigit]
  split <;> simp [*]

theorem mapM_digits {text : List Char} (each : ∀ c ∈ text, IsDigit c) :
    text.mapM hexDigit? = some (text.map digitValue) := by
  induction text with
  | nil => rfl
  | cons c rest ih =>
    obtain ⟨head, tail⟩ := List.forall_mem_cons.mp each
    have read : hexDigit? c = some (digitValue c) := (hexDigit?_eq c).trans (if_pos head)
    rw [List.mapM_cons, read, ih tail]
    rfl

theorem mapM_hexDigit? {text : List Char} {values : List Nat}
    (mapped : text.mapM hexDigit? = some values) :
    (∀ c ∈ text, IsDigit c) ∧ values = text.map digitValue := by
  have each : ∀ c ∈ text, IsDigit c := fun c member =>
    (hexDigit?_isSome c).mp (isSome_of_mapM mapped c member)
  exact ⟨each, Option.some.inj (mapped.symm.trans (mapM_digits each))⟩

theorem ofDigits_placeValue (digits : List Char) :
    ofDigits (digits.map digitValue) = placeValue digits := by
  have step : (fun digit value : Nat => value * 16 + digit) = fun digit value => digit + 16 * value :=
    funext₂ fun digit value => by omega
  rw [ofDigits, List.foldl_eq_foldr_reverse, step, placeValue, Nat.ofDigits_eq_foldr,
    List.map_reverse]
  rfl

theorem withoutMark_marked {mark digits : List Char} (known : mark ∈ marks)
    (each : ∀ c ∈ digits, IsDigit c) : withoutMark (mark ++ digits) = digits := by
  simp only [marks, List.mem_cons, List.not_mem_nil, or_false] at known
  rcases known with rfl | rfl | rfl
  · exact withoutMark_digits fun c member => (hexDigit?_isSome c).mpr (each c member)
  · rfl
  · rfl

theorem exists_mark (text : List Char) : ∃ mark ∈ marks, text = mark ++ withoutMark text := by
  unfold withoutMark
  split
  · exact ⟨['0', 'x'], by decide, rfl⟩
  · exact ⟨['0', 'X'], by decide, rfl⟩
  · exact ⟨[], by decide, rfl⟩

/-- A digit is not blank, and neither is a base mark. -/
theorem marked_ink {mark digits : List Char} (known : mark ∈ marks)
    (each : ∀ c ∈ digits, IsDigit c) : ∀ c ∈ mark ++ digits, isBlank c = false := by
  have ink : ∀ mark ∈ marks, ∀ c ∈ mark, isBlank c = false := by
    simp [marks, isBlank]
  intro c member
  rcases List.mem_append.mp member with marked | digit
  · exact ink mark known c marked
  · exact not_blank_of_hexDigit ((hexDigit?_isSome c).mpr (each c digit))

theorem spells_of_read? {text : String} {id : Nat} (read : read? text = some id) :
    Spells text.toList id := by
  obtain ⟨before, after, whole, left, right⟩ := exists_trim isBlank text.toList
  obtain ⟨mark, known, marked⟩ := exists_mark (trim isBlank text.toList)
  unfold read? at read
  split at read
  next digit digits mapped =>
    obtain ⟨each, values⟩ := mapM_hexDigit? mapped
    have written : withoutMark (trim isBlank text.toList) ≠ [] := by
      intro empty
      rw [empty] at values
      cases values
    refine ⟨before, mark, _, after, marked ▸ whole, left, right, known, written, each, ?_⟩
    rw [← ofDigits_placeValue, ← values]
    exact Option.some.inj read
  next => cases read

theorem read?_of_spells {text : String} {id : Nat} (spells : Spells text.toList id) :
    read? text = some id := by
  obtain ⟨before, mark, digits, after, whole, left, right, known, written, each, rfl⟩ := spells
  have core : trim isBlank text.toList = mark ++ digits := by
    rw [whole]
    exact trim_surrounded (by simp [written]) (marked_ink known each) left right
  rw [read?, core, withoutMark_marked known each, mapM_digits each, ← ofDigits_placeValue]
  cases digits with
  | nil => exact absurd rfl written
  | cons c rest => rfl

theorem ofValue_str (text : String) : ofValue (.str text) = match read? text with
    | some id => .ok id
    | none => .error (.invalidHexId (.str text)) := rfl

theorem ofValue_str_iff (text : String) (id : Int) :
    ofValue (.str text) = .ok id ↔ ∃ n : Nat, id = n ∧ Spells text.toList n := by
  rw [ofValue_str]
  constructor
  · intro read
    split at read
    next n found =>
      cases read
      exact ⟨n, rfl, spells_of_read? found⟩
    next => cases read
  · rintro ⟨n, rfl, spells⟩
    rw [read?_of_spells spells]

theorem ofValue_str_error {text : String} {fault : Fault}
    (failed : ofValue (.str text) = .error fault) :
    fault = .invalidHexId (.str text) ∧ fault.kind = .parse := by
  rw [ofValue_str] at failed
  split at failed
  · cases failed
  · cases failed
    exact ⟨rfl, rfl⟩

/-- The text of an id in a field: its digits in lower case, with zeros in front up to the width. -/
def spelling (width n : Nat) : String :=
  String.ofList (((Nat.digits 16 n).reverse.map Nat.digitChar).leftpad width '0')

/-- Induction on the number, digit by digit from the last one. -/
theorem toDigits_eq {n : Nat} (positive : 0 < n) :
    Nat.toDigits 16 n = (Nat.digits 16 n).reverse.map Nat.digitChar := by
  induction n using Nat.strongRecOn with
  | ind n ih =>
    by_cases small : n < 16
    · rw [Nat.toDigits_of_lt_base small, Nat.digits_of_lt 16 n (by omega) small]
      rfl
    · rw [Nat.toDigits_of_base_le (by decide) (by omega), ih (n / 16) (by omega) (by omega),
        Nat.digits_def' (by decide) positive, List.reverse_cons, List.map_append]
      rfl

theorem text_eq_spelling {width : Nat} (positive : 1 ≤ width) (n : Nat) :
    text width n = spelling width n := by
  cases n with
  | zero =>
    obtain ⟨width, rfl⟩ := Nat.exists_eq_add_of_le' positive
    simp [text, spelling, hexText, List.leftpad, List.replicate_succ']
  | succ n =>
    rw [text, spelling, hexText, toDigits_eq (Nat.succ_pos n)]
    rfl

/-- What is written in a field is the text of an id. -/
theorem format_ok {id width : Int} {written : String} (done : format id width = .ok written) :
    0 ≤ id ∧ written = text width.toNat id.toNat := by
  unfold format at done
  split at done
  · cases done
  next natural =>
    obtain ⟨field, fits, rfl⟩ := map_ok done
    refine ⟨Int.not_lt.mp natural, ?_⟩
    unfold fieldWidth at fits
    split at fits
    · cases fits
    · split at fits
      · cases fits
      · cases fits
        rfl

theorem ofValue_format {id width : Int} {written : String} (done : format id width = .ok written) :
    ofValue (.str written) = .ok id := by
  obtain ⟨natural, rfl⟩ := format_ok done
  rw [ofValue_text, Int.toNat_of_nonneg natural]

/-- A width that is none is refused, as itself or because it cannot even be written. -/
theorem format_wide {id width : Int} (natural : 0 ≤ id) (wide : widthLimit ≤ width) :
    format id width = .error (.naming width .hugeWidth) ∧
      (Fault.naming width .hugeWidth).kind = .value := by
  have positive : ¬ width < 0 := by
    have : (0 : Int) ≤ widthLimit := by decide
    omega
  constructor
  · rw [format, if_neg (Int.not_lt.mpr natural), fieldWidth, if_neg positive, if_pos wide]
    rfl
  · unfold Fault.naming
    split <;> rfl

end HexId

/-- A text stands for the id that it spells, and no other text stands for any. An id is written
as its digits in a field of any width that there is, and read back from there, so different ids
are never written alike. -/
theorem ids_are_read_as_they_are_spelled :
    (∀ text : String,
      (∀ id, HexId.ofValue (.str text) = .ok id ↔
        ∃ n : Nat, id = n ∧ HexId.Spells text.toList n) ∧
      ∀ fault, HexId.ofValue (.str text) = .error fault →
        fault = .invalidHexId (.str text) ∧ fault.kind = .parse) ∧
    (∀ id width : Int, 0 ≤ id → 1 ≤ width →
      (width < HexId.widthLimit → ∃ text, HexId.format id width = .ok text ∧
        text = HexId.spelling width.toNat id.toNat ∧ HexId.ofValue (.str text) = .ok id) ∧
      (HexId.widthLimit ≤ width → ∃ fault, HexId.format id width = .error fault ∧
        fault.kind = .value)) ∧
    ∀ first second width other one two, HexId.format first width = .ok one →
      HexId.format second other = .ok two → first ≠ second → one ≠ two := by
  refine ⟨fun text => ⟨HexId.ofValue_str_iff text, fun fault => HexId.ofValue_str_error⟩,
    fun id width natural positive => ⟨fun short => ?_, fun wide =>
      ⟨_, HexId.format_wide natural wide⟩⟩, ?_⟩
  · have done := HexId.format_natural natural width (by omega) short
    exact ⟨_, done, HexId.text_eq_spelling (by omega) id.toNat, HexId.ofValue_format done⟩
  · rintro first second width other one two written writtenToo different rfl
    have same := (HexId.ofValue_format written).symm.trans (HexId.ofValue_format writtenToo)
    exact different (Except.ok.inj same)

/-- A marked text in upper case with blanks around it, an id that is shorter than its field, a
width that is none, and two ids of which one begins like the other. -/
theorem marked_and_padded_ids_are_read :
    HexId.Spells "\t0X2A7 ".toList 0x2a7 ∧ HexId.ofValue (.str "\t0X2A7 ") = .ok 0x2a7 ∧
      (∃ text, HexId.format 0x2a7 6 = .ok text ∧ text = "0002a7" ∧
        HexId.ofValue (.str text) = .ok 0x2a7) ∧
      (∃ fault, HexId.format 0x2a7 (2 ^ 64) = .error fault ∧ fault.kind = .value) ∧
      HexId.format 0x2a7 1 = .ok "2a7" ∧ HexId.format 0x2a 3 = .ok "02a" ∧ "2a7" ≠ "02a" := by
  obtain ⟨reads, writes, apart⟩ := ids_are_read_as_they_are_spelled
  have spells : HexId.Spells "\t0X2A7 ".toList 0x2a7 :=
    ⟨['\t'], ['0', 'X'], ['2', 'A', '7'], [' '], by decide, by simp [Text.isBlank],
      by simp [Text.isBlank], by decide, by decide, by simp [HexId.IsDigit]; decide, by decide⟩
  have narrow : HexId.format 0x2a7 1 = .ok "2a7" := rfl
  have wider : HexId.format 0x2a 3 = .ok "02a" := rfl
  obtain ⟨text, written, spelled, read⟩ := (writes 0x2a7 6 (by decide) (by decide)).1 (by decide)
  have padded : text = "0002a7" := spelled.trans rfl
  exact ⟨spells, ((reads "\t0X2A7 ").1 0x2a7).mpr ⟨0x2a7, rfl, spells⟩,
    ⟨text, written, padded, read⟩,
    (writes 0x2a7 (2 ^ 64) (by decide) (by decide)).2 (by decide),
    narrow, wider, apart 0x2a7 0x2a 1 3 _ _ narrow wider (by decide)⟩

/-- The first width that is none: nothing is written in such a field. -/
theorem field_without_end_is_refused :
    (0 : Int) ≤ 5 ∧ (1 : Int) ≤ 2 ^ 63 ∧ HexId.format 5 (2 ^ 63) = .error .hugeWidth ∧
      ¬ ∃ text, HexId.format 5 (2 ^ 63) = .ok text := by
  have writable : Numeral.isWritable (2 ^ 63) = true := by decide +kernel
  have refused : HexId.format 5 (2 ^ 63) = .error .hugeWidth := by
    have field : HexId.fieldWidth (2 ^ 63) = .error .hugeWidth := by
      rw [HexId.fieldWidth, if_neg (by decide), if_pos (by decide), Fault.naming, if_pos writable]
    rw [HexId.format, if_neg (by decide), field]
    rfl
  refine ⟨by decide, by decide, refused, ?_⟩
  rintro ⟨text, written⟩
  rw [refused] at written
  cases written

end Libretto
