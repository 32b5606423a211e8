import Libretto.HexId.Value

/-! Ids are read back from the texts they are written as, whatever the width of the field.
The digits hold no blank and no mark, so nothing is taken off before they are read. -/
namespace Libretto

namespace Text

theorem hexDigit?_digitChar {digit : Nat} (bound : digit < 16) :
    hexDigit? digit.digitChar = some digit := by
  have all : ∀ d : Fin 16, hexDigit? d.val.digitChar = some d.val := by decide
  exact all ⟨digit, bound⟩

/-- A digit is one of three ranges of characters. -/
theorem range_of_hexDigit {c : Char} (digit : (hexDigit? c).isSome) :
    (48 ≤ c.toNat ∧ c.toNat ≤ 57) ∨ (97 ≤ c.toNat ∧ c.toNat ≤ 102) ∨
      (65 ≤ c.toNat ∧ c.toNat ≤ 70) := by
  simp only [hexDigit?] at digit
  split at digit
  next low => exact .inl low
  next =>
    split at digit
    next mid => exact .inr (.inl mid)
    next =>
      split at digit
      next high => exact .inr (.inr high)
      next => contradiction

/-- The three ranges hold no blank. -/
theorem not_blank_of_hexDigit {c : Char} (digit : (hexDigit? c).isSome) : isBlank c = false := by
  have range := range_of_hexDigit digit
  simp [isBlank]
  omega

theorem dropWhile_of_none {kind : Char → Bool} {text : List Char}
    (none : ∀ c ∈ text, kind c = false) : text.dropWhile kind = text := by
  cases text with
  | nil => rfl
  | cons c rest => simp [none c (by simp)]

theorem trim_of_all {kind : Char → Bool} {text : List Char}
    (none : ∀ c ∈ text, kind c = false) : trim kind text = text := by
  have reversed : ∀ c ∈ text.reverse, kind c = false := fun c member =>
    none c (List.mem_reverse.mp member)
  rw [trim, dropWhile_of_none none, dropWhile_of_none reversed, List.reverse_reverse]

end Text

namespace HexId

open Text

theorem ofDigits_append (first second : List Nat) :
    ofDigits (first ++ second) = second.foldl (fun value digit => value * 16 + digit)
      (ofDigits first) := List.foldl_append

theorem ofDigits_zeros (count : Nat) (digits : List Nat) :
    ofDigits (List.replicate count 0 ++ digits) = ofDigits digits := by
  induction count with
  | zero => rfl
  | succ count ih => simpa [ofDigits, List.replicate_succ] using ih

/-- Induction on the number, digit by digit from the last one. -/
theorem read_toDigits (n : Nat) :
    ∃ digits, (Nat.toDigits 16 n).mapM hexDigit? = some digits ∧ ofDigits digits = n := by
  induction n using Nat.strongRecOn with
  | ind n ih =>
    by_cases small : n < 16
    · refine ⟨[n], ?_, by simp [ofDigits]⟩
      simp [Nat.toDigits_of_lt_base small, hexDigit?_digitChar small]
    · obtain ⟨digits, read, value⟩ := ih (n / 16) (by omega)
      refine ⟨digits ++ [n % 16], ?_, ?_⟩
      · rw [Nat.toDigits_of_base_le (by decide) (by omega), List.mapM_append, read]
        simp [hexDigit?_digitChar (Nat.mod_lt n (by decide))]
      · rw [ofDigits_append, value]
        simp
        omega

theorem read_hexText (width n : Nat) :
    ∃ digits, (hexText width n).mapM hexDigit? = some digits ∧ digits ≠ [] ∧
      ofDigits digits = n := by
  obtain ⟨digits, read, value⟩ := read_toDigits n
  have zeros (count : Nat) :
      (List.replicate count '0').mapM hexDigit? = some (List.replicate count 0) := by
    induction count with
    | zero => rfl
    | succ count ih =>
      rw [List.replicate_succ, List.mapM_cons, ih]
      rfl
  have written : digits ≠ [] := by
    rintro rfl
    cases shape : Nat.toDigits 16 n with
    | nil => exact Nat.toDigits_ne_nil shape
    | cons c rest =>
      rw [shape, List.mapM_cons] at read
      cases head : hexDigit? c <;> cases tail : rest.mapM hexDigit? <;> simp [head, tail] at read
  refine ⟨List.replicate (width - (Nat.toDigits 16 n).length) 0 ++ digits, ?_, ?_, ?_⟩
  · simp [hexText, List.mapM_append, zeros, read]
  · simp [written]
  · rw [ofDigits_zeros, value]

theorem isSome_of_mapM {f : α → Option β} {xs : List α} {ys : List β}
    (mapped : xs.mapM f = some ys) : ∀ x ∈ xs, (f x).isSome := by
  induction xs generalizing ys with
  | nil => simp
  | cons x xs ih =>
    rw [List.mapM_cons] at mapped
    cases head : f x <;> cases tail : xs.mapM f <;> simp [head, tail] at mapped
    intro other member
    rcases List.mem_cons.mp member with rfl | later
    · simp [head]
    · exact ih tail other later

theorem withoutMark_digits {text : List Char} (digits : ∀ c ∈ text, (hexDigit? c).isSome) :
    withoutMark text = text := by
  unfold withoutMark
  split
  · exact absurd (digits 'x' (by simp)) (by decide)
  · exact absurd (digits 'X' (by simp)) (by decide)
  · rfl

theorem read?_text (width n : Nat) : read? (text width n) = some n := by
  obtain ⟨digits, mapped, written, value⟩ := read_hexText width n
  have each := isSome_of_mapM mapped
  have trimmed : trim isBlank (hexText width n) = hexText width n :=
    trim_of_all fun c member => not_blank_of_hexDigit (each c member)
  rw [read?, text, String.toList_ofList, trimmed, withoutMark_digits each, mapped]
  cases digits with
  | nil => exact absurd rfl written
  | cons digit digits => exact congrArg some value

/-- Different ids have different texts, in fields of any two widths. -/
theorem text_injective {width other first second : Nat}
    (same : text width first = text other second) : first = second := by
  have read : read? (text width first) = read? (text other second) := by rw [same]
  rw [read?_text, read?_text] at read
  exact Option.some.inj read

/-- The width of a field leaves an id of any length room. -/
theorem format_natural {id : Int} (natural : 0 ≤ id) (width : Int) (positive : 0 ≤ width)
    (short : width < widthLimit) : format id width = .ok (text width.toNat id.toNat) := by
  have field : fieldWidth width = .ok width.toNat := by
    simp [fieldWidth, Int.not_lt.mpr positive, Int.not_le.mpr short]
  simp [format, Int.not_lt.mpr natural, field, Except.map]

/-- A hint's id is written in a field of one digit at least. -/
theorem format_one {id : Int} (natural : 0 ≤ id) : format id 1 = .ok (text 1 id.toNat) :=
  format_natural natural 1 (by decide) (by decide)

theorem ofValue_text (width n : Nat) : ofValue (.str (text width n)) = .ok n := by
  simp [ofValue, Value.text, read?_text]

theorem ofValue_nonneg {text : String} {id : Int} (read : ofValue (.str text) = .ok id) :
    0 ≤ id := by
  simp only [ofValue, Value.text] at read
  split at read
  · cases read
    exact Int.natCast_nonneg _
  · cases read

end HexId

end Libretto
