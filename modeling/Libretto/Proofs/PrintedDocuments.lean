import Libretto.Json.Printer
import Libretto.Json.Reader
import Libretto.Proofs.HexNumerals
import Libretto.Proofs.OrderedMaps

/-! Documents are read back from the texts they are printed as. A text goes through its
escapes character by character, an object through its members one by one; what stands behind a
value is left as it is, so a value is read the same wherever it stands. -/
namespace Libretto.Json

/-- A step that goes well, with what it reads and what it leaves. -/
def Reads {text : List Char} (step : Except Stop (Parsed α text)) (value : α)
    (rest : List Char) : Prop :=
  ∃ shorter, step = .ok ⟨value, rest, shorter⟩

theorem unit?_eq (a b c d : Char) :
    unit? a b c d = ([a, b, c, d].mapM Text.hexDigit?).map HexId.ofDigits := by
  simp only [unit?, List.mapM_cons, List.mapM_nil]
  cases Text.hexDigit? a <;> cases Text.hexDigit? b <;> cases Text.hexDigit? c <;>
    cases Text.hexDigit? d <;> simp [HexId.ofDigits]

/-- The digits of a control character are four. -/
theorem unit?_hexText {n : Nat} (control : n < 32) :
    ∃ a b c d, Text.hexText 4 n = [a, b, c, d] ∧ unit? a b c d = some n := by
  have lengths : ∀ n : Fin 32, (Text.hexText 4 n.val).length = 4 := by decide
  have length : (Text.hexText 4 n).length = 4 := lengths ⟨n, control⟩
  obtain ⟨digits, read, -, value⟩ := HexId.read_hexText 4 n
  match shape : Text.hexText 4 n, length with
  | [a, b, c, d], _ =>
    rw [shape] at read
    exact ⟨a, b, c, d, rfl, by rw [unit?_eq, read, Option.map_some, value]⟩

theorem pieces_quote (opening : Thunk Nat) (rest : List Char) :
    Reads (pieces opening ('"' :: rest)) [] rest := ⟨Nat.lt_succ_self _, by rw [pieces.eq_def]; rfl⟩

theorem pieces_plain {opening : Thunk Nat} {c : Char} {text rest : List Char} {read : List Piece}
    (quote : c ≠ '"') (backslash : c ≠ '\\') (shown : ¬ c < ' ')
    (more : Reads (pieces opening text) read rest) :
    Reads (pieces opening (c :: text)) (.char c :: read) rest := by
  obtain ⟨shorter, ran⟩ := more
  refine ⟨Nat.lt_succ_of_lt shorter, ?_⟩
  rw [pieces.eq_def]
  simp [quote, backslash, shown, ran, prepend, Except.map]

theorem pieces_short {opening : Thunk Nat} {c e : Char} {text rest : List Char}
    {read : List Piece} (other : e ≠ 'u') (meant : escaped? e = some c)
    (more : Reads (pieces opening text) read rest) :
    Reads (pieces opening ('\\' :: e :: text)) (.char c :: read) rest := by
  obtain ⟨shorter, ran⟩ := more
  refine ⟨Nat.lt_succ_of_lt (Nat.lt_succ_of_lt shorter), ?_⟩
  rw [pieces.eq_def]
  simp [other, meant, ran, Except.map]

theorem pieces_unit {opening : Thunk Nat} {a b c d : Char} {n : Nat} {text rest : List Char}
    {read : List Piece} (meant : unit? a b c d = some n)
    (more : Reads (pieces opening text) read rest) :
    Reads (pieces opening ('\\' :: 'u' :: a :: b :: c :: d :: text)) (.unit n :: read) rest := by
  obtain ⟨shorter, ran⟩ := more
  cases text with
  | nil => cases shorter
  | cons first text =>
    have fewer : rest.length < text.length + 1 := shorter
    refine ⟨by simp only [List.length_cons]; omega, ?_⟩
    rw [pieces.eq_def]
    simp [meant, ran, Except.map]

/-- The ways in which a character is written. -/
theorem escape_cases (c : Char) :
    (∃ e, escape c = ['\\', e] ∧ e ≠ 'u' ∧ escaped? e = some c) ∨
    (escape c = '\\' :: 'u' :: Text.hexText 4 c.toNat ∧ c < ' ') ∨
    (escape c = [c] ∧ c ≠ '"' ∧ c ≠ '\\' ∧ ¬ c < ' ') := by
  unfold escape
  split
  next same => exact .inl ⟨'"', rfl, by decide, by rw [same]; rfl⟩
  split
  next same => exact .inl ⟨'\\', rfl, by decide, by rw [same]; rfl⟩
  split
  next same => exact .inl ⟨'n', rfl, by decide, by rw [same]; rfl⟩
  split
  next same => exact .inl ⟨'r', rfl, by decide, by rw [same]; rfl⟩
  split
  next same => exact .inl ⟨'t', rfl, by decide, by rw [same]; rfl⟩
  split
  next same => exact .inl ⟨'b', rfl, by decide, by rw [same]; rfl⟩
  split
  next same => exact .inl ⟨'f', rfl, by decide, by rw [same]; rfl⟩
  split
  next control => exact .inr (.inl ⟨rfl, control⟩)
  next quote backslash _ _ _ _ _ shown => exact .inr (.inr ⟨rfl, quote, backslash, shown⟩)

/-- A control character is no half of another one. -/
theorem joinUnits_control {n : Nat} (control : n < 32) (read : List Piece) :
    joinUnits (.unit n :: read) = Char.ofNat n :: joinUnits read := by
  have whole : isHigh n = false ∧ isLow n = false := by
    simp only [isHigh, isLow]
    simp
    omega
  match read with
  | [] | .char _ :: _ | .unit _ :: _ => simp [joinUnits, whole]

theorem pieces_printed (opening : Thunk Nat) (text rest : List Char) :
    ∃ read, Reads (pieces opening (text.flatMap escape ++ '"' :: rest)) read rest ∧
      joinUnits read = text := by
  induction text with
  | nil => exact ⟨[], pieces_quote opening rest, rfl⟩
  | cons c text ih =>
    obtain ⟨read, more, joined⟩ := ih
    rw [List.flatMap_cons, List.append_assoc]
    rcases escape_cases c with ⟨e, written, other, meant⟩ | ⟨written, control⟩ |
      ⟨written, quote, backslash, shown⟩
    · rw [written]
      exact ⟨.char c :: read, pieces_short other meant more, by rw [joinUnits, joined]⟩
    · have small : c.toNat < 32 := control
      obtain ⟨h₁, h₂, h₃, h₄, digits, meant⟩ := unit?_hexText small
      rw [written, digits]
      refine ⟨.unit c.toNat :: read, pieces_unit meant more, ?_⟩
      rw [joinUnits_control small, joined, Char.ofNat_toNat]
    · rw [written]
      exact ⟨.char c :: read, pieces_plain quote backslash shown more, by rw [joinUnits, joined]⟩

/-- A text is read back from the quotes it is printed in. -/
theorem string_printed (text : String) (rest : List Char) :
    Reads (string (text.toList.flatMap escape ++ '"' :: rest)) text rest := by
  unfold string
  obtain ⟨read, ⟨shorter, ran⟩, joined⟩ := pieces_printed _ text.toList rest
  refine ⟨shorter, ?_⟩
  rw [ran]
  simp [Except.map, joined]

/-- The first character that is not blank, and what it leaves. -/
def Meets (text : List Char) (c : Char) (rest : List Char) : Prop :=
  ∃ shorter, next? text = some ⟨c, rest, shorter⟩

/-- Blanks in front of what comes next are passed over. -/
theorem meets_blanks {blanks : List Char} (blank : ∀ c ∈ blanks, isBlank c = true) {c : Char}
    (ink : isBlank c = false) (rest : List Char) : Meets (blanks ++ c :: rest) c rest := by
  induction blanks with
  | nil => exact ⟨Nat.lt_succ_self _, by simp [next?, ink]⟩
  | cons b blanks ih =>
    obtain ⟨shorter, found⟩ := ih fun c member => blank c (by simp [member])
    refine ⟨Nat.lt_succ_of_lt shorter, ?_⟩
    simp [next?, blank b (by simp), found, Parsed.within]

theorem meets_ink {c : Char} (ink : isBlank c = false) (rest : List Char) :
    Meets (c :: rest) c rest := meets_blanks (List.forall_mem_nil _) ink rest

theorem skip_blanks {blanks : List Char} (blank : ∀ c ∈ blanks, isBlank c = true) {c : Char}
    (ink : isBlank c = false) (rest : List Char) : skip (blanks ++ c :: rest) = c :: rest := by
  rw [skip, List.dropWhile_append_of_pos blank, List.dropWhile_cons_of_neg (by simp [ink])]

theorem skip_ink {c : Char} (ink : isBlank c = false) (rest : List Char) :
    skip (c :: rest) = c :: rest := skip_blanks (List.forall_mem_nil _) ink rest

theorem newLine_blank (depth : Nat) : ∀ c ∈ newLine depth, isBlank c = true := by
  intro c member
  rcases List.mem_cons.mp member with rfl | later
  · rfl
  · rw [List.eq_of_mem_replicate later]
    rfl

/-- A value that is read back from its printed form whatever stands behind it. -/
def Legible (room depth : Nat) (item : Value) : Prop :=
  ∀ rest, Reads (value room (skip (print depth item ++ rest))) item rest

theorem printString_append (text : String) (rest : List Char) :
    printString text ++ rest = '"' :: (text.toList.flatMap escape ++ '"' :: rest) := by
  simp [printString]

theorem legible_str (room depth : Nat) (text : String) : Legible room depth (.str text) := by
  intro rest
  obtain ⟨shorter, ran⟩ := string_printed text rest
  rw [print, printString_append, skip_ink rfl]
  refine ⟨Nat.lt_succ_of_lt shorter, ?_⟩
  rw [value.eq_def]
  simp [ran, Except.map]

section members
variable {room : Nat} {text afterName afterColon afterItem rest : List Char} {name : String}
  {item : Value}

theorem members_last (named : Reads (string text) name afterName)
    (colon : Meets afterName ':' afterColon)
    (read : Reads (value room (skip afterColon)) item afterItem)
    (closed : Meets afterItem '\x7d' rest) :
    Reads (members room ('"' :: text)) [(name, item)] rest := by
  obtain ⟨_, named⟩ := named
  obtain ⟨_, colon⟩ := colon
  obtain ⟨_, read⟩ := read
  obtain ⟨_, closed⟩ := closed
  refine ⟨?_, ?_⟩
  · have := skip_length_le afterColon
    simp only [List.length_cons]
    omega
  · rw [members.eq_def]
    simp [named, colon, read, closed, bind, Except.bind]

theorem members_more {afterComma : List Char} {items : List (String × Value)}
    (named : Reads (string text) name afterName)
    (colon : Meets afterName ':' afterColon)
    (read : Reads (value room (skip afterColon)) item afterItem)
    (comma : Meets afterItem ',' afterComma)
    (more : Reads (members room (skip afterComma)) items rest) :
    Reads (members room ('"' :: text)) ((name, item) :: items) rest := by
  obtain ⟨_, named⟩ := named
  obtain ⟨_, colon⟩ := colon
  obtain ⟨_, read⟩ := read
  obtain ⟨_, comma⟩ := comma
  obtain ⟨_, more⟩ := more
  refine ⟨?_, ?_⟩
  · have := skip_length_le afterColon
    have := skip_length_le afterComma
    simp only [List.length_cons]
    omega
  · rw [members.eq_def]
    simp [named, colon, read, comma, more, bind, Except.bind]

theorem value_empty (closed : Meets text '\x7d' rest) :
    Reads (value (room + 1) ('\x7b' :: text)) (.object []) rest := by
  obtain ⟨shorter, closed⟩ := closed
  refine ⟨Nat.lt_succ_of_lt shorter, ?_⟩
  rw [value.eq_def]
  simp [closed]

theorem value_members {c : Char} {after : List Char} {items : List (String × Value)}
    (opened : Meets text c after) (filled : c ≠ '\x7d')
    (read : Reads (members room (skip text)) items rest) :
    Reads (value (room + 1) ('\x7b' :: text)) (object items) rest := by
  obtain ⟨_, opened⟩ := opened
  obtain ⟨_, read⟩ := read
  refine ⟨?_, ?_⟩
  · have := skip_length_le text
    simp only [List.length_cons]
    omega
  · rw [value.eq_def]
    simp [opened, filled, read, Except.map]

end members

/-- Members are read back one by one if their values are. -/
theorem members_printed {room depth : Nat} {others : List (String × Value)}
    (legible : ∀ member ∈ others, Legible room depth member.2) (name : String) {item : Value}
    (first : Legible room depth item) (closing : Nat) (rest : List Char) :
    Reads (members room (printString name ++ ':' :: ' ' :: (print depth item ++
        (printMembers depth others ++ (newLine closing ++ '\x7d' :: rest)))))
      ((name, item) :: others) rest := by
  induction others generalizing name item with
  | nil =>
    rw [printString_append]
    refine members_last (string_printed name _) (meets_ink rfl _) (first _) ?_
    exact meets_blanks (newLine_blank closing) rfl rest
  | cons member members ih =>
    obtain ⟨next, value⟩ := member
    obtain ⟨second, later⟩ := List.forall_mem_cons.mp legible
    let tail := newLine closing ++ '\x7d' :: rest
    have more := ih later next second
    have behind : printMembers depth ((next, value) :: members) ++ tail = ',' :: (newLine depth ++
        (printString next ++ ':' :: ' ' :: (print depth value ++
          (printMembers depth members ++ tail)))) := by
      simp [printMembers, tail]
    rw [printString_append]
    refine members_more (string_printed name _) (meets_ink rfl _) (first _)
      (behind ▸ meets_ink rfl _) ?_
    rw [printString_append] at more ⊢
    rwa [skip_blanks (newLine_blank depth) rfl]

/-- Names that occur once are all kept. -/
theorem object_distinct {members : List (String × Value)}
    (distinct : (members.map Prod.fst).Nodup) : object members = .object members := by
  rw [object, OrderedMap.entries_ofList members distinct]

theorem legible_object {room depth : Nat} {members : List (String × Value)}
    (distinct : (members.map Prod.fst).Nodup)
    (legible : ∀ member ∈ members, Legible room (depth + 1) member.2) :
    Legible (room + 1) depth (.object members) := by
  intro rest
  cases members with
  | nil =>
    have shape : print depth (.object []) ++ rest = '\x7b' :: '\x7d' :: rest := by simp [print]
    rw [shape, skip_ink rfl]
    exact value_empty (meets_ink rfl rest)
  | cons member members =>
    obtain ⟨name, item⟩ := member
    obtain ⟨first, others⟩ := List.forall_mem_cons.mp legible
    have read := members_printed others name first depth rest
    have shape : print depth (.object ((name, item) :: members)) ++ rest =
        '\x7b' :: (newLine (depth + 1) ++ (printString name ++ ':' :: ' ' ::
          (print (depth + 1) item ++ (printMembers (depth + 1) members ++
            (newLine depth ++ '\x7d' :: rest))))) := by
      simp [print]
    rw [shape, skip_ink rfl, ← object_distinct distinct]
    rw [printString_append] at read ⊢
    refine value_members (meets_blanks (newLine_blank (depth + 1)) rfl _) (by decide) ?_
    rwa [skip_blanks (newLine_blank (depth + 1)) rfl]

/-- No value starts with a byte order mark. -/
theorem value_byteOrderMark (room : Nat) (text : List Char) (item : Value) (rest : List Char) :
    ¬ Reads (value room ('\ufeff' :: text)) item rest := by
  rintro ⟨_, ran⟩
  rw [value.eq_def] at ran
  simp [scalar, word?, words, behind?, unsigned, whole?, digits?, isDigit] at ran

theorem read_text {item : Value} (legible : Legible depthLimit 0 item) :
    read (text item) = .ok item := by
  have whole := legible []
  rw [List.append_nil] at whole
  have unmarked : ∀ rest, print 0 item ≠ '\ufeff' :: rest := by
    intro rest marked
    rw [marked, skip_ink rfl] at whole
    exact value_byteOrderMark depthLimit rest item [] whole
  obtain ⟨_, ran⟩ := whole
  rw [read, text, String.toList_ofList, document]
  · rw [ran]
    rfl
  · exact unmarked

end Libretto.Json
