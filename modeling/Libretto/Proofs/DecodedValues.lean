import Libretto.Document
import Libretto.Proofs.Edits
import Libretto.Proofs.OrderedMaps

/-! Values as documents hold them: no object names a member twice. In the text of a document an
object may well do so; of such members the reader keeps the last one. -/
namespace Libretto

/-- No object in the value names a member twice. -/
inductive Value.Decoded : Value → Prop
  | null : Decoded .null
  | bool (value : Bool) : Decoded (.bool value)
  | int (value : Int) : Decoded (.int value)
  | float (value : Binary64) : Decoded (.float value)
  | str (value : String) : Decoded (.str value)
  | list {items : List Value} (each : ∀ item ∈ items, Decoded item) : Decoded (.list items)
  | object {members : List (String × Value)} (distinct : (members.map Prod.fst).Nodup)
      (each : ∀ member ∈ members, Decoded member.2) : Decoded (.object members)

namespace Value

theorem Decoded.distinct {members : List (String × Value)}
    (decoded : (Value.object members).Decoded) : (members.map Prod.fst).Nodup := by
  cases decoded with
  | object distinct each => exact distinct

theorem Decoded.member {value member : Value} {name : String} (decoded : value.Decoded)
    (found : value.member? name = some member) : member.Decoded := by
  cases decoded with
  | object distinct each => exact each (name, member) (Entries.mem_of_find? found)
  | _ => cases found

theorem Decoded.texts (texts : List String) : (Value.list (texts.map .str)).Decoded := by
  refine .list fun item there => ?_
  obtain ⟨text, -, rfl⟩ := List.mem_map.mp there
  exact .str text

end Value

namespace Json

/-- What a reader gives if it does not stop. -/
def Gives (property : α → Prop) {text : List Char} (result : Except Stop (Parsed α text)) : Prop :=
  ∀ parsed, result = .ok parsed → property parsed.value

variable {α : Type} {property : α → Prop} {text : List Char}

theorem Gives.map {β : Type} {longer : List Char} {other : β → Prop}
    {result : Except Stop (Parsed α text)} (gives : Gives property result)
    {f : Parsed α text → Parsed β longer}
    (step : ∀ parsed, property parsed.value → other (f parsed).value) :
    Gives other (result.map f) := by
  intro parsed done
  cases result with
  | error stop => cases done
  | ok first =>
    cases done
    exact step first (gives first rfl)

theorem Gives.bind {β : Type} {longer : List Char} {other : β → Prop}
    {first : Except Stop (Parsed α text)} {next : Parsed α text → Except Stop (Parsed β longer)}
    (head : Gives property first)
    (tail : ∀ parsed, property parsed.value → Gives other (next parsed)) :
    Gives other (first >>= next) := by
  intro parsed done
  obtain ⟨one, read, rest⟩ := bind_ok done
  exact tail one (head one read) parsed rest

theorem Gives.ok {parsed : Parsed α text} (holds : property parsed.value) :
    Gives property (.ok parsed) := by
  rintro _ ⟨⟩
  exact holds

theorem Gives.any (result : Except Stop (Parsed α text)) : Gives (fun _ => True) result :=
  fun _ _ => trivial

theorem Gives.error (stop : Stop) :
    Gives property (.error stop : Except Stop (Parsed α text)) := by
  rintro _ ⟨⟩

theorem unsigned_decoded (negative : Bool) (text : List Char) :
    Gives Value.Decoded (unsigned negative text) := by
  unfold unsigned
  repeat' split
  all_goals first
    | exact .error _
    | exact .ok (.float _)
    | exact .ok (.int _)

theorem word?_decoded {text : List Char} {words : List (List Char × Value)}
    (decoded : ∀ word ∈ words, word.2.Decoded) {parsed : Parsed Value text}
    (found : word? text words = some parsed) : parsed.value.Decoded := by
  induction words with
  | nil => cases found
  | cons word words ih =>
    obtain ⟨first, rest⟩ := List.forall_mem_cons.mp decoded
    simp only [word?] at found
    split at found
    · split at found
      · cases found
        exact first
      · exact ih rest found
    · exact ih rest found

theorem scalar_decoded (text : List Char) : Gives Value.Decoded (scalar text) := by
  have words : ∀ word ∈ words, word.2.Decoded := by
    simp only [words, List.forall_mem_cons, List.not_mem_nil, false_imp_iff, implies_true, and_true]
    exact ⟨.null, .bool _, .bool _, .float _, .float _, .float _⟩
  unfold scalar
  split
  next word found => exact .ok (word?_decoded words found)
  · split
    · exact .error _
    · split
      · exact (unsigned_decoded true _).map fun _ decoded => decoded
      · exact unsigned_decoded false _

theorem object_decoded {members : List (String × Value)}
    (each : ∀ member ∈ members, member.2.Decoded) : (object members).Decoded := by
  refine .object (OrderedMap.ofList members).distinct fun member there => ?_
  obtain ⟨name, value⟩ := member
  have found := (OrderedMap.find?_eq_some_iff _ name value).mpr there
  rw [OrderedMap.ofList, OrderedMap.find?_extend, OrderedMap.find?_empty, Option.or_none] at found
  obtain ⟨last, got, rfl⟩ := Option.map_eq_some_iff.mp found
  exact each last (List.mem_filter.mp (List.mem_of_getLast? got)).1

/-- What is known of the texts up to some length. -/
structure DecodesUpTo (length : Nat) : Prop where
  value : ∀ room text, text.length < length → Gives Value.Decoded (value room text)
  items : ∀ room text, text.length < length →
    Gives (fun items => ∀ item ∈ items, item.Decoded) (items room text)
  members : ∀ room text, text.length < length →
    Gives (fun members => ∀ member ∈ members, member.2.Decoded) (members room text)

theorem value_decoded (room : Nat) (text : List Char) (shorter : DecodesUpTo text.length) :
    Gives Value.Decoded (value room text) := by
  rw [value.eq_def]
  split
  · exact .error _
  next c rest =>
    have within : (skip rest).length < (c :: rest).length :=
      Nat.lt_succ_of_le (skip_length_le rest)
    split
    · exact (Gives.any _).map fun _ _ => .str _
    · split
      · split
        · exact .error _
        · split
          · exact .ok (.object .nil (List.forall_mem_nil _))
          · exact (shorter.members _ _ within).map fun parsed each => object_decoded each
        · exact .error _
      · split
        · split
          · exact .error _
          · split
            · exact .ok (.list (List.forall_mem_nil _))
            · exact (shorter.items _ _ within).map fun parsed each => .list each
          · exact .error _
        · exact scalar_decoded _

theorem items_decoded (room : Nat) (text : List Char) (shorter : DecodesUpTo text.length) :
    Gives (fun items => ∀ item ∈ items, item.Decoded) (items room text) := by
  rw [items.eq_def]
  refine (value_decoded room text shorter).bind fun first head => ?_
  split
  · exact .error _
  next mark next =>
    split
    · exact .ok (List.forall_mem_singleton.mpr head)
    · split
      · have within : (skip mark.rest).length < text.length := by
          have := skip_length_le mark.rest
          have := mark.shorter
          have := first.shorter
          omega
        refine (shorter.items room _ within).bind fun more rest => ?_
        exact .ok (List.forall_mem_cons.mpr ⟨head, rest⟩)
      · exact .error _

theorem members_decoded (room : Nat) (text : List Char) (shorter : DecodesUpTo text.length) :
    Gives (fun members => ∀ member ∈ members, member.2.Decoded) (members room text) := by
  rw [members.eq_def]
  split
  · exact .error _
  next c rest =>
    split
    case isFalse => exact .error _
    refine (Gives.any (string rest)).bind fun name _ => ?_
    split
    · exact .error _
    next colon after =>
      split
      case isFalse => exact .error _
      have behind : (skip colon.rest).length < (c :: rest).length := by
        have := skip_length_le colon.rest
        have := colon.shorter
        have := name.shorter
        simp only [List.length_cons]
        omega
      refine (shorter.value room _ behind).bind fun first head => ?_
      split
      · exact .error _
      next mark next =>
        split
        · exact .ok (List.forall_mem_singleton.mpr head)
        · split
          case isFalse => exact .error _
          have within : (skip mark.rest).length < (c :: rest).length := by
            have := skip_length_le mark.rest
            have := mark.shorter
            have := first.shorter
            omega
          refine (shorter.members room _ within).bind fun more others => ?_
          exact .ok (List.forall_mem_cons.mpr ⟨head, others⟩)

theorem DecodesUpTo.mono {length more : Nat} (decodes : DecodesUpTo more) (le : length ≤ more) :
    DecodesUpTo length where
  value := fun room text less => decodes.value room text (Nat.lt_of_lt_of_le less le)
  items := fun room text less => decodes.items room text (Nat.lt_of_lt_of_le less le)
  members := fun room text less => decodes.members room text (Nat.lt_of_lt_of_le less le)

/-- Induction on the length: the readers go on behind blanks, so what they read next is shorter
but no part of the text's own recursion. -/
theorem decodes_up_to (length : Nat) : DecodesUpTo length := by
  induction length with
  | zero => exact ⟨fun _ _ => nofun, fun _ _ => nofun, fun _ _ => nofun⟩
  | succ length ih =>
    have up {text : List Char} (short : text.length < length + 1) : DecodesUpTo text.length :=
      ih.mono (Nat.le_of_lt_succ short)
    exact ⟨fun room text short => value_decoded room text (up short),
      fun room text short => items_decoded room text (up short),
      fun room text short => members_decoded room text (up short)⟩

theorem document_decoded {text : List Char} {value : Value} (done : document text = .ok value) :
    value.Decoded := by
  unfold document at done
  split at done
  · cases done
  · obtain ⟨parsed, first, done⟩ := bind_ok done
    split at done
    · cases done
      exact (decodes_up_to _).value depthLimit _ (Nat.lt_succ_self _) parsed first
    · cases done

end Json

/-- A document that can be read holds such a value. -/
theorem FileTree.document_decoded {files : FileTree} {path : String} {value : Value}
    (done : files.document path = .ok value) : value.Decoded := by
  obtain ⟨text, -, read⟩ := bind_ok done
  exact Json.document_decoded (mapError_ok_iff.mp (mapError_ok_iff.mp read))

end Libretto
