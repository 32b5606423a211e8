import Libretto.OrderedMap

/-! Ordered maps seen through look-up and through their entries. As a key occurs once, the
two views say the same. -/
namespace Libretto

namespace Entries
variable {κ ν μ : Type} [DecidableEq κ]

theorem find?_eq_none_iff (key : κ) (entries : List (κ × ν)) :
    find? key entries = none ↔ key ∉ entries.map Prod.fst := by
  rw [← find?_isSome]
  cases find? key entries <;> simp

theorem mem_of_find? {key : κ} {value : ν} {entries : List (κ × ν)}
    (found : find? key entries = some value) : (key, value) ∈ entries := by
  induction entries with
  | nil => simp [find?] at found
  | cons entry rest ih =>
    obtain ⟨k, v⟩ := entry
    by_cases same : k = key
    · simp only [find?, same, if_true, Option.some.injEq] at found
      simp [same, found]
    · simp only [find?, same, if_false] at found
      exact List.mem_cons_of_mem _ (ih found)

theorem find?_of_mem {key : κ} {value : ν} {entries : List (κ × ν)}
    (distinct : (entries.map Prod.fst).Nodup) (member : (key, value) ∈ entries) :
    find? key entries = some value := by
  induction entries with
  | nil => simp at member
  | cons entry rest ih =>
    obtain ⟨k, v⟩ := entry
    obtain ⟨apart, tail⟩ := List.nodup_cons.mp distinct
    rcases List.mem_cons.mp member with head | later
    · obtain ⟨rfl, rfl⟩ := Prod.mk.inj head
      simp [find?]
    · have other : k ≠ key := by
        rintro rfl
        exact apart (List.mem_map.mpr ⟨_, later, rfl⟩)
      simpa only [find?, other, if_false] using ih tail later

/-- A new key comes behind the others. -/
theorem insert_new {key : κ} {entries : List (κ × ν)} (value : ν)
    (absent : key ∉ entries.map Prod.fst) :
    insert key value entries = entries ++ [(key, value)] := by
  induction entries with
  | nil => rfl
  | cons entry rest ih =>
    obtain ⟨k, v⟩ := entry
    simp only [List.map_cons, List.mem_cons, not_or] at absent
    simp [insert, Ne.symm absent.1, ih absent.2]

theorem insert_present {key : κ} {value : ν} {entries : List (κ × ν)}
    (found : find? key entries = some value) : insert key value entries = entries := by
  induction entries with
  | nil => simp [find?] at found
  | cons entry rest ih =>
    obtain ⟨k, v⟩ := entry
    by_cases same : k = key
    · simp only [find?, same, if_true, Option.some.injEq] at found
      simp [insert, same, found]
    · simp only [find?, same, if_false] at found
      simp [insert, same, ih found]

theorem insert_insert (key : κ) (first second : ν) (entries : List (κ × ν)) :
    insert key second (insert key first entries) = insert key second entries := by
  induction entries with
  | nil => simp [insert]
  | cons entry rest ih =>
    obtain ⟨k, v⟩ := entry
    by_cases same : k = key
    · simp [insert, same]
    · simp [insert, same, ih]

/-- A feature that the replaced value had already is seen where it was. -/
theorem map_insert_present {f : κ × ν → μ} {key : κ} {old value : ν} {entries : List (κ × ν)}
    (found : find? key entries = some old) (same : f (key, value) = f (key, old)) :
    (insert key value entries).map f = entries.map f := by
  induction entries with
  | nil => simp [find?] at found
  | cons entry rest ih =>
    obtain ⟨k, v⟩ := entry
    by_cases here : k = key
    · simp only [find?, here, if_true, Option.some.injEq] at found
      simp [insert, here, found, same]
    · simp only [find?, here, if_false] at found
      simp [insert, here, ih found]

theorem filter_insert_dropped {keep : κ → Bool} {key : κ} (dropped : keep key = false) (value : ν)
    (entries : List (κ × ν)) : (insert key value entries).filter (fun entry => keep entry.1) =
      entries.filter fun entry => keep entry.1 := by
  induction entries with
  | nil => simp [insert, dropped]
  | cons entry rest ih =>
    obtain ⟨k, v⟩ := entry
    by_cases here : k = key
    · simp [insert, here, dropped]
    · simp only [insert, here, if_false, List.filter_cons, ih]

end Entries

namespace OrderedMap
variable {κ ν μ ρ : Type}

theorem map_map (m : OrderedMap κ ν) (f : κ → ν → μ) (g : κ → μ → ρ) :
    (m.map f).map g = m.map fun key value => g key (f key value) :=
  ext (by simp [map, Function.comp_def])

variable [DecidableEq κ]

theorem find?_eq_some_iff (m : OrderedMap κ ν) (key : κ) (value : ν) :
    m.find? key = some value ↔ (key, value) ∈ m.entries :=
  ⟨Entries.mem_of_find?, Entries.find?_of_mem m.distinct⟩

theorem find?_eq_none_iff (m : OrderedMap κ ν) (key : κ) :
    m.find? key = none ↔ key ∉ m.keys := Entries.find?_eq_none_iff key m.entries

theorem contains_eq_false_iff (m : OrderedMap κ ν) (key : κ) :
    m.contains key = false ↔ m.find? key = none := by
  simp [contains]

theorem contains_of_mem {m : OrderedMap κ ν} {entry : κ × ν} (member : entry ∈ m.entries) :
    m.contains entry.1 := (m.contains_iff entry.1).mpr (List.mem_map_of_mem member)

theorem mem_keys_of_find? {m : OrderedMap κ ν} {key : κ} {value : ν}
    (found : m.find? key = some value) : key ∈ m.keys := by
  rw [← contains_iff, contains, found]
  rfl

/-- Maps in which the same is found differ in the order of their entries alone. -/
theorem entries_perm {a b : OrderedMap κ ν} (same : ∀ key, a.find? key = b.find? key) :
    a.entries.Perm b.entries := by
  have distinct (m : OrderedMap κ ν) : m.entries.Nodup :=
    List.Pairwise.of_map Prod.fst (fun _ _ apart equal => apart (congrArg Prod.fst equal)) m.distinct
  refine (List.perm_ext_iff_of_nodup (distinct a) (distinct b)).mpr fun ⟨key, value⟩ => ?_
  rw [← find?_eq_some_iff, ← find?_eq_some_iff, same]

theorem find?_of_perm {a b : OrderedMap κ ν} (perm : a.entries.Perm b.entries) (key : κ) :
    a.find? key = b.find? key := by
  refine Option.ext fun value => ?_
  rw [find?_eq_some_iff, find?_eq_some_iff, perm.mem_iff]

/-- In a map of one entry nothing else is found. -/
theorem find?_single {key other : κ} {value found : ν}
    (there : (ofList [(key, value)]).find? other = some found) : other = key ∧ found = value := by
  have member := (find?_eq_some_iff _ other found).mp there
  exact Prod.mk.inj (List.mem_singleton.mp member)

theorem entries_insert_new {m : OrderedMap κ ν} {key : κ} (value : ν)
    (absent : key ∉ m.keys) : (m.insert key value).entries = m.entries ++ [(key, value)] :=
  Entries.insert_new value absent

theorem insert_present {m : OrderedMap κ ν} {key : κ} {value : ν}
    (found : m.find? key = some value) : m.insert key value = m :=
  ext (Entries.insert_present found)

theorem insert_insert (m : OrderedMap κ ν) (key : κ) (first second : ν) :
    (m.insert key first).insert key second = m.insert key second :=
  ext (Entries.insert_insert key first second m.entries)

theorem contains_insert (m : OrderedMap κ ν) (key other : κ) (value : ν) :
    (m.insert key value).contains other = (decide (key = other) || m.contains other) := by
  by_cases same : key = other <;> simp [contains, find?_insert, same]

/-- Of several values for one key the last counts, and all of them before what was there. -/
theorem find?_extend (m : OrderedMap κ ν) (pairs : List (κ × ν)) (key : κ) :
    (m.extend pairs).find? key =
      (((pairs.filter fun pair => pair.1 = key).getLast?).map Prod.snd).or (m.find? key) := by
  induction pairs generalizing m with
  | nil => simp [extend]
  | cons pair rest ih =>
    obtain ⟨k, v⟩ := pair
    apply (ih (m.insert k v)).trans
    rw [find?_insert]
    by_cases same : k = key
    · simp only [same, if_true, decide_true, List.filter_cons_of_pos, List.getLast?_cons]
      cases (rest.filter fun pair => pair.1 = key).getLast? <;> simp
    · simp [same]

/-- Pairs with new keys come behind what was there, in their order. -/
theorem entries_extend_new (m : OrderedMap κ ν) (pairs : List (κ × ν))
    (distinct : (pairs.map Prod.fst).Nodup)
    (absent : ∀ key ∈ pairs.map Prod.fst, key ∉ m.keys) :
    (m.extend pairs).entries = m.entries ++ pairs := by
  induction pairs generalizing m with
  | nil => simp [extend]
  | cons pair rest ih =>
    obtain ⟨k, v⟩ := pair
    obtain ⟨apart, tail⟩ := List.nodup_cons.mp distinct
    have step : (m.insert k v).entries = m.entries ++ [(k, v)] :=
      entries_insert_new v (absent k (by simp))
    have later : ∀ key ∈ rest.map Prod.fst, key ∉ (m.insert k v).keys := by
      intro key member
      rw [mem_keys_insert]
      rintro (rfl | before)
      · exact apart member
      · exact absent key (List.mem_cons_of_mem _ member) before
    apply (ih (m.insert k v) tail later).trans
    simp [step]

theorem entries_ofList (pairs : List (κ × ν)) (distinct : (pairs.map Prod.fst).Nodup) :
    (ofList pairs).entries = pairs :=
  entries_extend_new empty pairs distinct fun _ _ => by simp [keys, empty]

/-- A map that is entered as it is. -/
theorem ofList_entries (m : OrderedMap κ ν) : ofList m.entries = m :=
  ext (entries_ofList m.entries m.distinct)

/-- A map that is entered in the order of its keys. -/
theorem entries_ofList_sorted (before : κ → κ → Bool) (m : OrderedMap κ ν) :
    (ofList (m.sorted before)).entries = m.sorted before :=
  entries_ofList _ ((((arrange_perm _ m.entries).map Prod.fst).nodup_iff).mpr m.distinct)

theorem find?_ofList_sorted (before : κ → κ → Bool) (m : OrderedMap κ ν) (key : κ) :
    (ofList (m.sorted before)).find? key = m.find? key := by
  refine find?_of_perm ?_ key
  rw [entries_ofList_sorted]
  exact arrange_perm _ m.entries

/-- The entries of another map come over what was there. -/
theorem find?_extend_entries (m other : OrderedMap κ ν) (key : κ) :
    (m.extend other.entries).find? key = (other.find? key).or (m.find? key) := by
  have found := find?_extend empty other.entries key
  rw [← ofList, ofList_entries, find?_empty, Option.or_none] at found
  rw [find?_extend, found]

end OrderedMap

end Libretto
