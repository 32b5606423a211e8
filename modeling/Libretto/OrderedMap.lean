import Libretto.Sorting

/-! Maps that remember the order in which their keys came first. A key occurs once:
a second value for it replaces the first one where that stands. -/
namespace Libretto

namespace Entries
variable {κ ν μ : Type} [DecidableEq κ]

def find? (key : κ) : List (κ × ν) → Option ν
  | [] => none
  | (k, v) :: rest => if k = key then some v else find? key rest

def insert (key : κ) (value : ν) : List (κ × ν) → List (κ × ν)
  | [] => [(key, value)]
  | (k, v) :: rest => if k = key then (key, value) :: rest else (k, v) :: insert key value rest

theorem mem_keys_insert (key other : κ) (value : ν) (entries : List (κ × ν)) :
    other ∈ (insert key value entries).map Prod.fst ↔
      other = key ∨ other ∈ entries.map Prod.fst := by
  induction entries with
  | nil => simp [insert]
  | cons entry rest ih =>
    obtain ⟨k, v⟩ := entry
    by_cases same : k = key
    · simp [insert, same]
    · simp only [insert, same, if_false, List.map_cons, List.mem_cons, ih]
      exact ⟨fun h => by rcases h with h | h | h <;> simp [h],
        fun h => by rcases h with h | h | h <;> simp [h]⟩

theorem nodup_insert (key : κ) (value : ν) (entries : List (κ × ν))
    (distinct : (entries.map Prod.fst).Nodup) :
    ((insert key value entries).map Prod.fst).Nodup := by
  induction entries with
  | nil => simp [insert]
  | cons entry rest ih =>
    obtain ⟨k, v⟩ := entry
    have apart := (List.nodup_cons.mp distinct).1
    have tail := (List.nodup_cons.mp distinct).2
    by_cases same : k = key
    · subst same
      simpa [insert] using distinct
    · simp only [insert, same, if_false, List.map_cons, List.nodup_cons]
      refine ⟨?_, ih tail⟩
      rw [mem_keys_insert]
      exact fun h => h.elim same apart

theorem find?_insert (key other : κ) (value : ν) (entries : List (κ × ν)) :
    find? other (insert key value entries) =
      if key = other then some value else find? other entries := by
  induction entries with
  | nil => simp [insert, find?]
  | cons entry rest ih =>
    obtain ⟨k, v⟩ := entry
    by_cases same : k = key
    · subst same
      by_cases there : k = other <;> simp [insert, find?, there]
    · by_cases there : k = other
      · subst there
        simp [insert, find?, same, Ne.symm same]
      · simp [insert, find?, same, there, ih]

theorem find?_map (f : κ → ν → μ) (key : κ) (entries : List (κ × ν)) :
    find? key (entries.map fun (k, v) => (k, f k v)) = (find? key entries).map (f key) := by
  induction entries with
  | nil => rfl
  | cons entry rest ih =>
    obtain ⟨k, v⟩ := entry
    by_cases same : k = key
    · subst same
      simp [find?]
    · simpa only [List.map_cons, find?, same, if_false] using ih

theorem find?_isSome (key : κ) (entries : List (κ × ν)) :
    (find? key entries).isSome ↔ key ∈ entries.map Prod.fst := by
  induction entries with
  | nil => simp [find?]
  | cons entry rest ih =>
    obtain ⟨k, v⟩ := entry
    by_cases same : k = key
    · simp [find?, same]
    · simp [find?, same, ih, Ne.symm same]

end Entries

structure OrderedMap (κ ν : Type) where
  entries : List (κ × ν)
  distinct : (entries.map Prod.fst).Nodup

namespace OrderedMap
variable {κ ν μ : Type}

def empty : OrderedMap κ ν := ⟨[], .nil⟩

instance : Inhabited (OrderedMap κ ν) := ⟨empty⟩

theorem ext {a b : OrderedMap κ ν} (same : a.entries = b.entries) : a = b := by
  cases a; cases b; cases same; rfl

def keys (m : OrderedMap κ ν) : List κ := m.entries.map Prod.fst
def values (m : OrderedMap κ ν) : List ν := m.entries.map Prod.snd
def size (m : OrderedMap κ ν) : Nat := m.entries.length

/-- The same keys in the same order, each value changed in the light of its key. -/
def map (f : κ → ν → μ) (m : OrderedMap κ ν) : OrderedMap κ μ :=
  ⟨m.entries.map fun (k, v) => (k, f k v), by
    simpa [List.map_map, Function.comp_def] using m.distinct⟩

/-- The entries in the order of their keys. -/
def sorted (before : κ → κ → Bool) (m : OrderedMap κ ν) : List (κ × ν) :=
  arrange (fun a b => before a.1 b.1) m.entries

variable [DecidableEq κ]

def find? (m : OrderedMap κ ν) (key : κ) : Option ν := Entries.find? key m.entries
def contains (m : OrderedMap κ ν) (key : κ) : Bool := (m.find? key).isSome

def insert (m : OrderedMap κ ν) (key : κ) (value : ν) : OrderedMap κ ν :=
  ⟨Entries.insert key value m.entries, Entries.nodup_insert key value _ m.distinct⟩

/-- Keeps what is there and adds the value only under a new key. -/
def insertNew (m : OrderedMap κ ν) (key : κ) (value : ν) : OrderedMap κ ν :=
  if m.contains key then m else m.insert key value

/-- Enters the pairs one after the other. -/
def extend (m : OrderedMap κ ν) (pairs : List (κ × ν)) : OrderedMap κ ν :=
  pairs.foldl (fun m (k, v) => m.insert k v) m

def ofList (pairs : List (κ × ν)) : OrderedMap κ ν := empty.extend pairs

@[simp] theorem find?_empty (key : κ) : (empty : OrderedMap κ ν).find? key = none := rfl

theorem find?_insert (m : OrderedMap κ ν) (key other : κ) (value : ν) :
    (m.insert key value).find? other = if key = other then some value else m.find? other :=
  Entries.find?_insert key other value m.entries

theorem find?_map (f : κ → ν → μ) (m : OrderedMap κ ν) (key : κ) :
    (m.map f).find? key = (m.find? key).map (f key) := Entries.find?_map f key m.entries

@[simp] theorem find?_insert_self (m : OrderedMap κ ν) (key : κ) (value : ν) :
    (m.insert key value).find? key = some value := by simp [find?_insert]

theorem contains_iff (m : OrderedMap κ ν) (key : κ) : m.contains key ↔ key ∈ m.keys :=
  Entries.find?_isSome key m.entries

theorem mem_keys_insert (m : OrderedMap κ ν) (key other : κ) (value : ν) :
    other ∈ (m.insert key value).keys ↔ other = key ∨ other ∈ m.keys :=
  Entries.mem_keys_insert key other value m.entries

end OrderedMap

end Libretto
