import Libretto.Proofs.SceneBuilding
import Libretto.ScriptExport

/-! Speakers on their way through keys and back. A display name goes by the last key that it
has; whoever is no display name is written as a key of its own and credited under it. What a
speaker comes back as depends on the speakers of the document alone. -/
namespace Libretto

/-- The keys under which a name is displayed, in their order. -/
def keysNamed (speakers : OrderedMap String String) (name : String) : List String :=
  (speakers.entries.filter fun entry => entry.2 = name).map Prod.fst

variable {speakers : OrderedMap String String}

theorem mem_keysNamed (key name : String) :
    key ∈ keysNamed speakers name ↔ speakers.find? key = some name := by
  rw [OrderedMap.find?_eq_some_iff, keysNamed, List.mem_map]
  constructor
  · rintro ⟨⟨other, shown⟩, member, rfl⟩
    obtain ⟨there, same⟩ := List.mem_filter.mp member
    rw [← of_decide_eq_true same]
    exact there
  · intro there
    exact ⟨(key, name), List.mem_filter.mpr ⟨there, decide_eq_true rfl⟩, rfl⟩

theorem keysNamed_eq_nil_iff (name : String) :
    keysNamed speakers name = [] ↔ name ∉ speakers.values := by
  simp only [keysNamed, List.map_eq_nil_iff, List.filter_eq_nil_iff, OrderedMap.values,
    List.mem_map, not_exists, not_and, decide_eq_true_eq]

theorem speakerKeys_find? (name : String) :
    (speakerKeys speakers).find? name = (keysNamed speakers name).getLast? := by
  rw [speakerKeys, OrderedMap.ofList, OrderedMap.find?_extend, List.filter_map]
  simp only [keysNamed, List.getLast?_map, Option.map_map, OrderedMap.find?_empty, Option.or_none]
  rfl

namespace Staging

/-- What a speaker is after being written and read once more. -/
def reread (speakers : OrderedMap String String) (speaker : String) : String :=
  displayName speakers (speakerKey (speakerKeys speakers) speaker)

@[simp] theorem reread_nobody : reread speakers "" = "" := rfl

/-- With several keys it is the last that counts. -/
theorem reread_named {speaker key : String} (someone : speaker ≠ "")
    (last : (keysNamed speakers speaker).getLast? = some key) :
    reread speakers speaker = if key = "" then "" else speaker := by
  have shown : speakers.find? key = some speaker :=
    (mem_keysNamed key speaker).mp (List.mem_of_getLast? last)
  simp [reread, speakerKey, someone, speakerKeys_find?, last, displayName, shown]

theorem reread_unnamed {speaker : String} (someone : speaker ≠ "")
    (unnamed : speaker ∉ speakers.values) :
    reread speakers speaker = (speakers.find? speaker).getD speaker := by
  have none : keysNamed speakers speaker = [] := (keysNamed_eq_nil_iff speaker).mpr unnamed
  simp [reread, speakerKey, someone, speakerKeys_find?, none, displayName]

/-- Either a name with a key that is one, or no name and no key. -/
def Recoverable (speakers : OrderedMap String String) (speaker : String) : Prop :=
  (∃ key, (keysNamed speakers speaker).getLast? = some key ∧ key ≠ "") ∨
    (speaker ∉ speakers.values ∧ speaker ∉ speakers.keys)

/-- The speakers that come back are exactly those that can be told from the keys. -/
theorem reread_eq_iff {speaker : String} (someone : speaker ≠ "") :
    reread speakers speaker = speaker ↔ Recoverable speakers speaker := by
  cases last : (keysNamed speakers speaker).getLast? with
  | some key =>
    have named : speaker ∈ speakers.values := by
      have shown := (mem_keysNamed key speaker).mp (List.mem_of_getLast? last)
      exact List.mem_map_of_mem ((speakers.find?_eq_some_iff key speaker).mp shown)
    rw [reread_named someone last]
    by_cases empty : key = ""
    · simp [Recoverable, last, empty, named, Ne.symm someone]
    · simp [Recoverable, last, empty]
  | none =>
    have unnamed : speaker ∉ speakers.values :=
      (keysNamed_eq_nil_iff speaker).mp (List.getLast?_eq_none_iff.mp last)
    rw [reread_unnamed someone unnamed]
    simp only [Recoverable, last, reduceCtorEq, false_and, exists_false, false_or, unnamed,
      not_false_eq_true, true_and, ← OrderedMap.find?_eq_none_iff]
    cases shown : speakers.find? speaker with
    | none => simp
    | some name =>
      have different : name ≠ speaker := by
        rintro rfl
        exact unnamed (List.mem_map_of_mem ((speakers.find?_eq_some_iff name name).mp shown))
      simp [different]

/-- Someone who is credited is displayed as before: by the key. -/
theorem displayName_creditSpeaker (keys : OrderedMap String String) (line : Line) :
    displayName (creditSpeaker keys speakers line) = displayName speakers := by
  unfold creditSpeaker
  split
  · rfl
  · unfold OrderedMap.insertNew
    split
    · rfl
    next unknown =>
      have absent := (speakers.contains_eq_false_iff line.speaker).mp (Bool.eq_false_iff.mpr unknown)
      funext key
      simp only [displayName, OrderedMap.find?_insert]
      by_cases same : line.speaker = key
      · rw [if_pos same, ← same, absent]
        rfl
      · rw [if_neg same]

theorem displayName_credit (keys : OrderedMap String String) (lines : List Line)
    (speakers : OrderedMap String String) :
    displayName (lines.foldl (creditSpeaker keys) speakers) = displayName speakers := by
  induction lines generalizing speakers with
  | nil => rfl
  | cons line lines ih => exact (ih _).trans (displayName_creditSpeaker keys line)

end Staging

/-- Whether a line has to be credited under its own name. -/
def needsCredit (keys : OrderedMap String String) (line : Line) : Bool :=
  !(line.isClear || line.speaker.isEmpty || keys.contains line.speaker)

section credits
variable (keys : OrderedMap String String)

/-- Speakers that are there stay, and those who are credited come behind them. -/
theorem credited_extends (lines : List Line) (speakers : OrderedMap String String) :
    ∃ added, (lines.foldl (creditSpeaker keys) speakers).entries = speakers.entries ++ added := by
  induction lines generalizing speakers with
  | nil => exact ⟨[], by simp⟩
  | cons line lines ih =>
    obtain ⟨more, rest⟩ := ih (creditSpeaker keys speakers line)
    have first : ∃ added, (creditSpeaker keys speakers line).entries = speakers.entries ++ added := by
      unfold creditSpeaker
      split
      · exact ⟨[], by simp⟩
      unfold OrderedMap.insertNew
      split
      · exact ⟨[], by simp⟩
      next unknown =>
        refine ⟨[(line.speaker, line.speaker)], OrderedMap.entries_insert_new _ ?_⟩
        rwa [← OrderedMap.contains_iff]
    obtain ⟨added, entries⟩ := first
    exact ⟨added ++ more, by rw [List.foldl_cons, rest, entries, List.append_assoc]⟩

theorem contains_of_extends {before after : OrderedMap String String}
    {added : List (String × String)} (entries : after.entries = before.entries ++ added)
    {key : String} (known : before.contains key) : after.contains key := by
  rw [OrderedMap.contains_iff] at known ⊢
  rw [OrderedMap.keys, entries, List.map_append]
  exact List.mem_append_left _ known

theorem credited_knows {lines : List Line} {line : Line} (member : line ∈ lines)
    (needs : needsCredit keys line = true) (speakers : OrderedMap String String) :
    (lines.foldl (creditSpeaker keys) speakers).contains line.speaker := by
  induction lines generalizing speakers with
  | nil => cases member
  | cons first lines ih =>
    rw [List.foldl_cons]
    rcases List.mem_cons.mp member with rfl | later
    · obtain ⟨added, entries⟩ := credited_extends keys lines (creditSpeaker keys speakers line)
      refine contains_of_extends entries ?_
      have exempt : (line.isClear || line.speaker.isEmpty || keys.contains line.speaker) = false := by
        simpa [needsCredit] using needs
      rw [creditSpeaker, exempt, if_neg Bool.false_ne_true, OrderedMap.insertNew]
      split
      next known => exact known
      · rw [OrderedMap.contains_insert]
        simp
    · exact ih later _

end credits

end Libretto
