import Libretto.Proofs.Edits
import Libretto.Proofs.SoundGroupings

/-! A grouping out of a document, as a function of the document and the order key alone. What
is read is kept apart until the end, so a document at fault changes nothing. What has been read
is sound at every point, and no scene of it is in two groups. -/
namespace Libretto.Grouping

/-- The names that a value lists, if it lists nothing else. -/
def names? : Value → Option (List String)
  | .list items => Value.texts? items
  | _ => none

namespace Draft

/-- A draft with one more group. -/
def enter (draft : Draft) (group : String) (scenes : List String) : Draft :=
  ⟨including draft.order group, draft.groups.insert group scenes⟩

/-- A draft with the group that a member describes, or what is wrong with it. -/
def read (draft : Draft) (group : String) (value : Value) : Except Fault Draft :=
  match names? value with
  | none => .error (.shape (.groupScenes group))
  | some names => (readScenes draft group names).map (draft.enter group)

/-- A draft with the groups of all members. The order is no group. -/
def readAll (orderKey : String) : List (String × Value) → Draft → Except Fault Draft
  | [], draft => .ok draft
  | (group, value) :: rest, draft =>
    if group = orderKey then readAll orderKey rest draft
    else do readAll orderKey rest (← draft.read group value)

structure Sound (orderKey : String) (draft : Draft) : Prop where
  well : WellGrouped orderKey draft.order draft.groups
  exclusive : Exclusive draft.groups

end Draft

/-- What a document makes of a grouping, or why it is refused. -/
def drafted (orderKey : String) : Value → Except Fault Draft
  | .object members => do
    let order ← readOrder orderKey ((Entries.find? orderKey members).getD (.list []))
    Draft.readAll orderKey members ⟨order, .empty⟩
  | other => .error (.shape (.notObject "Scene groups" other.typeName))

variable {draft later : Draft} {orderKey group : String} {value : Value}

theorem readOrder_eq (orderKey : String) (value : Value) : readOrder orderKey value =
    match names? value with
    | some names => .ok (orderKey :: (withoutRepeats names).erase orderKey)
    | none => .error (.shape (.groupOrder orderKey)) := by
  cases value <;> rfl

/-- The first scene that an earlier group lists is the fault. -/
theorem readScenes_eq (draft : Draft) (group : String) (scenes : List String) :
    readScenes draft group scenes =
      match scenes.findSome? fun scene =>
        (listing? draft.groups.entries scene).map (scene, ·) with
      | some (scene, other) => .error (.sceneInTwoGroups scene other group)
      | none => .ok (withoutRepeats scenes) := by
  unfold readScenes withoutRepeats
  generalize ([] : List String) = kept
  induction scenes generalizing kept with
  | nil => rfl
  | cons scene scenes ih =>
    rw [List.foldlM_cons, List.findSome?_cons, List.foldl_cons]
    cases listing? draft.groups.entries scene with
    | some other => rfl
    | none => exact ih (including kept scene)

theorem readScenes_ok {scenes kept : List String}
    (done : readScenes draft group scenes = .ok kept) : kept = withoutRepeats scenes ∧
      ∀ scene ∈ scenes, ∀ other, scene ∉ scenesIn draft.groups other := by
  rw [readScenes_eq] at done
  split at done
  next => cases done
  next free =>
    cases done
    refine ⟨rfl, fun scene member => listing?_eq_none_iff.mp ?_⟩
    exact Option.map_eq_none_iff.mp (List.findSome?_eq_none_iff.mp free scene member)

theorem readScenes_error {scenes : List String} {fault : Fault}
    (failed : readScenes draft group scenes = .error fault) :
    ∃ scene ∈ scenes, ∃ other, fault = .sceneInTwoGroups scene other group ∧
      scene ∈ scenesIn draft.groups other := by
  rw [readScenes_eq] at failed
  split at failed
  next scene other taken =>
    cases failed
    obtain ⟨known, member, listed⟩ := List.exists_of_findSome?_eq_some taken
    obtain ⟨found, there, same⟩ := Option.map_eq_some_iff.mp listed
    cases same
    exact ⟨scene, member, other, rfl, listing?_listed there⟩
  next => cases failed

/-- What is told of a group that has been read. -/
def Draft.noted (draft : Draft) (group : String) : List Entry :=
  if group ∈ draft.order then [] else [.log (.unorderedGroup group)]

theorem readGroup_eq (draft : Draft) (group : String) (value : Value) :
    (readGroup draft group value : Edit σ Draft) = do
      let later ← Edit.ofExcept (draft.read group value)
      Edit.tell (draft.noted group)
      return later := by
  have named : readGroup draft group value = (match names? value with
      | none => Edit.fail (.shape (.groupScenes group))
      | some names => do
        let scenes ← Edit.ofExcept (readScenes draft group names)
        if group ∈ draft.order then return ⟨draft.order, draft.groups.insert group scenes⟩
        else
          Edit.log (.unorderedGroup group)
          return ⟨draft.order ++ [group], draft.groups.insert group scenes⟩ : Edit σ Draft) := by
    cases value <;> rfl
  rw [named]
  unfold Draft.read
  cases names? value with
  | none => rfl
  | some names =>
    dsimp only
    cases readScenes draft group names with
    | error fault => rfl
    | ok scenes =>
      ext state
      by_cases known : group ∈ draft.order <;>
        simp [Edit.ofExcept, Edit.pure, Except.map, Draft.enter, Draft.noted, including, known,
          Edit.log]

theorem readGroup_yields (draft : Draft) (group : String) (value : Value) :
    (readGroup draft group value : Edit σ Draft).Yields (draft.read group value) := by
  rw [readGroup_eq]
  intro state
  cases draft.read group value <;> rfl

theorem readGroup_spares (draft : Draft) (group : String) (value : Value) :
    (readGroup draft group value : Edit σ Draft).Spares id := by
  rw [readGroup_eq]
  refine .bind (.ofExcept _) fun later => .bind (fun state => ⟨rfl, ?_⟩) fun _ => .pure _
  rw [Edit.run_tell]
  unfold Draft.noted
  split <;> rfl

theorem readGroups_yields (members : List (String × Value)) (draft : Draft) :
    (readGroups orderKey members draft : Edit σ Draft).Yields
      (draft.readAll orderKey members) := by
  induction members generalizing draft with
  | nil => exact .pure draft
  | cons member members ih =>
    simp only [readGroups, Draft.readAll]
    split
    · exact ih draft
    · exact .bind (readGroup_yields draft member.1 member.2) ih

theorem readGroups_spares (members : List (String × Value)) (draft : Draft) :
    (readGroups orderKey members draft : Edit σ Draft).Spares id := by
  induction members generalizing draft with
  | nil => exact .pure draft
  | cons member members ih =>
    simp only [readGroups]
    split
    · exact ih draft
    · exact .bind (readGroup_spares draft member.1 member.2) ih

theorem Draft.read_ok (done : draft.read group value = .ok later) :
    ∃ names, names? value = some names ∧ later = draft.enter group (withoutRepeats names) ∧
      ∀ scene ∈ names, ∀ other, scene ∉ scenesIn draft.groups other := by
  unfold read at done
  split at done
  next => cases done
  next names named =>
    cases scenes : readScenes draft group names with
    | error fault =>
      rw [scenes] at done
      cases done
    | ok kept =>
      rw [scenes] at done
      cases done
      obtain ⟨rfl, free⟩ := readScenes_ok scenes
      exact ⟨names, named, rfl, free⟩

/-- The names that the order takes up are told, and no others. -/
theorem readGroups_told (members : List (String × Value))
    (done : draft.readAll orderKey members = .ok later) (state : σ) :
    ∃ added, later.order = draft.order ++ added ∧
      (readGroups orderKey members draft state).journal =
        added.map fun group => .log (.unorderedGroup group) := by
  induction members generalizing draft with
  | nil =>
    cases done
    exact ⟨[], by simp, rfl⟩
  | cons member members ih =>
    simp only [readGroups, Draft.readAll] at done ⊢
    split at done
    next key =>
      rw [if_pos key]
      exact ih done
    next other =>
      obtain ⟨next, read, rest⟩ := bind_ok done
      obtain ⟨names, -, entered, -⟩ := Draft.read_ok read
      obtain ⟨added, order, journal⟩ := ih rest
      rw [if_neg other, readGroup_eq, read]
      by_cases known : member.1 ∈ draft.order
      · refine ⟨added, ?_, ?_⟩
        · rw [order, entered, Draft.enter, including_of_mem known]
        · simp [Edit.ofExcept, Edit.pure, Draft.noted, Except.map, known, journal]
      · refine ⟨member.1 :: added, ?_, ?_⟩
        · rw [order, entered, Draft.enter, including, if_neg known]
          simp
        · simp [Edit.ofExcept, Edit.pure, Draft.noted, Except.map, known, journal]

/-- Reading a document, before anything is replaced. -/
def reading (orderKey : String) : Value → Edit σ Draft
  | .object members => do
    let order ← Edit.ofExcept
      (readOrder orderKey ((Entries.find? orderKey members).getD (.list [])))
    readGroups orderKey members ⟨order, .empty⟩
  | other => Edit.fail (.shape (.notObject "Scene groups" other.typeName))

theorem hydrate_eq (value : Value) : hydrate value = (do
    let grouping ← Edit.get
    let draft ← reading grouping.orderKey value
    Edit.set { grouping with order := draft.order, groups := draft.groups }
    Edit.log (.groupsLoaded draft.groups.size)) := by
  cases value
  case object members =>
    simp only [reading, bind_assoc]
    rfl
  all_goals rfl

theorem reading_yields (orderKey : String) (value : Value) :
    (reading orderKey value : Edit σ Draft).Yields (drafted orderKey value) := by
  cases value
  case object members => exact .bind (.ofExcept _) fun order => readGroups_yields members _
  all_goals exact .fail _

theorem reading_spares (orderKey : String) (value : Value) :
    (reading orderKey value : Edit σ Draft).Spares id := by
  cases value
  case object members => exact .bind (.ofExcept _) fun order => readGroups_spares members _
  all_goals exact .fail _

theorem reading_told {members : List (String × Value)} {order : List String}
    (ordered : readOrder orderKey ((Entries.find? orderKey members).getD (.list [])) = .ok order)
    (done : drafted orderKey (.object members) = .ok draft) (state : σ) :
    ∃ added, draft.order = order ++ added ∧
      (reading orderKey (.object members) state).journal =
        added.map fun group => .log (.unorderedGroup group) := by
  obtain ⟨start, known, read⟩ := bind_ok done
  rw [ordered] at known
  cases known
  obtain ⟨added, later, journal⟩ := readGroups_told members read state
  refine ⟨added, later, ?_⟩
  simp [reading, ordered, Edit.ofExcept, Edit.pure, journal]

variable {grouping : Grouping}

theorem hydrate_refused {fault : Fault} (refused : drafted grouping.orderKey value = .error fault) :
    (hydrate value grouping).result = .error fault ∧ (hydrate value grouping).state = grouping := by
  have result := reading_yields grouping.orderKey value grouping
  have state : (reading grouping.orderKey value grouping).state = grouping :=
    (reading_spares grouping.orderKey value grouping).1
  rw [refused] at result
  simp [hydrate_eq, result, state]

theorem hydrate_drafted (done : drafted grouping.orderKey value = .ok draft) :
    (hydrate value grouping).result = .ok () ∧
      (hydrate value grouping).state =
        { grouping with order := draft.order, groups := draft.groups } ∧
      (hydrate value grouping).journal =
        (reading grouping.orderKey value grouping).journal ++
          [.log (.groupsLoaded draft.groups.size)] := by
  have result := reading_yields grouping.orderKey value grouping
  rw [done] at result
  simp [hydrate_eq, result, Edit.log]

theorem readOrder_sound {order : List String} (done : readOrder orderKey value = .ok order) :
    Draft.Sound orderKey ⟨order, .empty⟩ := by
  rw [readOrder_eq] at done
  split at done
  next names named =>
    cases done
    have distinct := withoutRepeats_nodup names
    exact ⟨.bare rfl (List.nodup_cons.mpr ⟨distinct.not_mem_erase, distinct.erase _⟩), .empty⟩
  next => cases done

/-- The scenes of a group that is read were free, so no scene comes into a second group. -/
theorem Draft.Sound.read (sound : draft.Sound orderKey) (apart : group ≠ orderKey)
    (done : draft.read group value = .ok later) : later.Sound orderKey := by
  obtain ⟨names, -, rfl, free⟩ := Draft.read_ok done
  refine ⟨sound.well.enter apart (withoutRepeats_nodup names), sound.exclusive.insert ?_⟩
  intro scene member other there
  exact absurd there (free scene (mem_withoutRepeats.mp member) other)

theorem Draft.Sound.readAll (members : List (String × Value)) (sound : draft.Sound orderKey)
    (done : draft.readAll orderKey members = .ok later) : later.Sound orderKey := by
  induction members generalizing draft with
  | nil =>
    cases done
    exact sound
  | cons member members ih =>
    simp only [Draft.readAll] at done
    split at done
    next => exact ih sound done
    next other =>
      obtain ⟨next, read, rest⟩ := bind_ok done
      exact ih (sound.read other read) rest

theorem drafted_sound (done : drafted orderKey value = .ok draft) : draft.Sound orderKey := by
  cases value
  case object members =>
    obtain ⟨order, ordered, read⟩ := bind_ok done
    exact (readOrder_sound ordered).readAll members read
  all_goals cases done

end Libretto.Grouping
