import Libretto.Proofs.GroupingRuns

/-! Scenes that are moved from group to group. A move takes a scene out of the one group that
lists it, if there is one, so no scene comes into a second group unless a scene is added without
having been taken out. -/
namespace Libretto

/-- Adding alone does not ask where the scene is already. -/
def GroupingCall.isAdd : GroupingCall → Bool
  | add _ _ => true
  | _ => false

namespace Grouping
variable {grouping : Grouping} {group scene other : String}

/-- Taken out of its group a scene is in none, and the others are where they were. -/
theorem mem_scenesOf_without (sound : grouping.Sound) (exclusive : Exclusive grouping.groups)
    (scene other group : String) : other ∈ (grouping.without scene).scenesOf group ↔
      other ≠ scene ∧ other ∈ grouping.scenesOf group := by
  rw [without, scenesOf_removeScene]
  split
  next here =>
    rw [here, (scenesOf_nodup sound group).mem_erase_iff]
  next elsewhere =>
    refine ⟨fun member => ⟨?_, member⟩, And.right⟩
    rintro rfl
    exact elsewhere (groupOf_of_mem exclusive member)

theorem removeScene_exclusive (exclusive : Exclusive grouping.groups) (group scene : String) :
    Exclusive (grouping.removeScene group scene).groups := by
  have fewer (other place : String)
      (member : other ∈ (grouping.removeScene group scene).scenesOf place) :
      other ∈ grouping.scenesOf place := by
    rw [scenesOf_removeScene] at member
    split at member
    next here => exact here ▸ List.mem_of_mem_erase member
    next => exact member
  intro other first second inFirst inSecond
  exact exclusive other first second (fewer other first inFirst) (fewer other second inSecond)

/-- What a move makes of a grouping. -/
def moved (grouping : Grouping) (group scene : String) : Grouping :=
  (grouping.without scene).withScene group scene

theorem mem_scenesOf_moved (sound : grouping.Sound) (exclusive : Exclusive grouping.groups)
    (group scene other place : String) : other ∈ (grouping.moved group scene).scenesOf place ↔
      (other = scene ∧ place = group) ∨ (other ≠ scene ∧ other ∈ grouping.scenesOf place) := by
  rw [moved, scenesOf_withScene]
  split
  next here =>
    subst here
    rw [mem_including, mem_scenesOf_without sound exclusive]
    by_cases same : other = scene <;> simp [same]
  next elsewhere =>
    rw [mem_scenesOf_without sound exclusive]
    simp [Ne.symm elsewhere]

theorem moved_exclusive (sound : grouping.Sound) (exclusive : Exclusive grouping.groups)
    (group scene : String) : Exclusive (grouping.moved group scene).groups := by
  intro other first second inFirst inSecond
  obtain ⟨same, one⟩ | ⟨apart, one⟩ :=
    (mem_scenesOf_moved sound exclusive group scene other first).mp inFirst
  · obtain ⟨-, two⟩ | ⟨apart, -⟩ :=
      (mem_scenesOf_moved sound exclusive group scene other second).mp inSecond
    · exact one.trans two.symm
    · exact absurd same apart
  · obtain ⟨same, -⟩ | ⟨-, two⟩ :=
      (mem_scenesOf_moved sound exclusive group scene other second).mp inSecond
    · exact absurd same apart
    · exact exclusive other first second one two

theorem groupOf_moved (sound : grouping.Sound) (exclusive : Exclusive grouping.groups)
    (group scene : String) : (grouping.moved group scene).groupOf scene = group :=
  groupOf_of_mem (moved_exclusive sound exclusive group scene)
    ((mem_scenesOf_moved sound exclusive group scene scene group).mpr (.inl ⟨rfl, rfl⟩))

/-- As no scene is in two groups, it does not matter in which order the groups are searched. -/
theorem groupOf_moved_other (sound : grouping.Sound) (exclusive : Exclusive grouping.groups)
    (group : String) (apart : other ≠ scene) :
    (grouping.moved group scene).groupOf other = grouping.groupOf other := by
  have there (place : String) : other ∈ (grouping.moved group scene).scenesOf place ↔
      other ∈ grouping.scenesOf place := by
    rw [mem_scenesOf_moved sound exclusive]
    simp [apart]
  by_cases listed : ∃ place, other ∈ grouping.scenesOf place
  · obtain ⟨place, member⟩ := listed
    rw [groupOf_of_mem exclusive member,
      groupOf_of_mem (moved_exclusive sound exclusive group scene) ((there place).mpr member)]
  · have unlisted (place : String) : other ∉ grouping.scenesOf place :=
      fun member => listed ⟨place, member⟩
    rw [groupOf_of_unlisted unlisted,
      groupOf_of_unlisted fun place member => unlisted place ((there place).mp member)]
    exact (removeScene_frame grouping (grouping.groupOf scene) scene).2

/-- One call that is not a mere addition, whatever becomes of it. -/
theorem perform_exclusive {call : GroupingCall} (other : call.isAdd = false)
    (sound : grouping.Sound) (exclusive : Exclusive grouping.groups) :
    Exclusive (call.perform grouping).state.groups := by
  cases call with
  | add group scene => cases other
  | remove group scene => exact removeScene_exclusive exclusive group scene
  | hydrate value =>
    obtain kept | ⟨draft, read, replaced⟩ := hydrate_state value grouping
    · rw [GroupingCall.perform, kept]
      exact exclusive
    · rw [GroupingCall.perform, replaced]
      exact read.exclusive
  | move group scene =>
    rw [perform_move]
    split
    · exact removeScene_exclusive exclusive _ scene
    · exact moved_exclusive sound exclusive group scene

theorem run_exclusive {calls : List GroupingCall} (others : ∀ call ∈ calls, call.isAdd = false)
    (sound : grouping.Sound) (exclusive : Exclusive grouping.groups) :
    Exclusive (grouping.run calls).groups := by
  induction calls generalizing grouping with
  | nil => exact exclusive
  | cons call calls ih =>
    exact ih (fun later member => others later (by simp [member]))
      (perform_sound call grouping sound)
      (perform_exclusive (others call (by simp)) sound exclusive)

/-- In runs of documents, removals and moves no scene ever comes into a second group. A move to a
group, be it new, empty or the scene's own, succeeds and tells the group that the scene was in. From
then on the scene is found in the new group, and every other scene where it was found before. -/
theorem moves_keep_scenes_in_one_group (orderKey looseGroup : String) (calls : List GroupingCall)
    (others : ∀ call ∈ calls, call.isAdd = false) :
    let grouping := (new orderKey looseGroup).run calls
    Exclusive grouping.groups ∧ ∀ group scene, group ≠ orderKey →
      let outcome := moveScene group scene grouping
      outcome.result = .ok (grouping.groupOf scene) ∧ Exclusive outcome.state.groups ∧
        outcome.state.groupOf scene = group ∧
        ∀ other, other ≠ scene → outcome.state.groupOf other = grouping.groupOf other := by
  intro grouping
  have sound : grouping.Sound := run_sound (.new orderKey looseGroup) calls
  have exclusive : Exclusive grouping.groups :=
    run_exclusive others (.new orderKey looseGroup) .empty
  have key : grouping.orderKey = orderKey := run_orderKey (new orderKey looseGroup) calls
  refine ⟨exclusive, fun group scene apart => ?_⟩
  rw [moveScene_outcome, if_neg (key ▸ apart)]
  exact ⟨rfl, moved_exclusive sound exclusive group scene,
    groupOf_moved sound exclusive group scene,
    fun other different => groupOf_moved_other sound exclusive group different⟩

theorem moved_scene_is_found_in_a_new_group :
    let calls := [.hydrate (.object [("a", .list [.str "x", .str "y"])]), .move "b" "x",
      .move "_groups" "y", .remove "c" "x"]
    ((new "_groups" "a").run calls).groupOf "x" = "b" ∧
      (moveScene "c" "x" ((new "_groups" "a").run calls)).state.groupOf "x" = "c" ∧
      (moveScene "c" "x" ((new "_groups" "a").run calls)).state.groupOf "y" = "a" := by
  intro calls
  have others : ∀ call ∈ calls, call.isAdd = false := by decide
  obtain ⟨-, moves⟩ := moves_keep_scenes_in_one_group "_groups" "a" calls others
  obtain ⟨-, -, there, rest⟩ := moves "c" "x" (by decide)
  exact ⟨by decide +kernel, there, (rest "y" (by decide)).trans (by decide +kernel)⟩

end Grouping
end Libretto
