import Libretto.Proofs.GroupReading

/-! Runs of calls on a grouping, in any order and with any arguments, those that fail among
them. Whatever the calls do to the order and to the groups, the two stay in step. -/
namespace Libretto

inductive GroupingCall
  | add (group scene : String)
  | remove (group scene : String)
  | hydrate (value : Value)
  | move (group scene : String)

def GroupingCall.perform : GroupingCall → Edit Grouping Unit
  | add group scene => do
    let grouping ← Edit.get
    Edit.set (← Edit.ofExcept (grouping.addScene group scene))
  | remove group scene => Edit.modify fun grouping => grouping.removeScene group scene
  | hydrate value => Grouping.hydrate value
  | move group scene => discard (Grouping.moveScene group scene)

namespace Grouping
variable {grouping : Grouping} {group scene : String}

/-- The grouping after a run of calls. One that fails keeps what it had done. -/
def run (grouping : Grouping) (calls : List GroupingCall) : Grouping :=
  calls.foldl (fun grouping call => (call.perform grouping).state) grouping

/-- A grouping without a scene in the group that it is told to be in. -/
def without (grouping : Grouping) (scene : String) : Grouping :=
  grouping.removeScene (grouping.groupOf scene) scene

theorem perform_add (grouping : Grouping) (group scene : String) :
    ((GroupingCall.add group scene).perform grouping).state =
      if group = grouping.orderKey then grouping else grouping.withScene group scene := by
  simp only [GroupingCall.perform, Edit.run_bind, Edit.run_get, addScene_eq]
  by_cases reserved : group = grouping.orderKey
  · simp only [if_pos reserved]
    rfl
  · simp only [if_neg reserved]
    rfl

theorem moveScene_outcome (grouping : Grouping) (group scene : String) :
    moveScene group scene grouping =
      if group = grouping.orderKey then
        ⟨.error (.reservedGroup group), grouping.without scene, []⟩
      else ⟨.ok (grouping.groupOf scene), (grouping.without scene).withScene group scene, []⟩ := by
  have key := (removeScene_frame grouping (grouping.groupOf scene) scene).1
  simp only [moveScene, Edit.run_bind, Edit.run_get, Edit.run_set, addScene_eq, key]
  by_cases reserved : group = grouping.orderKey
  · simp only [if_pos reserved]
    rfl
  · simp only [if_neg reserved]
    rfl

theorem perform_move (grouping : Grouping) (group scene : String) :
    ((GroupingCall.move group scene).perform grouping).state =
      if group = grouping.orderKey then grouping.without scene
      else (grouping.without scene).withScene group scene := by
  rw [GroupingCall.perform, Edit.run_discard, moveScene_outcome]
  split <;> rfl

theorem hydrate_state (value : Value) (grouping : Grouping) :
    (hydrate value grouping).state = grouping ∨
      ∃ draft : Draft, draft.Sound grouping.orderKey ∧ (hydrate value grouping).state =
        { grouping with order := draft.order, groups := draft.groups } := by
  cases outcome : drafted grouping.orderKey value with
  | error fault => exact .inl (hydrate_refused outcome).2
  | ok draft => exact .inr ⟨draft, drafted_sound outcome, (hydrate_drafted outcome).2.1⟩

theorem perform_orderKey (call : GroupingCall) (grouping : Grouping) :
    (call.perform grouping).state.orderKey = grouping.orderKey := by
  have removed (group scene : String) := (removeScene_frame grouping group scene).1
  cases call with
  | add group scene =>
    rw [perform_add]
    split <;> rfl
  | remove group scene => exact removed group scene
  | hydrate value =>
    obtain kept | ⟨draft, -, replaced⟩ := hydrate_state value grouping
    · rw [GroupingCall.perform, kept]
    · rw [GroupingCall.perform, replaced]
  | move group scene =>
    rw [perform_move]
    split <;> exact removed _ scene

/-- One call, whatever becomes of it. -/
theorem perform_sound (call : GroupingCall) : call.perform.Preserves Sound := by
  intro grouping sound
  cases call with
  | add group scene =>
    rw [perform_add]
    split
    next => exact sound
    next apart => exact withScene_sound sound apart scene
  | remove group scene => exact removeScene_sound sound group scene
  | hydrate value =>
    obtain kept | ⟨draft, read, replaced⟩ := hydrate_state value grouping
    · exact kept.symm ▸ sound
    · exact replaced.symm ▸ read.well
  | move group scene =>
    have bare : (grouping.without scene).Sound := removeScene_sound sound _ scene
    rw [perform_move]
    split
    next => exact bare
    next apart =>
      have key := (removeScene_frame grouping (grouping.groupOf scene) scene).1
      exact withScene_sound bare (key.symm ▸ apart) scene

theorem run_orderKey (grouping : Grouping) (calls : List GroupingCall) :
    (grouping.run calls).orderKey = grouping.orderKey := by
  induction calls generalizing grouping with
  | nil => rfl
  | cons call calls ih => exact (ih _).trans (perform_orderKey call grouping)

theorem run_sound (sound : grouping.Sound) (calls : List GroupingCall) :
    (grouping.run calls).Sound := by
  induction calls generalizing grouping with
  | nil => exact sound
  | cons call calls ih => exact ih (perform_sound call grouping sound)

/-- At every point of every run the order starts with its key and repeats no name, it lists
every group, the key is no group, and no group lists a scene twice. So the group of a scene that
is in some group has a place behind the key. -/
theorem order_and_groups_stay_in_step (orderKey looseGroup : String) (calls : List GroupingCall) :
    let grouping := (new orderKey looseGroup).run calls
    WellGrouped orderKey grouping.order grouping.groups ∧
      ∀ scene group, scene ∈ grouping.scenesOf group →
        1 ≤ grouping.indexOf (grouping.groupOf scene) := by
  intro grouping
  have sound : grouping.Sound := run_sound (.new orderKey looseGroup) calls
  have key : grouping.orderKey = orderKey := run_orderKey (new orderKey looseGroup) calls
  refine ⟨key ▸ sound, fun scene group member => ?_⟩
  exact indexOf_pos sound (mem_keys_of_mem_scenesIn (mem_scenesOf_groupOf member))

theorem wild_order_is_put_in_step :
    let calls := [
      .hydrate (.object [("a", .list [.str "x", .str "x"]),
        ("_groups", .list [.str "b", .str "_groups", .str "b"])]),
      .add "_groups" "y", .remove "a" "y"]
    ((new "_groups" "").run calls).order = ["_groups", "b", "a"] ∧
      "x" ∈ ((new "_groups" "").run calls).scenesOf "a" ∧
      1 ≤ ((new "_groups" "").run calls).indexOf (((new "_groups" "").run calls).groupOf "x") := by
  intro calls
  have listed : "x" ∈ ((new "_groups" "").run calls).scenesOf "a" := by decide +kernel
  have placed := (order_and_groups_stay_in_step "_groups" "" calls).2
  exact ⟨by decide +kernel, listed, placed "x" "a" listed⟩

end Grouping
end Libretto
