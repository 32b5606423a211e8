import Libretto.Grouping
import Libretto.Proofs.OrderedMaps

/-! What ties the order of a grouping to its groups, and when each scene is in one group at
most. Calls that add or remove a scene enter one group with new contents, so one lemma says
what such an entry keeps. -/
namespace Libretto

section names
variable {names kept : List String} {name other : String}

@[simp] theorem mem_including : other ∈ including names name ↔ other ∈ names ∨ other = name := by
  unfold including
  split
  next known => exact ⟨.inl, fun there => there.elim id fun same => same ▸ known⟩
  next => simp

theorem including_of_mem (known : name ∈ names) : including names name = names := if_pos known

theorem including_nodup (distinct : names.Nodup) (name : String) :
    (including names name).Nodup := by
  unfold including
  split
  · exact distinct
  next new =>
    refine List.nodup_append.mpr ⟨distinct, by simp, ?_⟩
    rintro held there _ last rfl
    rw [List.mem_singleton.mp last] at there
    exact new there

theorem foldl_including_nodup (distinct : kept.Nodup) (names : List String) :
    (names.foldl including kept).Nodup := by
  induction names generalizing kept with
  | nil => exact distinct
  | cons name names ih => exact ih (including_nodup distinct name)

theorem mem_foldl_including (names kept : List String) :
    other ∈ names.foldl including kept ↔ other ∈ kept ∨ other ∈ names := by
  induction names generalizing kept with
  | nil => simp
  | cons name names ih => rw [List.foldl_cons, ih, mem_including, List.mem_cons, or_assoc]

theorem foldl_including_append (distinct : (kept ++ names).Nodup) :
    names.foldl including kept = kept ++ names := by
  induction names generalizing kept with
  | nil => simp
  | cons name names ih =>
    have new : name ∉ kept := fun there =>
      (List.nodup_append.mp distinct).2.2 name there name (by simp) rfl
    have next : including kept name = kept ++ [name] := if_neg new
    have split : kept ++ name :: names = kept ++ [name] ++ names := by simp
    rw [split] at distinct ⊢
    rw [List.foldl_cons, next, ih distinct]

theorem withoutRepeats_nodup (names : List String) : (withoutRepeats names).Nodup :=
  foldl_including_nodup .nil names

@[simp] theorem mem_withoutRepeats : other ∈ withoutRepeats names ↔ other ∈ names := by
  simp [withoutRepeats, mem_foldl_including]

theorem withoutRepeats_of_nodup (distinct : names.Nodup) : withoutRepeats names = names := by
  have fresh : ([] ++ names).Nodup := distinct
  exact foldl_including_append fresh

end names

/-- The order starts with its key and repeats no name. It lists every group, the key is none
of them, and no group lists a scene twice. -/
structure WellGrouped (key : String) (order : List String)
    (groups : OrderedMap String (List String)) : Prop where
  first : order.head? = some key
  distinct : order.Nodup
  listed : ∀ group ∈ groups.keys, group ∈ order
  reserved : key ∉ groups.keys
  once : ∀ group scenes, groups.find? group = some scenes → scenes.Nodup

theorem WellGrouped.bare {key : String} {order : List String} (first : order.head? = some key)
    (distinct : order.Nodup) : WellGrouped key order .empty where
  first := first
  distinct := distinct
  listed := fun _ member => nomatch member
  reserved := fun member => nomatch member
  once := fun _ _ found => nomatch found

/-- A group comes in, or gets other scenes; the order takes it up where it did not list it. -/
theorem WellGrouped.enter {key group : String} {order scenes : List String}
    {groups : OrderedMap String (List String)} (well : WellGrouped key order groups)
    (apart : group ≠ key) (once : scenes.Nodup) :
    WellGrouped key (including order group) (groups.insert group scenes) where
  first := by
    obtain ⟨rest, rfl⟩ := List.head?_eq_some_iff.mp well.first
    unfold including
    split <;> rfl
  distinct := including_nodup well.distinct group
  listed := by
    intro other member
    rw [OrderedMap.mem_keys_insert] at member
    exact mem_including.mpr (member.symm.imp_left (well.listed other))
  reserved := by
    rw [OrderedMap.mem_keys_insert]
    exact fun member => member.elim (apart ∘ Eq.symm) well.reserved
  once := by
    intro other listed found
    rw [OrderedMap.find?_insert] at found
    split at found
    · cases found
      exact once
    · exact well.once other listed found

/-- The scenes of one of the groups. -/
def scenesIn (groups : OrderedMap String (List String)) (group : String) : List String :=
  (groups.find? group).getD []

/-- No scene is in two groups. -/
def Exclusive (groups : OrderedMap String (List String)) : Prop :=
  ∀ scene first second, scene ∈ scenesIn groups first → scene ∈ scenesIn groups second →
    first = second

section scenesIn
variable {groups : OrderedMap String (List String)} {group scene : String}

theorem mem_scenesIn : scene ∈ scenesIn groups group ↔
    ∃ scenes, groups.find? group = some scenes ∧ scene ∈ scenes := by
  unfold scenesIn
  cases groups.find? group <;> simp

theorem scenesIn_insert (groups : OrderedMap String (List String)) (group other : String)
    (scenes : List String) : scenesIn (groups.insert group scenes) other =
      if group = other then scenes else scenesIn groups other := by
  rw [scenesIn, OrderedMap.find?_insert]
  split <;> rfl

theorem mem_keys_of_mem_scenesIn (member : scene ∈ scenesIn groups group) :
    group ∈ groups.keys := by
  obtain ⟨scenes, found, -⟩ := mem_scenesIn.mp member
  exact OrderedMap.mem_keys_of_find? found

theorem Exclusive.empty : Exclusive .empty := fun _ _ _ inFirst => nomatch inFirst

/-- New contents are no trouble if no group, the one that gets them apart, lists a scene of
theirs. -/
theorem Exclusive.insert {scenes : List String} (exclusive : Exclusive groups)
    (free : ∀ scene ∈ scenes, ∀ other, scene ∈ scenesIn groups other → other = group) :
    Exclusive (groups.insert group scenes) := by
  intro scene first second inFirst inSecond
  rw [scenesIn_insert] at inFirst inSecond
  split at inFirst <;> split at inSecond
  next one two => exact one.symm.trans two
  next one _ => exact one.symm.trans (free scene inFirst second inSecond).symm
  next _ two => exact (free scene inSecond first inFirst).trans two
  next => exact exclusive scene first second inFirst inSecond

end scenesIn

namespace Grouping
variable {groups : OrderedMap String (List String)} {grouping : Grouping} {group scene : String}

def Sound (grouping : Grouping) : Prop :=
  WellGrouped grouping.orderKey grouping.order grouping.groups

theorem Sound.new (orderKey looseGroup : String) : (new orderKey looseGroup).Sound :=
  .bare rfl (List.nodup_cons.mpr ⟨List.not_mem_nil, .nil⟩)

theorem scenesOf_nodup (sound : grouping.Sound) (group : String) :
    (grouping.scenesOf group).Nodup := by
  unfold scenesOf
  cases found : grouping.groups.find? group with
  | none => exact .nil
  | some scenes => exact sound.once group scenes found

theorem listing?_listed (found : listing? groups.entries scene = some group) :
    scene ∈ scenesIn groups group := by
  obtain ⟨⟨listing, scenes⟩, first, rfl⟩ := Option.map_eq_some_iff.mp found
  have entered := (groups.find?_eq_some_iff listing scenes).mpr (List.mem_of_find?_eq_some first)
  have there := List.find?_some first
  rw [decide_eq_true_eq] at there
  exact mem_scenesIn.mpr ⟨scenes, entered, there⟩

theorem listing?_eq_none_iff :
    listing? groups.entries scene = none ↔ ∀ group, scene ∉ scenesIn groups group := by
  simp only [listing?, Option.map_eq_none_iff, List.find?_eq_none, decide_eq_true_eq]
  constructor
  · intro unlisted group member
    obtain ⟨scenes, found, there⟩ := mem_scenesIn.mp member
    exact unlisted (group, scenes) ((groups.find?_eq_some_iff group scenes).mp found) there
  · rintro unlisted ⟨group, scenes⟩ entered there
    have found := (groups.find?_eq_some_iff group scenes).mpr entered
    exact unlisted group (mem_scenesIn.mpr ⟨scenes, found, there⟩)

/-- A scene that some group lists is told to be in a group that lists it. -/
theorem mem_scenesOf_groupOf (member : scene ∈ grouping.scenesOf group) :
    scene ∈ grouping.scenesOf (grouping.groupOf scene) := by
  unfold groupOf
  cases found : listing? grouping.groups.entries scene with
  | none => exact absurd member (listing?_eq_none_iff.mp found group)
  | some first => exact listing?_listed found

theorem groupOf_of_mem (exclusive : Exclusive grouping.groups)
    (member : scene ∈ grouping.scenesOf group) : grouping.groupOf scene = group :=
  exclusive scene _ group (mem_scenesOf_groupOf member) member

theorem groupOf_of_unlisted (unlisted : ∀ group, scene ∉ grouping.scenesOf group) :
    grouping.groupOf scene = grouping.looseGroup := by
  have none : listing? grouping.groups.entries scene = .none := listing?_eq_none_iff.mpr unlisted
  simp [groupOf, none]

/-- The key of the order is no group, so a group comes behind it. -/
theorem indexOf_pos (sound : grouping.Sound) (present : group ∈ grouping.groups.keys) :
    1 ≤ grouping.indexOf group := by
  obtain ⟨rest, order⟩ := List.head?_eq_some_iff.mp sound.first
  have listed := sound.listed group present
  have apart : grouping.orderKey ≠ group := fun same => sound.reserved (same ▸ present)
  rw [order, List.mem_cons] at listed
  have later : group ∈ rest := listed.resolve_left (Ne.symm apart)
  obtain ⟨place, found⟩ := Option.isSome_iff_exists.mp (List.isSome_idxOf?.mpr later)
  simp only [indexOf, order, List.idxOf?_cons, beq_eq_false_iff_ne.mpr apart, found,
    Bool.false_eq_true, if_false, Option.map_some]
  omega

/-- A grouping with a scene in one of its groups, or in a new one. -/
def withScene (grouping : Grouping) (group scene : String) : Grouping :=
  { grouping with
    order := including grouping.order group
    groups := grouping.groups.insert group (including (grouping.scenesOf group) scene) }

theorem addScene_eq (grouping : Grouping) (group scene : String) :
    grouping.addScene group scene =
      if group = grouping.orderKey then .error (.reservedGroup group)
      else .ok (grouping.withScene group scene) := rfl

theorem scenesOf_withScene (grouping : Grouping) (group scene other : String) :
    (grouping.withScene group scene).scenesOf other =
      if group = other then including (grouping.scenesOf group) scene
      else grouping.scenesOf other := scenesIn_insert ..

theorem withScene_sound (sound : grouping.Sound) (apart : group ≠ grouping.orderKey)
    (scene : String) : (grouping.withScene group scene).Sound :=
  sound.enter apart (including_nodup (scenesOf_nodup sound group) scene)

theorem removeScene_frame (grouping : Grouping) (group scene : String) :
    (grouping.removeScene group scene).orderKey = grouping.orderKey ∧
      (grouping.removeScene group scene).looseGroup = grouping.looseGroup := by
  unfold removeScene
  split <;> exact ⟨rfl, rfl⟩

theorem scenesOf_removeScene (grouping : Grouping) (group scene other : String) :
    (grouping.removeScene group scene).scenesOf other =
      if group = other then (grouping.scenesOf group).erase scene else grouping.scenesOf other := by
  unfold removeScene
  cases found : grouping.groups.find? group with
  | none =>
    have bare : grouping.scenesOf group = [] := by simp [scenesOf, found]
    dsimp only
    split
    next same => rw [← same, bare, List.erase_nil]
    next => rfl
  | some scenes =>
    have held : grouping.scenesOf group = scenes := by simp [scenesOf, found]
    rw [held]
    exact scenesIn_insert ..

theorem removeScene_sound (sound : grouping.Sound) (group scene : String) :
    (grouping.removeScene group scene).Sound := by
  unfold removeScene
  cases found : grouping.groups.find? group with
  | none => exact sound
  | some scenes =>
    have present : group ∈ grouping.groups.keys := OrderedMap.mem_keys_of_find? found
    have apart : group ≠ grouping.orderKey := fun same => sound.reserved (same ▸ present)
    have entered := sound.enter apart ((sound.once group scenes found).erase scene)
    rwa [including_of_mem (sound.listed group present)] at entered

end Grouping

end Libretto
