import Libretto.Proofs.GroupingRuns

/-! The document of a grouping, read back. Its members are the order and then the groups as the
order shows them, so they are read in an order in which nothing is missing. The one thing that
may be in the way is a scene in two groups. -/
namespace Libretto

namespace Grouping
variable {grouping : Grouping} {draft later : Draft} {entries : List (String × List String)}

def namesValue (names : List String) : Value := .list (names.map .str)

theorem names?_namesValue (names : List String) : names? (namesValue names) = some names :=
  Value.texts?_str names

/-- A group as a member of the document. -/
def written (entry : String × List String) : String × Value := (entry.1, namesValue entry.2)

/-- The groups as the order shows them. -/
def shown (grouping : Grouping) : List (String × List String) :=
  grouping.order.filterMap fun group => (grouping.groups.find? group).map (group, ·)

theorem mem_shown (grouping : Grouping) (entry : String × List String) :
    entry ∈ grouping.shown ↔
      entry.1 ∈ grouping.order ∧ grouping.groups.find? entry.1 = some entry.2 := by
  simp only [shown, List.mem_filterMap, Option.map_eq_some_iff]
  constructor
  · rintro ⟨group, listed, scenes, found, rfl⟩
    exact ⟨listed, found⟩
  · rintro ⟨listed, found⟩
    exact ⟨entry.1, listed, entry.2, found, rfl⟩

theorem shown_distinct (sound : grouping.Sound) : (grouping.shown.map Prod.fst).Nodup := by
  have names : grouping.shown.map Prod.fst = grouping.order.filter grouping.groups.contains := by
    simp only [shown, List.map_filterMap, Option.map_map, ← List.filterMap_eq_filter]
    congr 1
    funext group
    cases found : grouping.groups.find? group <;> simp [OrderedMap.contains, found, Option.guard]
  rw [names]
  exact sound.distinct.filter _

/-- Every group is shown somewhere. -/
theorem find?_shown (sound : grouping.Sound) (group : String) :
    (OrderedMap.ofList grouping.shown).find? group = grouping.groups.find? group := by
  apply Option.ext
  intro scenes
  rw [OrderedMap.find?_eq_some_iff, OrderedMap.entries_ofList _ (shown_distinct sound), mem_shown]
  refine ⟨And.right, fun found => ⟨?_, found⟩⟩
  exact sound.listed group (OrderedMap.mem_keys_of_find? found)

theorem foldl_insert_found (groups members : OrderedMap String (List String))
    (names : List String) : names.foldl (fun members group =>
      match groups.find? group with
      | some scenes => members.insert group scenes
      | none => members) members =
      members.extend (names.filterMap fun group => (groups.find? group).map (group, ·)) := by
  induction names generalizing members with
  | nil => rfl
  | cons group names ih =>
    rw [List.foldl_cons, ih, List.filterMap_cons]
    cases groups.find? group <;> rfl

theorem foldl_insertNew_known {members : OrderedMap String (List String)}
    (known : ∀ entry ∈ entries, members.contains entry.1) :
    entries.foldl (fun members entry => members.insertNew entry.1 entry.2) members =
      members := by
  induction entries with
  | nil => rfl
  | cons entry entries ih =>
    have same : members.insertNew entry.1 entry.2 = members := if_pos (known entry (by simp))
    rw [List.foldl_cons, same]
    exact ih fun other member => known other (by simp [member])

theorem members_eq (grouping : Grouping) : grouping.members =
    grouping.groups.entries.foldl (fun members entry => members.insertNew entry.1 entry.2)
      ((OrderedMap.ofList [(grouping.orderKey, grouping.order)]).extend grouping.shown) := by
  rw [shown, ← foldl_insert_found]
  rfl

/-- All groups are in the order, so none is left to come behind those that it shows. -/
theorem members_entries (sound : grouping.Sound) :
    grouping.members.entries = (grouping.orderKey, grouping.order) :: grouping.shown := by
  have ordered : ((OrderedMap.ofList [(grouping.orderKey, grouping.order)]).extend
      grouping.shown).entries = (grouping.orderKey, grouping.order) :: grouping.shown := by
    apply OrderedMap.entries_extend_new _ _ (shown_distinct sound)
    rintro _ member key
    obtain ⟨entry, there, rfl⟩ := List.mem_map.mp member
    have present := OrderedMap.mem_keys_of_find? ((mem_shown grouping entry).mp there).2
    rw [List.mem_singleton.mp key] at present
    exact sound.reserved present
  rw [members_eq, foldl_insertNew_known, ordered]
  intro entry member
  have found := (grouping.groups.find?_eq_some_iff entry.1 entry.2).mpr member
  have listed := sound.listed entry.1 (OrderedMap.mem_keys_of_find? found)
  have there := (mem_shown grouping entry).mpr ⟨listed, found⟩
  rw [OrderedMap.contains_iff, OrderedMap.keys, ordered]
  exact List.mem_map_of_mem (List.mem_cons_of_mem _ there)

theorem toValue_eq (sound : grouping.Sound) : grouping.toValue =
    .object ((grouping.orderKey, namesValue grouping.order) :: grouping.shown.map written) := by
  rw [toValue, Value.ofMap, members_entries sound]
  rfl

/-- An order in which all is as it should be is read as it is. -/
theorem readOrder_namesValue (sound : grouping.Sound) :
    readOrder grouping.orderKey (namesValue grouping.order) = .ok grouping.order := by
  obtain ⟨rest, order⟩ := List.head?_eq_some_iff.mp sound.first
  rw [readOrder_eq, names?_namesValue]
  dsimp only
  rw [withoutRepeats_of_nodup sound.distinct, order, List.erase_cons_head]

theorem drafted_toValue (sound : grouping.Sound) :
    drafted grouping.orderKey grouping.toValue =
      Draft.readAll grouping.orderKey (grouping.shown.map written) ⟨grouping.order, .empty⟩ := by
  rw [toValue_eq sound]
  simp only [drafted, Entries.find?, if_true, Option.getD_some, readOrder_namesValue sound]
  exact if_pos rfl

/-- Groups of a grouping, each told once. -/
structure Describes (grouping : Grouping) (entries : List (String × List String)) : Prop where
  distinct : (entries.map Prod.fst).Nodup
  found : ∀ entry ∈ entries, grouping.groups.find? entry.1 = some entry.2

theorem shown_describes (sound : grouping.Sound) : grouping.Describes grouping.shown :=
  ⟨shown_distinct sound, fun entry member => ((mem_shown grouping entry).mp member).2⟩

theorem Describes.rest {entry : String × List String}
    (groups : grouping.Describes (entry :: entries)) : grouping.Describes entries :=
  ⟨(List.nodup_cons.mp groups.distinct).2,
    fun other member => groups.found other (by simp [member])⟩

/-- The key of the order is no group, so no member that describes a group is passed over. -/
theorem readAll_cons (sound : grouping.Sound) {entry : String × List String}
    (groups : grouping.Describes (entry :: entries)) (draft : Draft) :
    draft.readAll grouping.orderKey ((entry :: entries).map written) =
      draft.read entry.1 (namesValue entry.2) >>=
        Draft.readAll grouping.orderKey (entries.map written) := by
  have present := OrderedMap.mem_keys_of_find? (groups.found entry (by simp))
  have apart : entry.1 ≠ grouping.orderKey := fun same => sound.reserved (same ▸ present)
  exact if_neg apart

theorem read_ok_written (sound : grouping.Sound) {entry : String × List String}
    (groups : grouping.Describes (entry :: entries)) (order : draft.order = grouping.order)
    (done : draft.read entry.1 (namesValue entry.2) = .ok later) :
    later.order = draft.order ∧ later.groups = draft.groups.insert entry.1 entry.2 := by
  have found := groups.found entry (by simp)
  have known := sound.listed entry.1 (OrderedMap.mem_keys_of_find? found)
  obtain ⟨names, named, rfl, -⟩ := Draft.read_ok done
  rw [names?_namesValue] at named
  cases named
  rw [withoutRepeats_of_nodup (sound.once entry.1 entry.2 found)]
  exact ⟨including_of_mem (order ▸ known), rfl⟩

theorem readAll_ok_written (sound : grouping.Sound) (groups : grouping.Describes entries)
    (order : draft.order = grouping.order)
    (done : draft.readAll grouping.orderKey (entries.map written) = .ok later) :
    later.order = draft.order ∧ later.groups = draft.groups.extend entries := by
  induction entries generalizing draft with
  | nil =>
    cases done
    exact ⟨rfl, rfl⟩
  | cons entry entries ih =>
    rw [readAll_cons sound groups] at done
    obtain ⟨next, read, rest⟩ := bind_ok done
    obtain ⟨nextOrder, nextGroups⟩ := read_ok_written sound groups order read
    obtain ⟨lastOrder, lastGroups⟩ := ih groups.rest (nextOrder.trans order) rest
    exact ⟨lastOrder.trans nextOrder, lastGroups.trans (congrArg (·.extend entries) nextGroups)⟩

/-- The fault tells a scene of the grouping that is in two of its groups. The draft holds groups
of the grouping, none of those that are still to come. -/
theorem readAll_error_written {fault : Fault} (sound : grouping.Sound)
    (groups : grouping.Describes entries) (order : draft.order = grouping.order)
    (held : ∀ group scene, scene ∈ scenesIn draft.groups group → scene ∈ grouping.scenesOf group)
    (fresh : ∀ group ∈ draft.groups.keys, group ∉ entries.map Prod.fst)
    (failed : draft.readAll grouping.orderKey (entries.map written) = .error fault) :
    ∃ scene first second, fault = .sceneInTwoGroups scene first second ∧ first ≠ second ∧
      scene ∈ grouping.scenesOf first ∧ scene ∈ grouping.scenesOf second := by
  induction entries generalizing draft with
  | nil => cases failed
  | cons entry entries ih =>
    have scenes : grouping.scenesOf entry.1 = entry.2 := by
      simp [scenesOf, groups.found entry (by simp)]
    rw [readAll_cons sound groups] at failed
    cases read : draft.read entry.1 (namesValue entry.2) with
    | error other =>
      rw [read] at failed
      cases failed
      simp only [Draft.read, names?_namesValue] at read
      cases kept : readScenes draft entry.1 entry.2 with
      | ok names =>
        rw [kept] at read
        cases read
      | error known =>
        rw [kept] at read
        cases read
        obtain ⟨scene, member, first, rfl, listed⟩ := readScenes_error kept
        have apart : first ≠ entry.1 := by
          rintro rfl
          exact fresh entry.1 (mem_keys_of_mem_scenesIn listed) (by simp)
        exact ⟨scene, first, entry.1, rfl, apart, held first scene listed, scenes.symm ▸ member⟩
    | ok next =>
      rw [read] at failed
      obtain ⟨nextOrder, nextGroups⟩ := read_ok_written sound groups order read
      refine ih groups.rest (nextOrder.trans order) ?_ ?_ failed
      · intro group scene member
        rw [nextGroups, scenesIn_insert] at member
        split at member
        next same => exact same ▸ scenes.symm ▸ member
        next => exact held group scene member
      · intro group member
        rw [nextGroups, OrderedMap.mem_keys_insert] at member
        obtain rfl | before := member
        · exact (List.nodup_cons.mp groups.distinct).1
        · exact fun later => fresh group before (List.mem_cons_of_mem _ later)

/-- What is read of the document of a grouping is the grouping, unless a scene is in two groups. -/
theorem drafted_toValue_ok (sound : grouping.Sound)
    (done : drafted grouping.orderKey grouping.toValue = .ok draft) :
    draft.order = grouping.order ∧
      (∀ group, draft.groups.find? group = grouping.groups.find? group) ∧
      Exclusive grouping.groups := by
  have exclusive := (drafted_sound done).exclusive
  rw [drafted_toValue sound] at done
  obtain ⟨order, groups⟩ := readAll_ok_written sound (shown_describes sound) rfl done
  have same (group : String) : draft.groups.find? group = grouping.groups.find? group :=
    groups ▸ find?_shown sound group
  have scenes (group : String) : scenesIn draft.groups group = grouping.scenesOf group :=
    congrArg (·.getD []) (same group)
  refine ⟨order, same, fun scene first second inFirst inSecond => ?_⟩
  exact exclusive scene first second (scenes first ▸ inFirst) (scenes second ▸ inSecond)

theorem drafted_toValue_error {fault : Fault} (sound : grouping.Sound)
    (failed : drafted grouping.orderKey grouping.toValue = .error fault) :
    ∃ scene first second, fault = .sceneInTwoGroups scene first second ∧ first ≠ second ∧
      scene ∈ grouping.scenesOf first ∧ scene ∈ grouping.scenesOf second := by
  rw [drafted_toValue sound] at failed
  refine readAll_error_written sound (shown_describes sound) rfl ?_ ?_ failed
  · exact fun _ _ member => absurd member List.not_mem_nil
  · exact fun _ member => absurd member List.not_mem_nil

/-- The order of the document lists all groups, so none has to be told. -/
theorem hydrate_toValue_journal {target : Grouping} (sound : grouping.Sound)
    (key : target.orderKey = grouping.orderKey)
    (done : drafted grouping.orderKey grouping.toValue = .ok draft) :
    (hydrate grouping.toValue target).journal = [.log (.groupsLoaded draft.groups.size)] := by
  have order := (drafted_toValue_ok sound done).1
  have ordered : readOrder grouping.orderKey ((Entries.find? grouping.orderKey
      ((grouping.orderKey, namesValue grouping.order) :: grouping.shown.map written)).getD
        (.list [])) = .ok grouping.order := by
    simp only [Entries.find?, if_true, Option.getD_some, readOrder_namesValue sound]
  rw [(hydrate_drafted (key ▸ done)).2.2, key]
  rw [toValue_eq sound] at done ⊢
  obtain ⟨added, later, journal⟩ := reading_told ordered done target
  rw [order, List.self_eq_append_right] at later
  rw [journal, later]
  rfl

/-- A grouping that any calls have led to comes back from its document exactly if no scene is in
two of its groups: the order and the scenes of every group are the same, and no group is told to
be missing in the order. Otherwise the fault names such a scene, and the grouping that was to be
replaced stays as it was. -/
theorem document_restores_exclusive_groups (orderKey looseGroup : String)
    (calls : List GroupingCall) (target : Grouping) (key : target.orderKey = orderKey) :
    let source := (new orderKey looseGroup).run calls
    let outcome := hydrate source.toValue target
    (outcome.result = .ok () ↔ Exclusive source.groups) ∧
    (outcome.result = .ok () → outcome.state.order = source.order ∧
      (∀ group, outcome.state.groups.find? group = source.groups.find? group) ∧
      ∀ group, .log (.unorderedGroup group) ∉ outcome.journal) ∧
    ∀ fault, outcome.result = .error fault → fault.kind = .duplicateKey ∧
      (∃ scene first second, fault = .sceneInTwoGroups scene first second ∧ first ≠ second ∧
        scene ∈ source.scenesOf first ∧ scene ∈ source.scenesOf second) ∧
      outcome.state = target := by
  intro source outcome
  have sound : source.Sound := run_sound (.new orderKey looseGroup) calls
  have sourceKey : source.orderKey = orderKey := run_orderKey (new orderKey looseGroup) calls
  have same : target.orderKey = source.orderKey := key.trans sourceKey.symm
  cases read : drafted source.orderKey source.toValue with
  | ok draft =>
    obtain ⟨order, groups, exclusive⟩ := drafted_toValue_ok sound read
    obtain ⟨result, state, -⟩ := hydrate_drafted (same ▸ read)
    have journal := hydrate_toValue_journal sound same read
    refine ⟨iff_of_true result exclusive, fun _ => ?_, fun fault failed => ?_⟩
    · refine ⟨state ▸ order, state ▸ groups, fun group told => ?_⟩
      rw [journal, List.mem_singleton] at told
      cases told
    · cases result.symm.trans failed
  | error fault =>
    obtain ⟨result, state⟩ := hydrate_refused (same ▸ read)
    obtain ⟨scene, first, second, named, apart, inFirst, inSecond⟩ :=
      drafted_toValue_error sound read
    have refused : outcome.result ≠ .ok () := fun done => nomatch result.symm.trans done
    refine ⟨iff_of_false refused fun exclusive => ?_, fun done => absurd done refused,
      fun other failed => ?_⟩
    · exact apart (exclusive scene first second inFirst inSecond)
    · cases result.symm.trans failed
      exact ⟨named ▸ rfl, ⟨scene, first, second, named, apart, inFirst, inSecond⟩, state⟩

theorem moved_scene_comes_back_and_doubled_one_does_not :
    let moving := [.hydrate (.object [("a", .list [.str "x", .str "y"])]), .move "b" "x"]
    let doubling := [.add "a" "x", .add "b" "x"]
    (Exclusive ((new "_groups" "").run moving).groups ∧
      (hydrate ((new "_groups" "").run moving).toValue standard).state.order =
        ["_groups", "a", "b"]) ∧
    ∃ fault, (hydrate ((new "_groups" "").run doubling).toValue standard).result = .error fault ∧
      fault.kind = .duplicateKey ∧
      (hydrate ((new "_groups" "").run doubling).toValue standard).state = standard := by
  intro moving doubling
  obtain ⟨exactly, same, -⟩ := document_restores_exclusive_groups "_groups" "" moving standard rfl
  obtain ⟨-, -, spoiled⟩ := document_restores_exclusive_groups "_groups" "" doubling standard rfl
  obtain ⟨⟨⟩, done⟩ := ok_of_toBool (show
    (hydrate ((new "_groups" "").run moving).toValue standard).result.toBool = true by
      decide +kernel)
  obtain ⟨fault, failed⟩ := error_of_toBool (show
    (hydrate ((new "_groups" "").run doubling).toValue standard).result.toBool = false by
      decide +kernel)
  have order : ((new "_groups" "").run moving).order = ["_groups", "a", "b"] := by decide +kernel
  obtain ⟨kind, -, state⟩ := spoiled fault failed
  exact ⟨⟨exactly.mp done, (same done).1.trans order⟩, fault, failed, kind, state⟩

end Grouping
end Libretto
