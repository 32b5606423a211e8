import Libretto.Proofs.DecodedValues
import Libretto.Proofs.GroupReading

/-! What a document makes of a grouping, in one piece and without the pass that makes it. A
document is refused if it is of the wrong form or if it lists a scene for two groups, and only
then. Otherwise order and groups are those of the document, first occurrences kept. -/
namespace Libretto

section names
variable {names kept : List String}

/-- What is taken in are the new names, each where it comes first. -/
theorem foldl_including_eq (names kept : List String) : names.foldl including kept =
    kept ++ (names.filter (· ∉ kept)).eraseDups := by
  induction names generalizing kept with
  | nil => simp
  | cons name names ih =>
    rw [List.foldl_cons, ih]
    by_cases known : name ∈ kept
    · simp [including_of_mem known, known]
    · have more : including kept name = kept ++ [name] := if_neg known
      have both : names.filter (· ∉ kept ++ [name]) =
          (names.filter (· ∉ kept)).filter fun other => !other == name := by
        rw [List.filter_filter]
        refine List.filter_congr fun other _ => ?_
        by_cases same : other = name <;> simp [same]
      rw [more, both, List.filter_cons_of_pos (by simpa using known), List.eraseDups_cons,
        List.append_assoc, List.singleton_append]

theorem withoutRepeats_eq (names : List String) : withoutRepeats names = names.eraseDups := by
  have all : names.filter (· ∉ []) = names := List.filter_eq_self.mpr fun _ _ => by simp
  rw [withoutRepeats, foldl_including_eq, all, List.nil_append]

theorem eraseDups_of_nodup (distinct : names.Nodup) : names.eraseDups = names := by
  rw [← withoutRepeats_eq, withoutRepeats_of_nodup distinct]

theorem foldl_including_filter (keep : String → Bool) (names kept : List String) :
    (names.foldl including kept).filter keep =
      (names.filter keep).foldl including (kept.filter keep) := by
  induction names generalizing kept with
  | nil => rfl
  | cons name names ih =>
    have step : (including kept name).filter keep =
        if keep name then including (kept.filter keep) name else kept.filter keep := by
      unfold including
      by_cases known : name ∈ kept <;> cases wanted : keep name <;> simp [known, wanted]
    rw [List.foldl_cons, ih, step]
    cases wanted : keep name <;> simp [wanted]

/-- Taking a name out of the first occurrences is the same as not looking at it. -/
theorem withoutRepeats_erase (names : List String) (name : String) :
    (withoutRepeats names).erase name = (names.filter (· ≠ name)).eraseDups := by
  rw [(withoutRepeats_nodup names).erase_eq_filter, withoutRepeats]
  have kept := foldl_including_filter (· ≠ name) names []
  rw [List.filter_nil] at kept
  rw [← withoutRepeats_eq, withoutRepeats, ← kept]
  refine List.filter_congr fun other _ => ?_
  by_cases same : other = name <;> simp [same]

end names

namespace Grouping

/-- The scenes that a document lists for a group. -/
def listed (value : Value) (group : String) : List String :=
  ((value.member? group).bind names?).getD []

/-- A document of another form: no object, or a member, be it the order, that is no list of
names. -/
inductive Misshapen : Value → Prop
  | notObject {value : Value} (other : ∀ members, value ≠ .object members) : Misshapen value
  | member {value member : Value} {name : String} (found : value.member? name = some member)
      (unlisted : names? member = none) : Misshapen value

/-- Groups that share a scene. The order is no group. -/
structure Shared (orderKey : String) (value : Value) (scene first second : String) : Prop where
  apart : first ≠ second
  groups : first ≠ orderKey ∧ second ≠ orderKey
  inFirst : scene ∈ listed value first
  inSecond : scene ∈ listed value second

/-- The order of a document: its own, and behind it the groups that it leaves out. -/
def closedOrder (orderKey : String) (members : List (String × Value)) : List String :=
  let own := orderKey :: ((listed (.object members) orderKey).filter (· ≠ orderKey)).eraseDups
  own ++ (members.map Prod.fst).filter (· ∉ own)

/-- The groups of a document. -/
def closedGroups (orderKey : String) (members : List (String × Value)) :
    List (String × List String) :=
  (members.filter (·.1 ≠ orderKey)).map fun (group, value) =>
    (group, ((names? value).getD []).eraseDups)

section reading
variable {orderKey : String} {draft later : Draft} {members : List (String × Value)}

/-- What the members of a document make of a draft, each group being new to it. -/
structure Draft.Entered (orderKey : String) (members : List (String × Value))
    (draft later : Draft) : Prop where
  order : later.order =
    ((members.map Prod.fst).filter (· ≠ orderKey)).foldl including draft.order
  groups : later.groups.entries = draft.groups.entries ++ closedGroups orderKey members
  shaped : ∀ member ∈ members, member.1 ≠ orderKey → (names? member.2).isSome

theorem Draft.enter_groups {group : String} (new : group ∉ draft.groups.keys)
    (scenes : List String) :
    (draft.enter group scenes).groups.entries = draft.groups.entries ++ [(group, scenes)] :=
  OrderedMap.entries_insert_new scenes new

theorem readAll_entered (distinct : (members.map Prod.fst).Nodup)
    (new : ∀ group ∈ members.map Prod.fst, group ∉ draft.groups.keys)
    (done : draft.readAll orderKey members = .ok later) :
    Draft.Entered orderKey members draft later := by
  induction members generalizing draft with
  | nil =>
    cases done
    exact ⟨rfl, (List.append_nil _).symm, nofun⟩
  | cons member members ih =>
    obtain ⟨apart, tail⟩ := List.nodup_cons.mp distinct
    obtain ⟨fresh, others⟩ := List.forall_mem_cons.mp new
    simp only [Draft.readAll] at done
    split at done
    next key =>
      obtain ⟨order, groups, shaped⟩ := ih tail others done
      refine ⟨by simpa [key] using order, by simpa [closedGroups, key] using groups, ?_⟩
      exact List.forall_mem_cons.mpr ⟨fun other => absurd key other, shaped⟩
    next other =>
      obtain ⟨next, read, rest⟩ := bind_ok done
      obtain ⟨names, named, rfl, -⟩ := Draft.read_ok read
      have still : ∀ group ∈ members.map Prod.fst,
          group ∉ (draft.enter member.1 (withoutRepeats names)).groups.keys := by
        intro group there held
        rcases (OrderedMap.mem_keys_insert _ _ _ _).mp held with rfl | before
        · exact apart there
        · exact others group there before
      obtain ⟨order, groups, shaped⟩ := ih tail still rest
      refine ⟨?_, ?_, ?_⟩
      · simpa [other, Draft.enter] using order
      · rw [groups, Draft.enter_groups fresh, List.append_assoc, withoutRepeats_eq]
        simp [closedGroups, other, named]
      · exact List.forall_mem_cons.mpr ⟨fun _ => by simp [named], shaped⟩

/-- What a draft holds already is from the document, and what is still to be read is new. -/
structure Draft.Part (orderKey : String) (value : Value) (members : List (String × Value))
    (draft : Draft) : Prop where
  held : ∀ group scene, scene ∈ scenesIn draft.groups group →
    group ≠ orderKey ∧ scene ∈ listed value group
  found : ∀ member ∈ members, value.member? member.1 = some member.2
  new : ∀ group ∈ members.map Prod.fst, group ∉ draft.groups.keys

theorem mem_listed {value member : Value} {group : String} {names : List String}
    (found : value.member? group = some member) (named : names? member = some names) :
    listed value group = names := by
  simp [listed, found, named]

theorem Draft.Part.enter {value : Value} {member : String × Value} {names : List String}
    (part : Draft.Part orderKey value (member :: members) draft)
    (apart : member.1 ∉ members.map Prod.fst) (other : member.1 ≠ orderKey)
    (named : names? member.2 = some names) :
    Draft.Part orderKey value members (draft.enter member.1 (withoutRepeats names)) where
  held := by
    intro group scene there
    simp only [Draft.enter] at there
    rw [scenesIn_insert] at there
    split at there
    next same =>
      subst same
      rw [mem_listed (part.found member List.mem_cons_self) named]
      exact ⟨other, mem_withoutRepeats.mp there⟩
    next => exact part.held group scene there
  found := (List.forall_mem_cons.mp part.found).2
  new := by
    intro group there held
    rcases (OrderedMap.mem_keys_insert _ _ _ _).mp held with rfl | before
    · exact apart there
    · exact part.new group (List.mem_cons_of_mem _ there) before

/-- The first fault is a member without a list of names, or a scene that is listed again. -/
theorem readAll_refused {value : Value} {fault : Fault} (distinct : (members.map Prod.fst).Nodup)
    (part : Draft.Part orderKey value members draft)
    (failed : draft.readAll orderKey members = .error fault) :
    Misshapen value ∨ ∃ scene first second, fault = .sceneInTwoGroups scene first second ∧
      Shared orderKey value scene first second := by
  induction members generalizing draft with
  | nil => cases failed
  | cons member members ih =>
    obtain ⟨apart, tail⟩ := List.nodup_cons.mp distinct
    have found := part.found member List.mem_cons_self
    simp only [Draft.readAll] at failed
    split at failed
    next key =>
      refine ih tail ⟨part.held, ?_, ?_⟩ failed
      · exact (List.forall_mem_cons.mp part.found).2
      · exact (List.forall_mem_cons.mp part.new).2
    next other =>
      cases named : names? member.2 with
      | none => exact .inl (.member found named)
      | some names =>
        cases read : draft.read member.1 member.2 with
        | ok next =>
          rw [read] at failed
          obtain ⟨again, known, rfl, -⟩ := Draft.read_ok read
          cases named.symm.trans known
          exact ih tail (part.enter apart other named) failed
        | error own =>
          rw [read] at failed
          cases failed
          cases scenes : readScenes draft member.1 names with
          | ok kept =>
            simp only [Draft.read, named, scenes] at read
            cases read
          | error cause =>
            simp only [Draft.read, named, scenes] at read
            cases read
            obtain ⟨scene, member', first, rfl, there⟩ := readScenes_error scenes
            obtain ⟨group, inFirst⟩ := part.held first scene there
            have different : first ≠ member.1 := by
              rintro rfl
              exact part.new _ List.mem_cons_self (mem_keys_of_mem_scenesIn there)
            refine .inr ⟨scene, first, member.1, rfl, different, ⟨group, other⟩, inFirst, ?_⟩
            rwa [mem_listed found named]

end reading

section drafted
variable {orderKey : String} {draft : Draft} {members : List (String × Value)}

theorem Draft.Part.start (decoded : (Value.object members).Decoded) (order : List String) :
    Draft.Part orderKey (.object members) members ⟨order, .empty⟩ where
  held := fun _ _ there => nomatch there
  found := fun _ there => Entries.find?_of_mem decoded.distinct there
  new := fun _ _ => List.not_mem_nil

/-- Why a document is refused. -/
theorem drafted_refused {value : Value} {fault : Fault} (decoded : value.Decoded)
    (failed : drafted orderKey value = .error fault) :
    Misshapen value ∨ ∃ scene first second, fault = .sceneInTwoGroups scene first second ∧
      Shared orderKey value scene first second := by
  cases value with
  | object members =>
    simp only [drafted, readOrder_eq] at failed
    split at failed
    next names named => exact readAll_refused decoded.distinct (.start decoded _) failed
    next unlisted =>
      cases found : Entries.find? orderKey members with
      | none =>
        rw [found] at unlisted
        cases unlisted
      | some order =>
        rw [found] at unlisted
        have own : (Value.object members).member? orderKey = some order := found
        exact .inl (.member own unlisted)
  | _ => exact .inl (.notObject fun members same => by cases same)

theorem drafted_order {names : List String}
    (named : names? ((Entries.find? orderKey members).getD (.list [])) = some names) :
    listed (.object members) orderKey = names := by
  cases found : Entries.find? orderKey members with
  | none =>
    rw [found] at named
    cases named
    simp [listed, Value.member?, found]
  | some order =>
    rw [found] at named
    have own : (Value.object members).member? orderKey = some order := found
    exact mem_listed own named

theorem drafted_closed (decoded : (Value.object members).Decoded)
    (done : drafted orderKey (.object members) = .ok draft) :
    draft.order = closedOrder orderKey members ∧
      draft.groups.entries = closedGroups orderKey members := by
  obtain ⟨order, ordered, read⟩ := bind_ok done
  rw [readOrder_eq] at ordered
  split at ordered
  case h_2 => cases ordered
  next names named =>
  cases ordered
  have entered := readAll_entered decoded.distinct (fun _ _ => List.not_mem_nil) read
  refine ⟨?_, entered.groups⟩
  have own : orderKey :: (withoutRepeats names).erase orderKey =
      orderKey :: ((listed (.object members) orderKey).filter (· ≠ orderKey)).eraseDups := by
    rw [withoutRepeats_erase, drafted_order named]
  rw [entered.order, own, foldl_including_eq, List.filter_filter, closedOrder]
  rw [eraseDups_of_nodup (decoded.distinct.filter _)]
  congr 1
  -- The order key stands first, so leaving it out is no matter of its own.
  refine List.filter_congr fun group _ => ?_
  by_cases key : group = orderKey <;> simp [key]

/-- A document that is taken has the right form and shares no scene. -/
theorem drafted_fit {value : Value} (decoded : value.Decoded)
    (done : drafted orderKey value = .ok draft) :
    ¬ Misshapen value ∧ ∀ scene first second, ¬ Shared orderKey value scene first second := by
  cases value with
  | object members =>
    have closed := drafted_closed decoded done
    have exclusive := (drafted_sound done).exclusive
    obtain ⟨order, ordered, read⟩ := bind_ok done
    have entered := readAll_entered decoded.distinct (fun _ _ => List.not_mem_nil) read
    constructor
    · rintro (other | ⟨found, unlisted⟩)
      · exact other members rfl
      next member name =>
        by_cases key : name = orderKey
        · subst key
          have there : Entries.find? name members = some member := found
          rw [readOrder_eq, there, Option.getD_some, unlisted] at ordered
          cases ordered
        · have named := entered.shaped (name, member) (Entries.mem_of_find? found) key
          rw [unlisted] at named
          cases named
    · rintro scene first second ⟨apart, ⟨one, two⟩, inFirst, inSecond⟩
      have known {group : String} (other : group ≠ orderKey)
          (there : scene ∈ listed (.object members) group) : scene ∈ scenesIn draft.groups group := by
        cases found : Entries.find? group members with
        | none => simp [listed, Value.member?, found] at there
        | some member =>
          have entry : (group, ((names? member).getD []).eraseDups) ∈ draft.groups.entries := by
            rw [closed.2]
            refine List.mem_map.mpr ⟨(group, member), ?_, rfl⟩
            exact List.mem_filter.mpr ⟨Entries.mem_of_find? found, by simpa using other⟩
          refine mem_scenesIn.mpr ⟨_, (draft.groups.find?_eq_some_iff _ _).mpr entry, ?_⟩
          simpa [listed, Value.member?, found] using there
      exact apart (exclusive scene first second (known one inFirst) (known two inSecond))
  | _ => cases done

end drafted

/-- A document is refused if it is of the wrong form or two of its groups share a scene, and for
no other reason. Nothing is changed then, and if the form is right the fault names such a scene.
Otherwise order and groups are those of the document, whatever they were before: behind the order
key come the other names of its order, first occurrences kept, then the groups that the order
leaves out as the document has them; each group has its scenes, first occurrences kept. -/
theorem hydrate_in_closed_form (grouping : Grouping) {value : Value} (decoded : value.Decoded) :
    let key := grouping.orderKey
    let hydrated := hydrate value grouping
    ((∃ fault, hydrated.result = .error fault) ↔
      Misshapen value ∨ ∃ scene first second, Shared key value scene first second) ∧
    (∀ fault, hydrated.result = .error fault → hydrated.state = grouping ∧
      (¬ Misshapen value → ∃ scene first second, fault = .sceneInTwoGroups scene first second ∧
        fault.kind = .duplicateKey ∧ fault.key = .str scene ∧
        Shared key value scene first second)) ∧
    ∀ members, value = .object members → hydrated.result = .ok () →
      hydrated.state.order = closedOrder key members ∧
      hydrated.state.groups.entries = closedGroups key members ∧
      hydrated.state.orderKey = key ∧ hydrated.state.looseGroup = grouping.looseGroup := by
  intro key hydrated
  cases outcome : drafted key value with
  | error fault =>
    obtain ⟨result, state⟩ := hydrate_refused outcome
    have cause := drafted_refused decoded outcome
    refine ⟨⟨fun _ => ?_, fun _ => ⟨fault, result⟩⟩, fun other failed => ⟨state, fun fit => ?_⟩, ?_⟩
    · exact cause.imp_right fun ⟨scene, first, second, _, shared⟩ => ⟨scene, first, second, shared⟩
    · cases result.symm.trans failed
      obtain ⟨scene, first, second, rfl, shared⟩ := cause.resolve_left fit
      exact ⟨scene, first, second, rfl, rfl, rfl, shared⟩
    · intro members _ done
      cases result.symm.trans done
  | ok draft =>
    obtain ⟨result, state, -⟩ := hydrate_drafted outcome
    obtain ⟨shaped, exclusive⟩ := drafted_fit decoded outcome
    refine ⟨⟨?_, ?_⟩, fun fault failed => ?_, ?_⟩
    · rintro ⟨fault, failed⟩
      cases result.symm.trans failed
    · rintro (misshapen | ⟨scene, first, second, shared⟩)
      · exact absurd misshapen shaped
      · exact absurd shared (exclusive scene first second)
    · cases result.symm.trans failed
    · rintro members rfl -
      obtain ⟨order, groups⟩ := drafted_closed decoded outcome
      have same : hydrated.state = _ := state
      rw [same]
      exact ⟨order, groups, rfl, rfl⟩

/-- A document that lists a scene again in one of its groups is taken, and one that lists it in
another group is not. -/
theorem scene_may_repeat_in_its_own_group_only :
    let members (first second : List String) : List (String × Value) :=
      [("b", .list (first.map .str)),
        ("_groups", .list (["c", "_groups", "b", "c"].map .str)),
        ("a", .list (second.map .str))]
    let start : Grouping := ⟨"_groups", "", ["_groups", "z"], .ofList [("z", ["x"])]⟩
    let taken := hydrate (.object (members ["x", "w", "x"] ["y"])) start
    let refused := hydrate (.object (members ["x", "w", "x"] ["y", "x"])) start
    (taken.result = .ok () ∧ taken.state.order = ["_groups", "c", "b", "a"] ∧
      taken.state.groups.entries = [("b", ["x", "w"]), ("a", ["y"])]) ∧
    ∃ fault scene, refused.result = .error fault ∧ refused.state = start ∧
      fault.kind = .duplicateKey ∧ fault.key = .str scene := by
  intro members start taken refused
  have decoded (first second : List String) : (Value.object (members first second)).Decoded := by
    refine .object (by simp [members]) ?_
    simp only [members, List.forall_mem_cons]
    exact ⟨.texts first, .texts _, .texts second, nofun⟩
  constructor
  · have result : taken.result = .ok () := rfl
    obtain ⟨-, -, closed⟩ := hydrate_in_closed_form start (decoded ["x", "w", "x"] ["y"])
    obtain ⟨order, groups, -⟩ := closed _ rfl result
    exact ⟨result, order.trans (by decide +kernel), groups.trans (by decide +kernel)⟩
  · obtain ⟨refuses, cause, -⟩ := hydrate_in_closed_form start (decoded ["x", "w", "x"] ["y", "x"])
    obtain ⟨fault, failed⟩ := refuses.mpr (.inr ⟨"x", "b", "a",
      by decide, by decide, by decide +kernel, by decide +kernel⟩)
    obtain ⟨kept, names⟩ := cause fault failed
    have shaped : ¬ Misshapen (.object (members ["x", "w", "x"] ["y", "x"])) := by
      rintro (other | ⟨found, unlisted⟩)
      · exact other _ rfl
      · have entry := Entries.mem_of_find? found
        simp only [members, List.mem_cons, Prod.mk.injEq, List.not_mem_nil, or_false] at entry
        rcases entry with ⟨-, rfl⟩ | ⟨-, rfl⟩ | ⟨-, rfl⟩ <;> cases unlisted
    obtain ⟨scene, first, second, -, kind, key, -⟩ := names shaped
    exact ⟨fault, scene, failed, kept, kind, key⟩

end Grouping

end Libretto
