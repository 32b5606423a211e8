import Libretto.Proofs.StoredScenes
import Mathlib.Data.List.Nodup

/-! Scripts whose scenes have been given their groups. A grouping alone says which of two names
comes first, so scripts of several languages agree on the names that they share. What the scenes
had for groups before has no part in it. -/
namespace Libretto

namespace Grouping

/-- The place of a scene's group in the order, negative without one. -/
def placeOf (grouping : Grouping) (scene : String) : Int :=
  grouping.indexOf (grouping.groupOf scene)

/-- Scenes whose group has a place come first, in the order of these places. Within a place, and
among those without one, the names decide. -/
def Precedes (grouping : Grouping) (a b : String) : Prop :=
  (0 ≤ grouping.placeOf a ∧ grouping.placeOf b < 0) ∨
  (0 ≤ grouping.placeOf a ∧ 0 ≤ grouping.placeOf b ∧ grouping.placeOf a < grouping.placeOf b) ∨
  ((grouping.placeOf a = grouping.placeOf b ∨
    (grouping.placeOf a < 0 ∧ grouping.placeOf b < 0)) ∧ a < b)

theorem indexOf_ge (grouping : Grouping) (group : String) : -1 ≤ grouping.indexOf group := by
  unfold indexOf
  split <;> omega

end Grouping

/-- A scene that tells nothing of its group. -/
def Scene.ungrouped (scene : Scene) : Scene := { scene with group := "", groupIndex := -1 }

def Script.ungrouped (script : Script) : Script :=
  { script with scenes := script.scenes.map fun _ => Scene.ungrouped }

def ScriptStore.ungrouped (store : ScriptStore) : ScriptStore :=
  store.mapScripts Script.ungrouped fun _ => rfl

/-- The scene has the group and the index that a grouping gives to its name. -/
def Scene.InGroup (grouping : Grouping) (scene : Scene) : Prop :=
  scene.group = grouping.groupOf scene.name ∧ scene.groupIndex = grouping.placeOf scene.name

theorem Scene.name_law {fit : Scene → Prop} :
    Scene.Law fit fun name scene => scene.name = name where
  entered _ _ := rfl
  built _ _ := rfl
  changed _ scene change own := (change.apply_name scene).trans own
  grouped _ _ _ _ own := own

/-- By group a script has all of its scenes once each, in the order of the grouping. -/
structure Script.OrderedBy (grouping : Grouping) (script : Script) : Prop where
  all : script.inGroupOrder.Perm script.scenes.values
  once : script.inGroupOrder.Nodup
  order : ∀ a ∈ script.scenes.values, ∀ b ∈ script.scenes.values,
    [a, b].Sublist script.inGroupOrder ↔ grouping.Precedes a.name b.name

/-- Names that two scripts have both come in one order in them. -/
def Script.OrderedAlike (first second : Script) : Prop :=
  ∀ a b, a ∈ first.names → b ∈ first.names → a ∈ second.names → b ∈ second.names →
    ([a, b].Sublist (first.inGroupOrder.map Scene.name) ↔
      [a, b].Sublist (second.inGroupOrder.map Scene.name))

/-- All that calls of a kind can lead to. -/
def Desk.Reached (fit : Scene → Prop) (desk : Desk) : Prop :=
  ∃ grouping audience calls, (∀ call ∈ calls, Call.Plain fit call) ∧
    desk = run ⟨.new grouping audience, []⟩ calls

namespace Script
variable {script : Script} {grouping : Grouping} {a b : Scene}

theorem ungrouped_assign (grouping : Grouping) (script : Script) :
    (script.assign grouping).ungrouped = script.ungrouped := by
  simp only [ungrouped, assign, OrderedMap.map_map]
  rfl

theorem assign_ungrouped (grouping : Grouping) (script : Script) :
    script.ungrouped.assign grouping = script.assign grouping := by
  simp only [ungrouped, assign, OrderedMap.map_map]
  rfl

theorem assign_inGroup {scene : Scene} (member : scene ∈ (script.assign grouping).scenes.values) :
    scene.InGroup grouping := by
  simp only [assign, OrderedMap.values, OrderedMap.map, List.map_map, List.mem_map] at member
  obtain ⟨entry, -, rfl⟩ := member
  exact ⟨rfl, rfl⟩

theorem groupBefore_iff (first : a.InGroup grouping) (second : b.InGroup grouping) :
    groupBefore a b = true ↔ grouping.Precedes a.name b.name := by
  rw [groupBefore_eq, rankBefore_eq_true_iff, Grouping.Precedes, ← first.2, ← second.2]
  have least : -1 ≤ a.groupIndex := first.2 ▸ grouping.indexOf_ge _
  have other : -1 ≤ b.groupIndex := second.2 ▸ grouping.indexOf_ge _
  simp only [rank]
  grind

/-- Scenes under their own names, each in its group, are in the order of the grouping. -/
theorem pair_inGroupOrder_iff (distinct : script.names.Nodup)
    (inGroups : ∀ scene ∈ script.scenes.values, scene.InGroup grouping)
    (inFirst : a ∈ script.scenes.values) (inSecond : b ∈ script.scenes.values) :
    [a, b].Sublist script.inGroupOrder ↔ grouping.Precedes a.name b.name := by
  have perm : script.inGroupOrder.Perm script.scenes.values := arrange_perm _ _
  have once : script.inGroupOrder.Nodup := perm.nodup_iff.mpr (.of_map Scene.name distinct)
  -- Scenes that neither comes first have one name, and no two scenes have.
  have apart : ∀ x ∈ script.inGroupOrder, ∀ y ∈ script.inGroupOrder,
      groupBefore x y = false → groupBefore y x = false → x = y := by
    intro x inX y inY notBefore notAfter
    have names : x.name = y.name := congrArg Prod.snd (rank_eq notBefore notAfter)
    exact List.inj_on_of_nodup_map distinct (perm.mem_iff.mp inX) (perm.mem_iff.mp inY) names
  calc [a, b].Sublist script.inGroupOrder
    _ ↔ groupBefore a b = true :=
      pair_sublist_iff groupBefore_ranks once (arrange_arranged groupBefore_ranks _) apart
        (perm.mem_iff.mpr inFirst) (perm.mem_iff.mpr inSecond)
    _ ↔ grouping.Precedes a.name b.name :=
      groupBefore_iff (inGroups a inFirst) (inGroups b inSecond)

/-- The same of the names alone. -/
theorem name_pair_inGroupOrder_iff (distinct : script.names.Nodup)
    (inGroups : ∀ scene ∈ script.scenes.values, scene.InGroup grouping) {first second : String}
    (inFirst : first ∈ script.names) (inSecond : second ∈ script.names) :
    [first, second].Sublist (script.inGroupOrder.map Scene.name) ↔
      grouping.Precedes first second := by
  obtain ⟨a, inA, rfl⟩ := List.mem_map.mp inFirst
  obtain ⟨b, inB, rfl⟩ := List.mem_map.mp inSecond
  rw [← pair_inGroupOrder_iff distinct inGroups inA inB]
  constructor
  · intro placed
    obtain ⟨pair, placed, names⟩ := List.sublist_map_iff.mp placed
    obtain ⟨x, rest, rfl, sameFirst, others⟩ := List.map_eq_cons_iff.mp names.symm
    obtain ⟨y, rfl, sameSecond⟩ := List.map_eq_singleton_iff.mp others
    have member (scene : Scene) (there : scene ∈ [x, y]) : scene ∈ script.scenes.values :=
      (arrange_perm _ _).mem_iff.mp (placed.subset there)
    have first : x = a := List.inj_on_of_nodup_map distinct (member x (by simp)) inA sameFirst
    have second : y = b := List.inj_on_of_nodup_map distinct (member y (by simp)) inB sameSecond
    rwa [first, second] at placed
  · exact fun placed => placed.map Scene.name

end Script

namespace ScriptStore

theorem ungrouped_grouped (store : ScriptStore) : store.grouped.ungrouped = store.ungrouped := by
  unfold grouped
  split
  next => rfl
  next grouping _ => simp only [ungrouped, mapScripts, OrderedMap.map_map, Script.ungrouped_assign]

theorem grouped_ungrouped {store : ScriptStore} {grouping : Grouping}
    (known : store.grouping = some grouping) : store.ungrouped.grouped = store.grouped := by
  have same : store.ungrouped.grouping = some grouping := known
  simp only [grouped, same, known]
  simp only [ungrouped, mapScripts, OrderedMap.map_map, Script.assign_ungrouped]

/-- Stores that differ in the groups of their scenes alone are grouped alike. -/
theorem grouped_eq {a b : ScriptStore} {grouping : Grouping} (same : a.ungrouped = b.ungrouped)
    (known : a.grouping = some grouping) : a.grouped = b.grouped := by
  have other : b.grouping = some grouping := (congrArg ScriptStore.grouping same).symm.trans known
  rw [← grouped_ungrouped known, same, grouped_ungrouped other]

/-- What a script of a grouped store is like, if scenes are stored under their own names. -/
theorem grouped_script {store : ScriptStore} {grouping : Grouping} {language : Int}
    {script : Script} (obeys : store.Obeys fun name scene => scene.name = name)
    (known : store.grouping = some grouping)
    (found : store.grouped.script? language = some script) :
    script.names.Nodup ∧
      ∀ scene ∈ script.scenes.values, scene.InGroup grouping := by
  rw [script?_grouped known] at found
  obtain ⟨old, there, rfl⟩ := Option.map_eq_some_iff.mp found
  have own := (obeys language old there).assign (@Scene.name_law fun _ => True) grouping
  exact ⟨Script.names_distinct own, fun scene member => Script.assign_inGroup member⟩

end ScriptStore

namespace Desk

/-- Once groups are assigned, the scenes of each script are all there once each, in an order that
the grouping alone gives to their names, so scripts agree on the names that they share. Groups
and their indices are all that changes, and what they were before makes no difference. -/
theorem grouped_order_follows_names {desk : Desk} (reached : desk.Reached fun _ => True)
    (grouping : Grouping) :
    let before : ScriptStore := { desk.store with grouping := some grouping }
    let outcome := ScriptStore.assignGroups before
    outcome.result = .ok () ∧ events outcome.journal = [] ∧
    (∀ language script, outcome.state.script? language = some script →
      script.OrderedBy grouping) ∧
    (∀ one two first second, outcome.state.script? one = some first →
      outcome.state.script? two = some second → first.OrderedAlike second) ∧
    outcome.state.ungrouped = before.ungrouped ∧
    (∀ other : ScriptStore, other.ungrouped = before.ungrouped →
      (ScriptStore.assignGroups other).state = outcome.state) ∧
    (ScriptStore.assignGroups outcome.state).state = outcome.state := by
  intro before outcome
  obtain ⟨result, state, silent⟩ := ScriptStore.assignGroups_outcome before
  have again (other : ScriptStore) (same : other.ungrouped = before.ungrouped) :
      (ScriptStore.assignGroups other).state = outcome.state := by
    rw [(ScriptStore.assignGroups_outcome other).2.1]
    exact (ScriptStore.grouped_eq same.symm rfl).symm.trans state.symm
  have ungrouped : outcome.state.ungrouped = before.ungrouped :=
    (congrArg ScriptStore.ungrouped state).trans before.ungrouped_grouped
  have obeys : before.Obeys fun name scene => scene.name = name := by
    obtain ⟨start, audience, calls, plain, rfl⟩ := reached
    exact run_obeys Scene.name_law plain (new_obeys start audience _)
  have grouped {language : Int} {script : Script}
      (found : outcome.state.script? language = some script) :=
    ScriptStore.grouped_script obeys rfl (state ▸ found)
  refine ⟨result, silent, ?_, ?_, ungrouped, again, again _ ungrouped⟩
  · intro language script found
    obtain ⟨distinct, inGroups⟩ := grouped found
    have perm : script.inGroupOrder.Perm script.scenes.values := arrange_perm _ _
    exact ⟨perm, perm.nodup_iff.mpr (.of_map Scene.name distinct), fun a inA b inB =>
      Script.pair_inGroupOrder_iff distinct inGroups inA inB⟩
  · intro one two first second inOne inTwo a b aFirst bFirst aSecond bSecond
    obtain ⟨distinct, inGroups⟩ := grouped inOne
    obtain ⟨others, inOthers⟩ := grouped inTwo
    rw [Script.name_pair_inGroupOrder_iff distinct inGroups aFirst bFirst,
      Script.name_pair_inGroupOrder_iff others inOthers aSecond bSecond]

/-- One group is twice in the order, one is not in it, and the loose one is. -/
theorem repeated_order_sorts_two_languages :
    let grouping : Grouping :=
      ⟨"_groups", "loose", ["_groups", "g", "loose", "g"], .ofList [("g", ["z"]), ("h", ["b"])]⟩
    let calls : List Call := [
      .addScript { language := 0 }, .addScript { language := 1 },
      .onScript 0 (.add { name := "a", groupIndex := 7 }), .onScript 0 (.add { name := "z" }),
      .onScript 1 (.add { name := "b" }), .onScript 1 (.add { name := "z" }),
      .onScript 1 (.add { name := "a" })]
    let desk := run ⟨.new none none, []⟩ calls
    let outcome := ScriptStore.assignGroups { desk.store with grouping := some grouping }
    desk.Reached (fun _ => True) ∧ ∃ first second,
      outcome.state.script? 0 = some first ∧ outcome.state.script? 1 = some second ∧
      first.OrderedBy grouping ∧ first.OrderedAlike second ∧
      second.inGroupOrder.map Scene.name = ["z", "a", "b"] := by
  intro grouping calls desk outcome
  have reached : desk.Reached fun _ => True := by
    refine ⟨none, none, calls, ?_, rfl⟩
    simp only [calls, List.forall_mem_cons, List.not_mem_nil, false_imp_iff, implies_true, and_true]
    have bare (language : Int) : (Call.addScript { language }).Plain fun _ => True :=
      @Call.Plain.addScript _ _ [] rfl (by simp)
    exact ⟨bare 0, bare 1,
      .onScript 0 (.add trivial), .onScript 0 (.add trivial), .onScript 1 (.add trivial),
      .onScript 1 (.add trivial), .onScript 1 (.add trivial)⟩
  obtain ⟨-, -, ordered, alike, -⟩ := grouped_order_follows_names reached grouping
  have there : (outcome.state.script? 0).isSome := by decide +kernel
  have names : (outcome.state.script? 1).map (fun script => script.inGroupOrder.map Scene.name) =
      some ["z", "a", "b"] := by decide +kernel
  obtain ⟨first, inFirst⟩ := Option.isSome_iff_exists.mp there
  obtain ⟨second, inSecond, names⟩ := Option.map_eq_some_iff.mp names
  exact ⟨reached, first, second, inFirst, inSecond, ordered 0 first inFirst,
    alike 0 1 first second inFirst inSecond, names⟩

end Desk

end Libretto
