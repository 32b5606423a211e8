import Libretto.Proofs.SceneStoring

/-! The order of a script's scenes by group, told of the keys that the scenes are stored
under. A key's place hangs on the group index and the name of its scene alone, and content
that comes in changes neither as long as the scene bears the name that it is stored under. -/
namespace Libretto

namespace Script

/-- What the order by group looks at. -/
def rank (scene : Scene) : Int × String := (scene.groupIndex, scene.name)

def rankBefore (a b : Int × String) : Bool :=
  let loose (rank : Int × String) : Bool := rank.1 < 0
  if loose a ≠ loose b then loose b
  else if a.1 ≠ b.1 then a.1 < b.1
  else byName a.2 b.2

theorem groupBefore_eq (a b : Scene) : groupBefore a b = rankBefore (rank a) (rank b) := rfl

/-- Loose ones last, then the index, then the name: in each the first difference decides. -/
theorem rankBefore_eq_true_iff (a b : Int × String) : rankBefore a b = true ↔
    (0 ≤ a.1 ∧ b.1 < 0) ∨ ((0 ≤ a.1 ↔ 0 ≤ b.1) ∧ (a.1 < b.1 ∨ (a.1 = b.1 ∧ a.2 < b.2))) := by
  simp only [rankBefore, byName]
  split
  next differ =>
    simp only [ne_eq, decide_eq_decide] at differ
    simp only [decide_eq_true_eq]
    omega
  next alike =>
    simp only [ne_eq, decide_eq_decide, Decidable.not_not] at alike
    split
    next apart =>
      simp only [decide_eq_true_eq]
      omega
    next same =>
      simp only [decide_eq_true_eq]
      grind

theorem rankBefore_ranks : Ranks rankBefore := by
  constructor
  · intro a b first
    rw [← Bool.not_eq_true, rankBefore_eq_true_iff]
    rw [rankBefore_eq_true_iff] at first
    have names : a.2 < b.2 → ¬ b.2 < a.2 := String.lt_asymm
    grind
  · intro a b c first second
    rw [← Bool.not_eq_true, rankBefore_eq_true_iff] at first second ⊢
    have names : ¬ b.2 < a.2 → ¬ c.2 < b.2 → ¬ c.2 < a.2 := by
      intro up further
      rw [String.not_lt] at up further ⊢
      exact String.le_trans up further
    grind

theorem groupBefore_ranks : Ranks groupBefore := by
  have ranks : Ranks fun a b => rankBefore (rank a) (rank b) := rankBefore_ranks.comap
  exact ranks

theorem rank_eq {a b : Scene} (notBefore : groupBefore a b = false)
    (notAfter : groupBefore b a = false) : rank a = rank b := by
  rw [groupBefore_eq, ← Bool.not_eq_true, rankBefore_eq_true_iff] at notBefore notAfter
  have index : (rank a).1 = (rank b).1 := by omega
  have first : ¬ (rank a).2 < (rank b).2 := by grind
  have second : ¬ (rank b).2 < (rank a).2 := by grind
  exact Prod.ext index (String.le_antisymm (String.not_lt.mp second) (String.not_lt.mp first))

/-- No two scenes of one name are stored under names of their own, so how the scenes came in
does not tell in their order. -/
theorem inGroupOrder_eq {a b : Script}
    (same : ∀ name, a.scenes.find? name = b.scenes.find? name)
    (own : ∀ name scene, a.scenes.find? name = some scene → scene.name = name) :
    a.inGroupOrder = b.inGroupOrder := by
  refine arrange_perm_eq groupBefore_ranks ((OrderedMap.entries_perm same).map Prod.snd) ?_
  intro first inFirst second inSecond notBefore notAfter
  obtain ⟨⟨firstName, _⟩, firstThere, rfl⟩ := List.mem_map.mp inFirst
  obtain ⟨⟨secondName, _⟩, secondThere, rfl⟩ := List.mem_map.mp inSecond
  have found := (a.scenes.find?_eq_some_iff _ _).mpr firstThere
  have other := (a.scenes.find?_eq_some_iff _ _).mpr secondThere
  have names : firstName = secondName := by
    rw [← own _ _ found, ← own _ _ other]
    exact congrArg Prod.snd (rank_eq notBefore notAfter)
  subst names
  exact Option.some.inj (found.symm.trans other)

/-- The scenes by group with the keys that they are stored under. -/
def entriesInGroupOrder (script : Script) : List (String × Scene) :=
  arrange (fun a b => groupBefore a.2 b.2) script.scenes.entries

theorem entriesInGroupOrder_scenes (script : Script) :
    script.entriesInGroupOrder.map Prod.snd = script.inGroupOrder :=
  arrange_map (fun _ _ => rfl) script.scenes.entries

def keysInGroupOrder (script : Script) : List String := script.entriesInGroupOrder.map Prod.fst

/-- Keys with the ranks of their scenes. -/
def places (script : Script) : List (String × Int × String) :=
  script.scenes.entries.map fun entry => (entry.1, rank entry.2)

def placeBefore (a b : String × Int × String) : Bool := rankBefore a.2 b.2

theorem placeBefore_ranks : Ranks placeBefore := rankBefore_ranks.comap

theorem keysInGroupOrder_eq (script : Script) :
    script.keysInGroupOrder = (arrange placeBefore script.places).map Prod.fst := by
  have same : arrange placeBefore script.places =
      script.entriesInGroupOrder.map fun entry => (entry.1, rank entry.2) :=
    (arrange_map (fun a b => (groupBefore_eq a.2 b.2).symm) script.scenes.entries).symm
  rw [same, List.map_map]
  rfl

/-- The scene that a scene comes in over, if there is one, bears the name it is stored under. -/
def OverOwnName (script : Script) (scene : Scene) : Prop :=
  ∀ old, script.scenes.find? scene.name = some old → old.name = scene.name

theorem OverOwnName.override {script : Script} {scene other : Scene}
    (own : script.OverOwnName other) : (script.override scene).OverOwnName other := by
  intro old found
  rw [find?_override] at found
  split at found
  next same =>
    cases found
    rw [← same, replacement]
    split <;> rfl
  next => exact own old found

/-- One scene that comes in moves none that is there. -/
theorem override_places {script : Script} {scene : Scene} {keep : String → Bool}
    (own : script.OverOwnName scene) (known : keep scene.name → script.hasScene scene.name) :
    (script.override scene).places.filter (fun place => keep place.1) =
      script.places.filter fun place => keep place.1 := by
  cases kept : keep scene.name with
  | false =>
    have entries := Entries.filter_insert_dropped kept (script.replacement scene)
      script.scenes.entries
    simp only [places, List.filter_map]
    exact congrArg (List.map _) entries
  | true =>
    obtain ⟨old, found⟩ := Option.isSome_iff_exists.mp (known kept)
    have rank : rank (script.replacement scene) = rank old := by
      simp [replacement, found, Script.rank, Scene.copyContent, own old found]
    have same : (script.override scene).places = script.places :=
      Entries.map_insert_present found (by rw [rank])
    rw [same]

theorem overrideAll_places {script : Script} {scenes : List Scene} {keep : String → Bool}
    (own : ∀ scene ∈ scenes, script.OverOwnName scene)
    (known : ∀ name, keep name → script.hasScene name) :
    (script.overrideAll scenes).places.filter (fun place => keep place.1) =
      script.places.filter fun place => keep place.1 := by
  induction scenes generalizing script with
  | nil => rfl
  | cons scene scenes ih =>
    have first := override_places (own scene (by simp)) (known scene.name)
    have later : ∀ other ∈ scenes, (script.override scene).OverOwnName other :=
      fun other member => (own other (by simp [member])).override
    have still : ∀ name, keep name → (script.override scene).hasScene name :=
      fun name kept => by simp [hasScene_override, known name kept]
    exact (ih later still).trans first

theorem places_known (script : Script) :
    script.places.filter (fun place => script.hasScene place.1) = script.places := by
  apply List.filter_eq_self.mpr
  intro place member
  obtain ⟨entry, there, rfl⟩ := List.mem_map.mp member
  exact OrderedMap.contains_of_mem there

/-- Scenes that come in leave the others in their order. -/
theorem overrideAll_keysInGroupOrder {script : Script} {scenes : List Scene}
    (own : ∀ scene ∈ scenes, script.OverOwnName scene) :
    (script.overrideAll scenes).keysInGroupOrder.filter script.hasScene =
      script.keysInGroupOrder := by
  have places := overrideAll_places own fun _ known => known
  rw [places_known] at places
  rw [keysInGroupOrder_eq, keysInGroupOrder_eq, List.filter_map]
  apply congrArg (List.map _)
  apply (arrange_filter placeBefore_ranks _ _).trans
  exact congrArg _ places

end Script

end Libretto
