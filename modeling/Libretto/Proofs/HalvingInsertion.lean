import Libretto.Proofs.DocumentedScenes

/-! The place of a new line found by halving. Behind its equals is where sorted insertion puts an
element, and a search that halves finds that place in a list that is in order already. A scene
is kept in order from its first line on, so the two never part, and what they make is the stable
sort of the lines that were added. -/
namespace Libretto
variable {before : α → α → Bool}

/-- How many elements `x` goes behind, if it goes behind the first `low` of them and before the
one at `high` and all later ones. -/
def halve (before : α → α → Bool) (x : α) (xs : List α) (low high : Nat) : Nat :=
  if low < high then
    let middle := (low + high) / 2
    if xs[middle]?.any (before x) then halve before x xs low middle
    else halve before x xs (middle + 1) high
  else low
termination_by high - low

/-- Puts an element where halving finds its place. -/
def placeByHalving (before : α → α → Bool) (x : α) (xs : List α) : List α :=
  xs.insertIdx (halve before x xs 0 xs.length) x

/-- Between the elements that do not come after `x` and those that do. -/
structure Parts (before : α → α → Bool) (x : α) (xs : List α) (low high : Nat) : Prop where
  ordered : low ≤ high
  within : high ≤ xs.length
  early : ∀ i y, i < low → xs[i]? = some y → before x y = false
  late : ∀ i y, high ≤ i → xs[i]? = some y → before x y = true

theorem Arranged.at_most {xs : List α} (ranks : Ranks before) (arranged : Arranged before xs)
    {i j : Nat} {y z : α} (first : xs[i]? = some y) (second : xs[j]? = some z) (le : i ≤ j) :
    before z y = false := by
  obtain ⟨inFirst, rfl⟩ := List.getElem?_eq_some_iff.mp first
  obtain ⟨inSecond, rfl⟩ := List.getElem?_eq_some_iff.mp second
  rcases Nat.eq_or_lt_of_le le with rfl | lt
  · exact ranks.irrefl _
  · exact List.pairwise_iff_getElem.mp arranged i j inFirst inSecond lt

/-- Each half of the search keeps the two parts apart, and the search ends where they meet. -/
theorem Parts.halve {x : α} {xs : List α} {low high : Nat} (ranks : Ranks before)
    (arranged : Arranged before xs) (parts : Parts before x xs low high) :
    Parts before x xs (halve before x xs low high) (halve before x xs low high) := by
  fun_induction Libretto.halve before x xs low high with
  | case1 low high more middle first ih =>
    have inside : middle < xs.length := by have := parts.within; omega
    have found : xs[middle]? = some xs[middle] := List.getElem?_eq_getElem inside
    have ahead : before x xs[middle] = true := by simpa [found] using first
    refine ih ⟨by omega, by omega, parts.early, fun i y later there => ?_⟩
    cases behind : before x y with
    | true => rfl
    | false =>
      have none := ranks.trans (arranged.at_most ranks found there later) behind
      exact none.symm.trans ahead
  | case2 low high more middle last ih =>
    refine ih ⟨by omega, parts.within, fun i y sooner there => ?_, parts.late⟩
    have inside : middle < xs.length := by have := parts.within; omega
    have found : xs[middle]? = some xs[middle] := List.getElem?_eq_getElem inside
    have behind : before x xs[middle] = false := by simpa [found] using last
    exact ranks.trans (arranged.at_most ranks there found (by omega)) behind
  | case3 low high done =>
    have met : low = high := by have := parts.ordered; omega
    subst met
    exact parts

/-- Where the parts meet is where insertion puts the element. -/
theorem place_eq_insertIdx {x : α} {xs : List α} {middle : Nat}
    (parts : Parts before x xs middle middle) : place before x xs = xs.insertIdx middle x := by
  induction xs generalizing middle with
  | nil =>
    have zero : middle = 0 := Nat.le_zero.mp parts.within
    subst zero
    rfl
  | cons y ys ih =>
    cases middle with
    | zero =>
      have first : before x y = true := parts.late 0 y (Nat.le_refl 0) rfl
      simp [place, first]
    | succ middle =>
      have first : before x y = false := parts.early 0 y (Nat.succ_pos middle) rfl
      have rest : Parts before x ys middle middle := by
        refine ⟨Nat.le_refl _, Nat.le_of_succ_le_succ parts.within, ?_, ?_⟩
        · exact fun i z sooner there => parts.early (i + 1) z (Nat.succ_lt_succ sooner) there
        · exact fun i z later there => parts.late (i + 1) z (Nat.succ_le_succ later) there
      simp [place, first, ih rest]

theorem placeByHalving_eq_place (ranks : Ranks before) (x : α) {xs : List α}
    (arranged : Arranged before xs) : placeByHalving before x xs = place before x xs := by
  have start : Parts before x xs 0 xs.length := by
    refine ⟨Nat.zero_le _, Nat.le_refl _, fun i y none => absurd none (Nat.not_lt_zero i), ?_⟩
    intro i y beyond there
    rw [List.getElem?_eq_none beyond] at there
    cases there
  exact (place_eq_insertIdx (start.halve ranks arranged)).symm

/-- A call that gives a scene one more line. -/
inductive LineCall
  | line (frame : Int) (text speaker : String) (offscreen : Bool)
  | clear (frame : Int)

def LineCall.added : LineCall → Line
  | line frame text speaker offscreen => ⟨frame, text, speaker, offscreen⟩
  | clear frame => .clear frame

namespace Scene

/-- A scene after calls. -/
def after (scene : Scene) (calls : List LineCall) : Scene :=
  calls.foldl (fun scene call => scene.add call.added) scene

/-- A scene with one more line where halving finds its place. -/
def addByHalving (scene : Scene) (line : Line) : Scene :=
  { scene with lines := placeByHalving Line.before line scene.lines }

/-- Scenes that have got their lines by calls alone, or from such a scene. -/
inductive Told : Scene → Prop
  | new (name : String) (kind : SceneKind) (id : Int) : Told { name, kind, id }
  | emptied (scene : Scene) : Told scene.clearLines
  | copied (scene : Scene) {other : Scene} (told : Told other) : Told (scene.copyContent other)
  | add {scene : Scene} (told : Told scene) (call : LineCall) : Told (scene.add call.added)

theorem after_eq (scene : Scene) (calls : List LineCall) :
    scene.after calls = scene.addAll (calls.map LineCall.added) := by
  rw [after, addAll, List.foldl_map]

theorem Told.arranged {scene : Scene} (told : scene.Told) :
    Arranged Line.before scene.lines := by
  induction told with
  | new => exact .nil
  | emptied => exact .nil
  | copied scene _ ih => exact ih
  | add _ call ih => exact place_arranged Line.before_ranks call.added _ ih

/-- What is in order already counts as added first. -/
theorem Told.after_lines {scene : Scene} (told : scene.Told) (calls : List LineCall) :
    (scene.after calls).lines = byFrame (scene.lines ++ calls.map LineCall.added) := by
  rw [after_eq, addAll_eq, ← arrange_eq_byFrame, arrange, List.foldl_append]
  exact congrArg (List.foldl _ · _) (arrange_of_arranged scene.lines told.arranged).symm

theorem Told.addByHalving {scene : Scene} (told : scene.Told) (line : Line) :
    scene.addByHalving line = scene.add line := by
  rw [Scene.addByHalving, placeByHalving_eq_place Line.before_ranks line told.arranged]
  rfl

theorem Told.afterByHalving {scene : Scene} (told : scene.Told) (calls : List LineCall) :
    calls.foldl (fun scene call => scene.addByHalving call.added) scene = scene.after calls := by
  induction calls generalizing scene with
  | nil => rfl
  | cons call calls ih =>
    rw [List.foldl_cons, told.addByHalving]
    exact ih (told.add call)

/-- The lines of a scene are the stable sort by frame of the lines that were added, in the order
in which they were added since it was new or was emptied, and behind those of another scene when
it has taken that one over. Halving finds the place of every single one. -/
theorem added_lines_are_sorted_stably (calls : List LineCall) :
    (∀ name kind id, (Scene.after { name, kind, id } calls).lines =
      byFrame (calls.map LineCall.added)) ∧
    (∀ scene : Scene, (scene.clearLines.after calls).lines =
      byFrame (calls.map LineCall.added)) ∧
    (∀ scene other : Scene, other.Told → ((scene.copyContent other).after calls).lines =
      byFrame (other.lines ++ calls.map LineCall.added)) ∧
    ∀ scene : Scene, scene.Told →
      calls.foldl (fun scene call => scene.addByHalving call.added) scene = scene.after calls := by
  refine ⟨fun name kind id => ?_, fun scene => ?_, fun scene other told => ?_, fun scene told => ?_⟩
  · exact (Told.new name kind id).after_lines calls
  · exact (Told.emptied scene).after_lines calls
  · exact (told.copied scene).after_lines calls
  · exact told.afterByHalving calls

/-- Lines of one frame come to a scene that takes over another one with such a line. -/
theorem lines_of_one_frame_stay_behind_copied_ones :
    let other := Scene.after { name := "a" } [.line 5 "first" "" false, .clear 2]
    let calls := [.line 5 "second" "" false, .clear 2, .line 0 "start" "jak" true]
    let scene := (Scene.copyContent { name := "b" } other).after calls
    other.Told ∧ scene.lines = byFrame (other.lines ++ calls.map LineCall.added) ∧
      scene.lines = [⟨0, "start", "jak", true⟩, .clear 2, .clear 2, ⟨5, "first", "", false⟩,
        ⟨5, "second", "", false⟩] ∧
      calls.foldl (fun scene call => scene.addByHalving call.added)
        (Scene.copyContent { name := "b" } other) = scene := by
  intro other calls scene
  have told : other.Told := .add (.add (.new "a" .movie 0) (.line 5 "first" "" false)) (.clear 2)
  obtain ⟨-, -, copied, halving⟩ := added_lines_are_sorted_stably calls
  exact ⟨told, copied { name := "b" } other told, by decide, halving _ (.copied _ told)⟩

end Scene

end Libretto
