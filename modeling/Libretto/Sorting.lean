/-! Sorted insertion into lists. An element goes behind its equals, so a list that is
filled element by element keeps equals in the order they arrived. -/
namespace Libretto

/-- Puts an element before the first one that has to come after it. -/
def place (before : α → α → Bool) (x : α) : List α → List α
  | [] => [x]
  | y :: ys => if before x y then x :: y :: ys else y :: place before x ys

/-- The elements in order, equals as they stood. -/
def arrange (before : α → α → Bool) (xs : List α) : List α :=
  xs.foldl (fun sorted x => place before x sorted) []

theorem place_perm (before : α → α → Bool) (x : α) (xs : List α) :
    (place before x xs).Perm (x :: xs) := by
  induction xs with
  | nil => exact .refl _
  | cons y ys ih =>
    simp only [place]
    split
    · exact .refl _
    · exact (ih.cons y).trans (.swap x y ys)

theorem foldl_place_perm (before : α → α → Bool) (xs sorted : List α) :
    (xs.foldl (fun sorted x => place before x sorted) sorted).Perm (sorted ++ xs) := by
  induction xs generalizing sorted with
  | nil => simp
  | cons x xs ih =>
    refine (ih _).trans ?_
    have step := (place_perm before x sorted).append_right xs
    exact step.trans List.perm_middle.symm

theorem arrange_perm (before : α → α → Bool) (xs : List α) : (arrange before xs).Perm xs := by
  simpa [arrange] using foldl_place_perm before xs []

@[simp] theorem mem_arrange (before : α → α → Bool) (xs : List α) (x : α) :
    x ∈ arrange before xs ↔ x ∈ xs :=
  (arrange_perm before xs).mem_iff

end Libretto
