import Libretto.Sorting

/-! What sorted insertion makes of a list. `Arranged` does not say that the elements rise,
only that none stands before one that has to come first, so equals are free. -/
namespace Libretto
variable {before : α → α → Bool}

def Arranged (before : α → α → Bool) (xs : List α) : Prop :=
  xs.Pairwise fun a b => before b a = false

/-- The order of a rank that several elements may have. -/
structure Ranks (before : α → α → Bool) : Prop where
  asymm : ∀ {a b}, before a b = true → before b a = false
  trans : ∀ {a b c}, before b a = false → before c b = false → before c a = false

/-- The order that a key induces. -/
theorem Ranks.comap {key : β → α} (ranks : Ranks before) :
    Ranks fun a b => before (key a) (key b) :=
  ⟨fun first => ranks.asymm first, fun first second => ranks.trans first second⟩

@[simp] theorem mem_place (x y : α) (xs : List α) :
    y ∈ place before x xs ↔ y = x ∨ y ∈ xs := by
  rw [(place_perm before x xs).mem_iff, List.mem_cons]

theorem place_arranged (ranks : Ranks before) (x : α) (xs : List α)
    (arranged : Arranged before xs) : Arranged before (place before x xs) := by
  induction xs with
  | nil => simp [place, Arranged]
  | cons y ys ih =>
    obtain ⟨first, rest⟩ := List.pairwise_cons.mp arranged
    simp only [place]
    split
    next earlier =>
      have head := ranks.asymm earlier
      refine List.pairwise_cons.mpr ⟨fun z member => ?_, arranged⟩
      rcases List.mem_cons.mp member with rfl | later
      · exact head
      · exact ranks.trans head (first z later)
    next late =>
      refine List.pairwise_cons.mpr ⟨fun z member => ?_, ih rest⟩
      rcases (mem_place x z ys).mp member with rfl | later
      · exact Bool.eq_false_iff.mpr late
      · exact first z later

theorem foldl_place_arranged (ranks : Ranks before) (xs sorted : List α)
    (arranged : Arranged before sorted) :
    Arranged before (xs.foldl (fun sorted x => place before x sorted) sorted) := by
  induction xs generalizing sorted with
  | nil => exact arranged
  | cons x xs ih => exact ih _ (place_arranged ranks x sorted arranged)

theorem arrange_arranged (ranks : Ranks before) (xs : List α) :
    Arranged before (arrange before xs) := foldl_place_arranged ranks xs [] .nil

/-- An element that comes after no other goes to the end. -/
theorem place_last (x : α) (xs : List α) (last : ∀ y ∈ xs, before x y = false) :
    place before x xs = xs ++ [x] := by
  induction xs with
  | nil => rfl
  | cons y ys ih =>
    simp [place, last y (by simp), ih fun z member => last z (by simp [member])]

/-- An element that comes before all others goes to the front. -/
theorem place_first (x : α) (xs : List α) (first : ∀ y ∈ xs, before x y = true) :
    place before x xs = x :: xs := by
  cases xs with
  | nil => rfl
  | cons y ys => simp [place, first y (by simp)]

theorem foldl_place_append (xs sorted : List α) (arranged : Arranged before (sorted ++ xs)) :
    xs.foldl (fun sorted x => place before x sorted) sorted = sorted ++ xs := by
  induction xs generalizing sorted with
  | nil => simp
  | cons x xs ih =>
    have last : ∀ y ∈ sorted, before x y = false := fun y member =>
      (List.pairwise_append.mp arranged).2.2 y member x (by simp)
    rw [List.foldl_cons, place_last x sorted last, ih _ (by simpa using arranged)]
    simp

theorem arrange_of_arranged (xs : List α) (arranged : Arranged before xs) :
    arrange before xs = xs := foldl_place_append xs [] arranged

/-- Without two elements of one rank there is one order only. -/
theorem arrange_perm_eq (ranks : Ranks before) {xs ys : List α} (perm : xs.Perm ys)
    (apart : ∀ x ∈ xs, ∀ y ∈ xs, before x y = false → before y x = false → x = y) :
    arrange before xs = arrange before ys := by
  have same : (arrange before xs).Perm (arrange before ys) :=
    (arrange_perm before xs).trans (perm.trans (arrange_perm before ys).symm)
  refine same.eq_of_pairwise ?_ (arrange_arranged ranks xs) (arrange_arranged ranks ys)
  intro x y inFirst inSecond later earlier
  rw [mem_arrange] at inFirst inSecond
  exact apart x inFirst y (perm.mem_iff.mpr inSecond) earlier later

/-- Of two elements of a list one stands before the other. -/
theorem pair_sublist_or {a b : α} {xs : List α} (inFirst : a ∈ xs) (inSecond : b ∈ xs)
    (apart : a ≠ b) : [a, b].Sublist xs ∨ [b, a].Sublist xs := by
  induction xs with
  | nil => cases inFirst
  | cons x xs ih =>
    rcases List.mem_cons.mp inFirst with rfl | firstLater
    · have later := (List.mem_cons.mp inSecond).resolve_left apart.symm
      exact .inl ((List.singleton_sublist.mpr later).cons_cons a)
    · rcases List.mem_cons.mp inSecond with rfl | secondLater
      · exact .inr ((List.singleton_sublist.mpr firstLater).cons_cons b)
      · exact (ih firstLater secondLater).imp (.cons x) (.cons x)

/-- Without two elements of one rank the order says which of two stands before the other. -/
theorem pair_sublist_iff (ranks : Ranks before) {a b : α} {xs : List α} (distinct : xs.Nodup)
    (arranged : Arranged before xs)
    (apart : ∀ x ∈ xs, ∀ y ∈ xs, before x y = false → before y x = false → x = y)
    (inFirst : a ∈ xs) (inSecond : b ∈ xs) : [a, b].Sublist xs ↔ before a b = true := by
  have notBefore {x y : α} (placed : [x, y].Sublist xs) : before y x = false := by
    have pair : Arranged before [x, y] := List.Pairwise.sublist placed arranged
    simpa [Arranged] using pair
  constructor
  · intro placed
    have different : a ≠ b := List.pairwise_pair.mp (distinct.sublist placed)
    rw [← Bool.not_eq_false]
    exact fun late => different (apart a inFirst b inSecond late (notBefore placed))
  · intro first
    have different : a ≠ b := by
      rintro rfl
      rw [ranks.asymm first] at first
      cases first
    refine (pair_sublist_or inFirst inSecond different).resolve_right fun placed => ?_
    rw [notBefore placed] at first
    cases first

/-- What is left out has no part in where the others go. -/
theorem place_filter (ranks : Ranks before) (keep : α → Bool) (x : α) (xs : List α)
    (arranged : Arranged before xs) : (place before x xs).filter keep =
      if keep x then place before x (xs.filter keep) else xs.filter keep := by
  induction xs with
  | nil => cases kept : keep x <;> simp [place, kept]
  | cons y ys ih =>
    obtain ⟨first, rest⟩ := List.pairwise_cons.mp arranged
    cases earlier : before x y with
    | true =>
      have all : ∀ z ∈ y :: ys, before x z = true := by
        intro z member
        rcases List.mem_cons.mp member with rfl | later
        · exact earlier
        · rw [← Bool.not_eq_false]
          intro late
          rw [ranks.trans (first z later) late] at earlier
          cases earlier
      have front : place before x ((y :: ys).filter keep) = x :: (y :: ys).filter keep :=
        place_first x _ fun z member => all z (List.mem_filter.mp member).1
      rw [place_first x _ all, front, List.filter_cons]
    | false =>
      have past : place before x (y :: ys) = y :: place before x ys := by simp [place, earlier]
      rw [past, List.filter_cons, ih rest, List.filter_cons]
      cases keep y <;> cases keep x <;> simp [place, earlier]

theorem foldl_place_filter (ranks : Ranks before) (keep : α → Bool) (xs sorted : List α)
    (arranged : Arranged before sorted) :
    (xs.foldl (fun sorted x => place before x sorted) sorted).filter keep =
      (xs.filter keep).foldl (fun sorted x => place before x sorted) (sorted.filter keep) := by
  induction xs generalizing sorted with
  | nil => rfl
  | cons x xs ih =>
    rw [List.foldl_cons, ih _ (place_arranged ranks x sorted arranged),
      place_filter ranks keep x sorted arranged]
    cases kept : keep x <;> simp [kept]

theorem arrange_filter (ranks : Ranks before) (keep : α → Bool) (xs : List α) :
    (arrange before xs).filter keep = arrange before (xs.filter keep) :=
  foldl_place_filter ranks keep xs [] .nil

/-- Neither element has to come first. -/
def tied (before : α → α → Bool) (a b : α) : Bool := !before a b && !before b a

theorem Ranks.irrefl (ranks : Ranks before) (a : α) : before a a = false := by
  cases first : before a a with
  | false => rfl
  | true => exact first.symm.trans (ranks.asymm first)

/-- Orders of the same elements are one if those of each rank come alike: what stands first in
them is of the least rank. -/
theorem arranged_ext (ranks : Ranks before) {xs ys : List α} (first : Arranged before xs)
    (second : Arranged before ys)
    (same : ∀ a, xs.filter (tied before a) = ys.filter (tied before a)) : xs = ys := by
  have among {xs ys : List α} (same : ∀ a, xs.filter (tied before a) = ys.filter (tied before a))
      {a : α} (member : a ∈ xs) : a ∈ ys := by
    have kept : a ∈ xs.filter (tied before a) := by simp [tied, member, ranks.irrefl]
    rw [same] at kept
    exact (List.mem_filter.mp kept).1
  induction xs generalizing ys with
  | nil =>
    cases ys with
    | nil => rfl
    | cons y ys => cases among (fun a => (same a).symm) (List.mem_cons_self : y ∈ y :: ys)
  | cons x xs ih =>
    cases ys with
    | nil => cases among same (List.mem_cons_self : x ∈ x :: xs)
    | cons y ys =>
      obtain ⟨least, rest⟩ := List.pairwise_cons.mp first
      obtain ⟨other, more⟩ := List.pairwise_cons.mp second
      have inSecond : x ∈ y :: ys := among same List.mem_cons_self
      have inFirst : y ∈ x :: xs := among (fun a => (same a).symm) List.mem_cons_self
      have early : before x y = false := by
        rcases List.mem_cons.mp inSecond with rfl | later
        · exact ranks.irrefl x
        · exact other x later
      have late : before y x = false := by
        rcases List.mem_cons.mp inFirst with rfl | later
        · exact ranks.irrefl y
        · exact least y later
      have heads := same x
      simp only [tied, ranks.irrefl, early, late, Bool.not_false, Bool.and_self,
        List.filter_cons_of_pos, List.cons.injEq] at heads
      obtain ⟨rfl, -⟩ := heads
      congr 1
      refine ih rest more fun a => ?_
      have tails := same a
      rw [List.filter_cons, List.filter_cons] at tails
      split at tails
      · exact List.tail_eq_of_cons_eq tails
      · exact tails

/-- Sorted insertion is the stable sort. -/
theorem arrange_eq_mergeSort (ranks : Ranks before) (xs : List α) :
    arrange before xs = xs.mergeSort fun a b => !before b a := by
  have trans (a b c : α) : (!before b a) = true → (!before c b) = true → (!before c a) = true := by
    simpa using ranks.trans
  have total (a b : α) : ((!before b a) || !before a b) = true := by
    cases first : before b a with
    | false => rfl
    | true => simp [ranks.asymm first]
  have sorted : Arranged before (xs.mergeSort fun a b => !before b a) := by
    simpa [Arranged] using List.pairwise_mergeSort trans total xs
  refine arranged_ext ranks (arrange_arranged ranks xs) sorted fun a => ?_
  have level : Arranged before (xs.filter (tied before a)) := by
    refine List.pairwise_of_forall_mem_list fun b inFirst c inSecond => ?_
    have first := (List.mem_filter.mp inFirst).2
    have second := (List.mem_filter.mp inSecond).2
    simp only [tied, Bool.and_eq_true, Bool.not_eq_true'] at first second
    exact ranks.trans first.1 second.2
  have kept : (xs.filter (tied before a)).Sublist (xs.mergeSort fun a b => !before b a) :=
    List.sublist_mergeSort trans total (by simpa [Arranged] using level) List.filter_sublist
  have whole := kept.filter (tied before a)
  rw [List.filter_filter] at whole
  simp only [Bool.and_self] at whole
  rw [arrange_filter ranks, arrange_of_arranged _ level]
  exact whole.eq_of_length ((List.mergeSort_perm xs _).symm.filter _).length_eq

/-- Lists are arranged alike when their elements correspond in rank. -/
theorem place_map {other : β → β → Bool} {f : α → β}
    (same : ∀ a b, other (f a) (f b) = before a b) (x : α) (xs : List α) :
    (place before x xs).map f = place other (f x) (xs.map f) := by
  induction xs with
  | nil => rfl
  | cons y ys ih =>
    simp only [place, List.map_cons, same]
    split
    · rfl
    · rw [List.map_cons, ih]

theorem arrange_map {other : β → β → Bool} {f : α → β}
    (same : ∀ a b, other (f a) (f b) = before a b) (xs : List α) :
    (arrange before xs).map f = arrange other (xs.map f) := by
  have fold (sorted : List α) :
      (xs.foldl (fun sorted x => place before x sorted) sorted).map f =
        (xs.map f).foldl (fun sorted x => place other x sorted) (sorted.map f) := by
    induction xs generalizing sorted with
    | nil => rfl
    | cons x xs ih => rw [List.foldl_cons, ih, place_map same, List.map_cons, List.foldl_cons]
  exact fold []

end Libretto
