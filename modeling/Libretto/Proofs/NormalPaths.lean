import Libretto.Path

/-! Paths in normal form. A path is told by its root and by the components below it, which are
settled: walking down them from the root takes none of them off. Whatever path is normalized comes
into this form, and a path that has it stays as it is. -/
namespace Libretto.Path

theorem mem_split {part path : List Char} (member : part ∈ split path) : '/' ∉ part := by
  induction path generalizing part with
  | nil =>
    rw [List.mem_singleton.mp member]
    exact List.not_mem_nil
  | cons c rest ih =>
    by_cases slash : c = '/'
    · simp only [split, slash, if_true] at member
      rcases List.mem_cons.mp member with rfl | later
      · exact List.not_mem_nil
      · exact ih later
    · simp only [split, slash, if_false] at member
      cases tail : split rest with
      | nil =>
        rw [tail] at member
        rw [List.mem_singleton.mp member]
        simpa using Ne.symm slash
      | cons first parts =>
        rw [tail] at member ih
        rcases List.mem_cons.mp member with rfl | later
        · have plain : '/' ∉ first := ih (by simp)
          simp [Ne.symm slash, plain]
        · exact ih (by simp [later])

theorem split_of_plain {part : List Char} (plain : '/' ∉ part) : split part = [part] := by
  induction part with
  | nil => rfl
  | cons c rest ih =>
    obtain ⟨head, tail⟩ := not_or.mp (mt List.mem_cons.mpr plain)
    simp [split, Ne.symm head, ih tail]

theorem split_append {part : List Char} (plain : '/' ∉ part) (rest : List Char) :
    split (part ++ '/' :: rest) = part :: split rest := by
  induction part with
  | nil => rfl
  | cons c part ih =>
    obtain ⟨head, tail⟩ := not_or.mp (mt List.mem_cons.mpr plain)
    simp [split, Ne.symm head, ih tail]

theorem split_join {parts : List (List Char)} (written : parts ≠ [])
    (plain : ∀ part ∈ parts, '/' ∉ part) : split (join parts) = parts := by
  induction parts with
  | nil => exact absurd rfl written
  | cons part parts ih =>
    obtain ⟨head, tail⟩ := List.forall_mem_cons.mp plain
    cases parts with
    | nil => exact split_of_plain head
    | cons next parts =>
      rw [join, split_append head, ih (List.cons_ne_nil next parts) tail]
      exact List.cons_ne_nil next parts

/-- Components in reverse of which a walk from the root takes none off: names, and double dots
only where the path is relative and nothing but double dots stands before them. -/
inductive Settled (absolute : Bool) : List (List Char) → Prop
  | start : Settled absolute []
  | climb {kept : List (List Char)} (relative : absolute = false)
      (climbing : ∀ last ∈ kept.head?, last = parent) (before : Settled absolute kept) :
      Settled absolute (parent :: kept)
  | name {part : List Char} {kept : List (List Char)} (written : part ≠ []) (away : part ≠ ['.'])
      (down : part ≠ parent) (plain : '/' ∉ part) (before : Settled absolute kept) :
      Settled absolute (part :: kept)

namespace Settled
variable {absolute : Bool} {part : List Char} {kept : List (List Char)}

theorem tail (settled : Settled absolute (part :: kept)) : Settled absolute kept := by
  cases settled with
  | climb _ _ before => exact before
  | name _ _ _ _ before => exact before

theorem written (settled : Settled absolute kept) : ∀ part ∈ kept, part ≠ [] ∧ '/' ∉ part := by
  induction settled with
  | start => exact fun _ => nofun
  | climb _ _ _ ih => exact List.forall_mem_cons.mpr ⟨by decide, ih⟩
  | name written _ _ plain _ ih => exact List.forall_mem_cons.mpr ⟨⟨written, plain⟩, ih⟩

theorem step (settled : Settled absolute kept) (plain : '/' ∉ part) :
    Settled absolute (step absolute kept part) := by
  unfold Path.step
  split
  · exact settled
  next other =>
    obtain ⟨written, away⟩ := not_or.mp other
    split
    · cases settled with
      | start =>
        cases absolute with
        | true => exact .start
        | false => exact .climb rfl (by simp) .start
      | climb relative climbing before =>
        exact .climb relative (by simp) (.climb relative climbing before)
      | name _ _ down _ before =>
        simp only [down, if_false]
        exact before
    next down => exact .name written away down plain settled

theorem walk {parts : List (List Char)} (settled : Settled absolute kept)
    (plain : ∀ part ∈ parts, '/' ∉ part) :
    Settled absolute (parts.foldl (Path.step absolute) kept) := by
  induction parts generalizing kept with
  | nil => exact settled
  | cons part parts ih =>
    obtain ⟨head, rest⟩ := List.forall_mem_cons.mp plain
    exact ih (settled.step head) rest

theorem step_eq (settled : Settled absolute (part :: kept)) :
    Path.step absolute kept part = part :: kept := by
  cases settled with
  | climb relative climbing _ =>
    cases kept with
    | nil => simp [Path.step, parent, relative]
    | cons last before =>
      have same : last = parent := climbing last rfl
      simp [Path.step, parent, same]
  | name written away down _ _ => simp [Path.step, written, away, down]

/-- Walking down settled components comes to them again. -/
theorem walk_eq (settled : Settled absolute kept) :
    kept.reverse.foldl (Path.step absolute) [] = kept := by
  induction kept with
  | nil => rfl
  | cons part kept ih =>
    rw [List.reverse_cons, List.foldl_append, ih settled.tail]
    exact settled.step_eq

theorem join_head (settled : Settled absolute kept) : (join kept.reverse).head? ≠ some '/' := by
  have written : ∀ part ∈ kept.reverse, part ≠ [] ∧ '/' ∉ part := fun part member =>
    settled.written part (List.mem_reverse.mp member)
  cases parts : kept.reverse with
  | nil => exact nofun
  | cons first rest =>
    obtain ⟨filled, plain⟩ := written first (by simp [parts])
    obtain ⟨c, more, rfl⟩ := List.exists_cons_of_ne_nil filled
    have head : (join ((c :: more) :: rest)).head? = some c := by cases rest <;> rfl
    rw [head]
    rintro ⟨⟩
    exact plain (by simp)

theorem walk_join (settled : Settled absolute kept) :
    (split (join kept.reverse)).foldl (Path.step absolute) [] = kept := by
  cases kept with
  | nil => rfl
  | cons part kept =>
    rw [split_join (by simp) fun other member =>
      (settled.written other (List.mem_reverse.mp member)).2]
    exact settled.walk_eq

end Settled

/-- The roots that a path can have. -/
def roots : List (List Char) := [[], ['/'], ['/', '/']]

theorem root_mem (path : List Char) : root path ∈ roots := by
  unfold root
  split <;> simp [roots]

theorem root_append {front rest : List Char} (known : front ∈ roots)
    (below : rest.head? ≠ some '/') : root (front ++ rest) = front := by
  have other (c : Char) (more : List Char) (same : rest = c :: more) : c ≠ '/' := by
    rintro rfl
    exact below (by rw [same]; rfl)
  simp only [roots, List.mem_cons, List.not_mem_nil, or_false] at known
  cases rest with
  | nil => rcases known with rfl | rfl | rfl <;> rfl
  | cons c more => rcases known with rfl | rfl | rfl <;> simp [root, other c more rfl]

/-- The slashes of the root are passed over. -/
theorem walk_root {front : List Char} (known : front ∈ roots) (absolute : Bool)
    (rest : List Char) : (split (front ++ rest)).foldl (step absolute) [] =
      (split rest).foldl (step absolute) [] := by
  simp only [roots, List.mem_cons, List.not_mem_nil, or_false] at known
  rcases known with rfl | rfl | rfl <;> simp [split, step]

/-- A path in normal form: a root and settled components below it, or a single dot where there
is neither. -/
inductive Normal : List Char → Prop
  | here : Normal ['.']
  | below {front : List Char} {kept : List (List Char)} (known : front ∈ roots)
      (settled : Settled (!front.isEmpty) kept) (written : front ++ join kept.reverse ≠ []) :
      Normal (front ++ join kept.reverse)

theorem Normal.ne_nil {path : List Char} (normal : Normal path) : path ≠ [] := by
  cases normal with
  | here => exact List.cons_ne_nil _ _
  | below _ _ written => exact written

theorem normalChars_normal (path : List Char) : Normal (normalChars path) := by
  have settled : Settled (!(root path).isEmpty)
      ((split path).foldl (step !(root path).isEmpty) []) :=
    .walk .start fun part member => mem_split member
  unfold normalChars
  dsimp only
  split
  · exact .here
  next written => exact .below (root_mem path) settled written

theorem normalChars_of_normal {path : List Char} (normal : Normal path) :
    normalChars path = path := by
  cases normal with
  | here => decide
  | below known settled written =>
    unfold normalChars
    dsimp only
    rw [root_append known settled.join_head, walk_root known, settled.walk_join]
    split
    next empty => exact absurd empty written
    · rfl

theorem normal_normal (path : String) : normal (normal path) = normal path := by
  unfold normal
  rw [String.toList_ofList, normalChars_of_normal (normalChars_normal path.toList)]

/-- The path of an input is one that stays as it is when it is taken for the path of an input. -/
theorem input?_input? (path : Option String) : input? (input? path) = input? path := by
  cases path with
  | none => rfl
  | some path =>
    by_cases empty : path.isEmpty
    · simp [input?, empty]
    · have written : (normal path).isEmpty = false := by
        have := (normalChars_normal path.toList).ne_nil
        simpa [normal] using this
      simp [input?, empty, written, normal_normal]

end Libretto.Path
