import Libretto.Edit

/-! What is known of an edit whatever state it starts from: the result that it yields, and
what it spares. `Spares` follows the structure of a program down to its reports; `FailsLeaving`
needs it only up to the first change, and answers for what a fault leaves of those that follow. -/
namespace Libretto

/-- A change of a store, as its audience hears of it. All other events are reports. -/
def Event.isChange : Event → Bool
  | .report _ => false
  | _ => true

def changes (journal : List Entry) : List Event := (events journal).filter Event.isChange

@[simp] theorem changes_nil : changes [] = [] := rfl

@[simp] theorem changes_log (notice : Notice) (journal : List Entry) :
    changes (.log notice :: journal) = changes journal := rfl

@[simp] theorem changes_append (first later : List Entry) :
    changes (first ++ later) = changes first ++ changes later := by
  simp [changes, events]

@[simp] theorem changes_reportTo (audience : Option Audience) (notice : Notice) :
    changes (reportTo audience notice) = [] := by
  rcases audience with _ | ⟨recorder, loggers⟩
  · rfl
  · cases recorder <;> cases loggers <;> rfl

/-- A value that there is only if an integer can be written. -/
def written (number : Int) (value : α) : Except Fault α :=
  if Numeral.isWritable number then .ok value else .error .unwritableInteger

theorem written_ok {number : Int} (writable : Numeral.isWritable number = true) (value : α) :
    written number value = .ok value := if_pos writable

theorem written_error {number : Int} (huge : Numeral.isWritable number = false) (value : α) :
    written number value = .error .unwritableInteger := if_neg (Bool.eq_false_iff.mp huge)

theorem written_eq_ok {number : Int} {value result : α}
    (done : written number value = .ok result) :
    Numeral.isWritable number = true ∧ result = value := by
  unfold written at done
  split at done
  next writable =>
    cases done
    exact ⟨writable, rfl⟩
  next => cases done

theorem written_eq_error {number : Int} {value : α} {fault : Fault}
    (failed : written number value = .error fault) :
    Numeral.isWritable number = false ∧ fault = .unwritableInteger := by
  cases writable : Numeral.isWritable number with
  | true =>
    rw [written_ok writable] at failed
    cases failed
  | false =>
    rw [written_error writable] at failed
    cases failed
    exact ⟨rfl, rfl⟩

theorem written_written (number : Int) (value : α) :
    (written number value).bind (written number) = written number value := by
  cases writable : Numeral.isWritable number with
  | true => simp only [written_ok writable, Except.bind]
  | false => simp only [written_error writable, Except.bind]

theorem map_written (f : α → β) (number : Int) (value : α) :
    (written number value).map f = written number (f value) := by
  unfold written
  split <;> rfl

/-- The first number that is too long to be written. -/
theorem Numeral.isWritable_bound : isWritable (Nat.pow 10 decimalLimit) = false := by
  rw [isWritable, Int.natAbs_natCast]
  exact decide_eq_false (Nat.lt_irrefl _)

/-- What goes on after a result has got one. -/
theorem bind_ok {first : Except ε α} {next : α → Except ε β} {result : β}
    (done : (first >>= next) = .ok result) :
    ∃ value, first = .ok value ∧ next value = .ok result := by
  cases first with
  | error fault => cases done
  | ok value => exact ⟨value, rfl, done⟩

theorem map_ok {f : α → β} {first : Except ε α} {result : β}
    (done : first.map f = .ok result) : ∃ value, first = .ok value ∧ f value = result := by
  cases first with
  | error fault => cases done
  | ok value => exact ⟨value, rfl, Except.ok.inj done⟩

theorem ok_of_toBool {result : Except ε α} (done : result.toBool = true) :
    ∃ value, result = .ok value := by
  cases result with
  | error fault => cases done
  | ok value => exact ⟨value, rfl⟩

theorem ok_of_toOption {result : Except ε α} {value : α} (done : result.toOption = some value) :
    result = .ok value := by
  cases result with
  | error fault => cases done
  | ok other => exact congrArg Except.ok (Option.some.inj done)

theorem error_of_toBool {result : Except ε α} (failed : result.toBool = false) :
    ∃ fault, result = .error fault := by
  cases result with
  | error fault => exact ⟨fault, rfl⟩
  | ok value => cases failed

theorem mapError_ok_iff {ε ε' α : Type} {first : Except ε α} {f : ε → ε'} {value : α} :
    first.mapError f = .ok value ↔ first = .ok value := by
  cases first with
  | error fault => constructor <;> rintro ⟨⟩
  | ok result =>
    constructor
    · rintro ⟨⟩
      rfl
    · rintro ⟨⟩
      rfl

/-! Lists of results: of those that succeed as a whole, each comes from its own item. -/

theorem mapM_ok_of_each {f : α → Except ε β} {g : α → β} {items : List α}
    (each : ∀ item ∈ items, f item = .ok (g item)) : items.mapM f = .ok (items.map g) := by
  induction items with
  | nil => rfl
  | cons item items ih =>
    rw [List.mapM_cons, each item (by simp), ih fun other member => each other (by simp [member])]
    rfl

theorem foldlM_ok_of_each {step : β → α → Except ε β} {next : β → α → β} {items : List α}
    (each : ∀ value, ∀ item ∈ items, step value item = .ok (next value item)) (start : β) :
    items.foldlM step start = .ok (items.foldl next start) := by
  induction items generalizing start with
  | nil => rfl
  | cons item items ih =>
    rw [List.foldlM_cons, each start item (by simp)]
    exact ih (fun value other member => each value other (by simp [member])) _

theorem mapM_ok_cons {f : α → Except ε β} {item : α} {items : List α} {results : List β}
    (done : (item :: items).mapM f = .ok results) :
    ∃ result rest, f item = .ok result ∧ items.mapM f = .ok rest ∧ results = result :: rest := by
  rw [List.mapM_cons] at done
  obtain ⟨result, head, more⟩ := bind_ok done
  obtain ⟨rest, tail, same⟩ := bind_ok more
  cases same
  exact ⟨result, rest, head, tail, rfl⟩

theorem mapM_cons_ok {f : α → Except ε β} {item : α} {items : List α} {result : β}
    {results : List β} (head : f item = .ok result) (tail : items.mapM f = .ok results) :
    (item :: items).mapM f = .ok (result :: results) := by
  rw [List.mapM_cons, head, tail]
  rfl

/-- Items in another order succeed as well, with their results in that order. -/
theorem mapM_ok_perm {f : α → Except ε β} {items others : List α} {results : List β}
    (perm : items.Perm others) (done : items.mapM f = .ok results) :
    ∃ more, others.mapM f = .ok more ∧ results.Perm more := by
  induction perm generalizing results with
  | nil =>
    cases done
    exact ⟨[], rfl, .nil⟩
  | cons item _ ih =>
    obtain ⟨first, rest, head, tail, rfl⟩ := mapM_ok_cons done
    obtain ⟨more, others, perm⟩ := ih tail
    exact ⟨first :: more, mapM_cons_ok head others, perm.cons first⟩
  | swap item other items =>
    obtain ⟨first, rest, head, tail, rfl⟩ := mapM_ok_cons done
    obtain ⟨second, last, next, others, rfl⟩ := mapM_ok_cons tail
    exact ⟨_, mapM_cons_ok next (mapM_cons_ok head others), .swap ..⟩
  | trans _ _ ihFirst ihSecond =>
    obtain ⟨between, middle, first⟩ := ihFirst done
    obtain ⟨more, last, second⟩ := ihSecond middle
    exact ⟨more, last, first.trans second⟩

/-- Steps that each begin with a result of their own may get all results first. -/
theorem foldlM_ok_iff {f : α → Except ε β} {step : γ → β → Except ε γ} {items : List α}
    {start last : γ} :
    items.foldlM (fun value item => f item >>= step value) start = .ok last ↔
      ∃ results, items.mapM f = .ok results ∧ results.foldlM step start = .ok last := by
  induction items generalizing start with
  | nil =>
    constructor
    · exact fun done => ⟨[], rfl, done⟩
    · rintro ⟨_, ⟨⟩, done⟩
      exact done
  | cons item items ih =>
    rw [List.foldlM_cons]
    constructor
    · intro done
      obtain ⟨value, stepped, rest⟩ := bind_ok done
      obtain ⟨result, head, next⟩ := bind_ok stepped
      obtain ⟨results, tail, folded⟩ := ih.mp rest
      refine ⟨result :: results, mapM_cons_ok head tail, ?_⟩
      rw [List.foldlM_cons, next]
      exact folded
    · rintro ⟨results, done, folded⟩
      obtain ⟨result, rest, head, tail, rfl⟩ := mapM_ok_cons done
      rw [List.foldlM_cons] at folded
      obtain ⟨value, next, last⟩ := bind_ok folded
      rw [head]
      change step start result >>= _ = _
      rw [next]
      exact ih.mpr ⟨rest, tail, last⟩

theorem mapM_ok_origin {f : α → Except ε β} {items : List α} {results : List β}
    (done : items.mapM f = .ok results) :
    ∀ result ∈ results, ∃ item ∈ items, f item = .ok result := by
  induction items generalizing results with
  | nil => cases done; simp
  | cons item items ih =>
    obtain ⟨first, rest, head, tail, rfl⟩ := mapM_ok_cons done
    intro result member
    rcases List.mem_cons.mp member with rfl | later
    · exact ⟨item, by simp, head⟩
    · obtain ⟨other, there, made⟩ := ih tail result later
      exact ⟨other, by simp [there], made⟩

theorem mapM_error_origin {f : α → Except ε β} {items : List α} {fault : ε}
    (failed : items.mapM f = .error fault) : ∃ item ∈ items, f item = .error fault := by
  induction items with
  | nil => cases failed
  | cons item items ih =>
    cases head : f item with
    | error own =>
      rw [List.mapM_cons, head] at failed
      cases failed
      exact ⟨item, by simp, head⟩
    | ok result =>
      cases tail : items.mapM f with
      | error later =>
        rw [List.mapM_cons, head, tail] at failed
        cases failed
        obtain ⟨other, there, same⟩ := ih tail
        exact ⟨other, by simp [there], same⟩
      | ok results =>
        rw [mapM_cons_ok head tail] at failed
        cases failed

/-- A feature that each item hands on to its result is handed on by the list. -/
theorem mapM_ok_image {f : α → Except ε β} {feature : α → γ} {image : β → γ} {items : List α}
    {results : List β} (done : items.mapM f = .ok results)
    (each : ∀ item result, f item = .ok result → image result = feature item) :
    results.map image = items.map feature := by
  induction items generalizing results with
  | nil => cases done; rfl
  | cons item items ih =>
    obtain ⟨first, rest, head, tail, rfl⟩ := mapM_ok_cons done
    rw [List.map_cons, List.map_cons, each item first head, ih tail]

theorem mapM_ok_each {f : α → Except ε β} {items : List α} {results : List β}
    (done : items.mapM f = .ok results) :
    ∀ item ∈ items, ∃ result ∈ results, f item = .ok result := by
  induction items generalizing results with
  | nil => simp
  | cons item items ih =>
    obtain ⟨first, rest, head, tail, rfl⟩ := mapM_ok_cons done
    intro other member
    rcases List.mem_cons.mp member with rfl | later
    · exact ⟨first, by simp, head⟩
    · obtain ⟨result, there, made⟩ := ih tail other later
      exact ⟨result, by simp [there], made⟩

/-- There is a result and no fault. -/
def Succeeds (result : Except ε α) : Prop := ∃ value, result = .ok value

namespace Succeeds
variable {p q : Prop} {first : Except ε α}

@[simp] theorem ok (value : α) : Succeeds (.ok value : Except ε α) := ⟨value, rfl⟩

@[simp] theorem error (fault : ε) : ¬ Succeeds (.error fault : Except ε α) := nofun

theorem bind_iff {next : α → Except ε β} (head : Succeeds first ↔ p)
    (tail : ∀ value, first = .ok value → (Succeeds (next value) ↔ q)) :
    Succeeds (first >>= next) ↔ p ∧ q := by
  cases first with
  | error fault =>
    have refused : ¬ p := fun holds => error fault (head.mpr holds)
    exact iff_of_false (error fault) fun both => refused both.1
  | ok value =>
    rw [and_iff_right (head.mp (ok value))]
    exact tail value rfl

/-- A step after which nothing can fail. -/
theorem last_iff {f : α → β} (head : Succeeds first ↔ p) :
    Succeeds (first >>= fun value => .ok (f value)) ↔ p := by
  rw [bind_iff head fun value _ => iff_true_intro (ok (f value)), and_true]

theorem map_iff (f : α → β) : Succeeds (first.map f) ↔ Succeeds first := by
  cases first with
  | error fault => exact iff_of_false (error fault) (error fault)
  | ok value => exact iff_of_true (ok _) (ok _)

theorem mapM_iff {f : α → Except ε β} {form : α → Prop} {items : List α}
    (each : ∀ item ∈ items, Succeeds (f item) ↔ form item) :
    Succeeds (items.mapM f) ↔ ∀ item ∈ items, form item := by
  induction items with
  | nil => exact iff_of_true (ok []) (List.forall_mem_nil _)
  | cons item items ih =>
    obtain ⟨head, tail⟩ := List.forall_mem_cons.mp each
    rw [List.mapM_cons, List.forall_mem_cons]
    exact bind_iff head fun _ _ => last_iff (ih tail)

end Succeeds

namespace Edit
variable {σ τ υ α β γ : Type}

/-- The result is the same from every state. -/
def Yields (edit : Edit σ α) (result : Except Fault α) : Prop :=
  ∀ state, (edit state).result = result

/-- The part of the state that `view` shows stays, and no change is announced. -/
def Spares (view : σ → υ) (edit : Edit σ α) : Prop :=
  ∀ state, view (edit state).state = view state ∧ changes (edit state).journal = []

/-- What holds of the state before holds after it, be it at a fault or not. -/
def Preserves (invariant : σ → Prop) (edit : Edit σ α) : Prop :=
  ∀ state, invariant state → invariant (edit state).state

/-- A fault tells of no change. The part of the state that `view` shows is left as it was, or as
`trace` says. -/
def FailsLeaving (view : σ → υ) (trace : υ → Fault → υ → Prop) (edit : Edit σ α) : Prop :=
  ∀ state fault, (edit state).result = .error fault →
    changes (edit state).journal = [] ∧
      (view (edit state).state = view state ∨ trace (view state) fault (view (edit state).state))

@[simp] theorem run_map (f : α → β) (edit : Edit σ α) (state : σ) : (f <$> edit) state =
    ⟨(edit state).result.map f, (edit state).state, (edit state).journal⟩ := by
  rw [map_eq_pure_bind, run_bind]
  cases result : (edit state).result <;> simp [Except.map]

@[simp] theorem run_discard (edit : Edit σ α) (state : σ) : (discard edit : Edit σ PUnit) state =
    ⟨(edit state).result.map fun _ => (), (edit state).state, (edit state).journal⟩ :=
  run_map _ edit state

@[simp] theorem run_nameable (number : Int) (state : σ) :
    (nameable number : Edit σ Unit) state = ⟨written number (), state, []⟩ := by
  unfold nameable written
  split <;> rfl

theorem run_forM_cons (step : γ → Edit σ PUnit) (item : γ) (items : List γ) (state : σ) :
    (item :: items).forM step state = (step item >>= fun _ => items.forM step) state := rfl

theorem Yields.pure (value : α) : (Pure.pure value : Edit σ α).Yields (.ok value) :=
  fun _ => rfl

theorem Yields.fail (fault : Fault) : (fail fault : Edit σ α).Yields (.error fault) :=
  fun _ => rfl

theorem Yields.report (audience : Option Audience) (notice : Notice) :
    (report audience notice : Edit σ Unit).Yields (.ok ()) := fun _ => rfl

theorem Yields.ofExcept (value : Except Fault α) : (ofExcept value : Edit σ α).Yields value := by
  cases value <;> exact fun _ => rfl

theorem Yields.bind {first : Edit σ α} {next : α → Edit σ β} {result : Except Fault α}
    {results : α → Except Fault β} (head : first.Yields result)
    (tail : ∀ value, (next value).Yields (results value)) :
    (first >>= next).Yields (result >>= results) := by
  intro state
  rw [run_bind, head state]
  cases result with
  | error fault => rfl
  | ok value => exact tail value _

/-- A first step that yields a value is out of the way. -/
theorem Yields.bind_ok {first : Edit σ α} {next : α → Edit σ β} {value : α}
    {result : Except Fault β} (head : first.Yields (.ok value))
    (tail : (next value).Yields result) : (first >>= next).Yields result := by
  intro state
  rw [run_bind, head state]
  exact tail _

theorem Yields.mapM {step : γ → Edit σ α} {results : γ → Except Fault α} {items : List γ}
    (each : ∀ item ∈ items, (step item).Yields (results item)) :
    (items.mapM step).Yields (items.mapM results) := by
  induction items with
  | nil => exact .pure []
  | cons item items ih =>
    rw [List.mapM_cons, List.mapM_cons]
    refine .bind (each item (by simp)) fun value => .bind (ih ?_) fun values => .pure _
    exact fun other member => each other (by simp [member])

theorem Yields.foldlM {step : β → γ → Edit σ β} {results : β → γ → Except Fault β} {items : List γ}
    (each : ∀ value, ∀ item ∈ items, (step value item).Yields (results value item)) (start : β) :
    (items.foldlM step start).Yields (items.foldlM results start) := by
  induction items generalizing start with
  | nil => exact .pure start
  | cons item items ih =>
    rw [List.foldlM_cons, List.foldlM_cons]
    refine .bind (each start item (by simp)) fun value => ih ?_ value
    exact fun value other member => each value other (by simp [member])

theorem Yields.map {edit : Edit σ α} {result : Except Fault α} (yields : edit.Yields result)
    (f : α → β) : (f <$> edit).Yields (result.map f) := by
  intro state
  rw [run_map, yields state]

theorem Yields.forM {step : γ → Edit σ Unit} {items : List γ}
    (each : ∀ item ∈ items, (step item).Yields (.ok ())) : (items.forM step).Yields (.ok ()) := by
  induction items with
  | nil => exact .pure ()
  | cons item items ih =>
    exact .bind_ok (each item (by simp)) (ih fun other member => each other (by simp [member]))

theorem Yields.within {part : σ → τ} {replace : τ → σ → σ} {edit : Edit τ α}
    {result : Except Fault α} (yields : edit.Yields result) :
    (within part replace edit).Yields result := fun state => yields (part state)

variable {view : σ → υ}

theorem Spares.pure (value : α) : (Pure.pure value : Edit σ α).Spares view :=
  fun _ => ⟨rfl, rfl⟩

theorem Spares.fail (fault : Fault) : (fail fault : Edit σ α).Spares view :=
  fun _ => ⟨rfl, rfl⟩

theorem Spares.log (notice : Notice) : (log notice : Edit σ Unit).Spares view :=
  fun _ => ⟨rfl, rfl⟩

theorem Spares.report (audience : Option Audience) (notice : Notice) :
    (report audience notice : Edit σ Unit).Spares view :=
  fun _ => ⟨rfl, changes_reportTo audience notice⟩

theorem Spares.ofExcept (value : Except Fault α) : (ofExcept value : Edit σ α).Spares view := by
  cases value <;> exact fun _ => ⟨rfl, rfl⟩

theorem Spares.bind {first : Edit σ α} {next : α → Edit σ β} (head : first.Spares view)
    (tail : ∀ value, (next value).Spares view) : (first >>= next).Spares view := by
  intro state
  rw [run_bind]
  cases result : (first state).result with
  | error fault => exact head state
  | ok value =>
    obtain ⟨kept, silent⟩ := tail value (first state).state
    exact ⟨kept.trans (head state).1, by simp [(head state).2, silent]⟩

theorem Spares.mapM {step : γ → Edit σ α} {items : List γ}
    (each : ∀ item ∈ items, (step item).Spares view) : (items.mapM step).Spares view := by
  induction items with
  | nil => exact .pure []
  | cons item items ih =>
    rw [List.mapM_cons]
    refine .bind (each item (by simp)) fun value => .bind (ih ?_) fun values => .pure _
    exact fun other member => each other (by simp [member])

theorem Spares.forM {step : γ → Edit σ Unit} {items : List γ}
    (each : ∀ item ∈ items, (step item).Spares view) : (items.forM step).Spares view := by
  induction items with
  | nil => exact .pure ()
  | cons item items ih =>
    exact .bind (each item (by simp)) fun _ =>
      ih fun other member => each other (by simp [member])

/-- Nothing of the state is seen through the constant view, so only silence is asked for. -/
theorem Spares.within {part : σ → τ} {replace : τ → σ → σ} {edit : Edit τ α}
    (apart : ∀ new state, view (replace new state) = view state)
    (silent : edit.Spares fun _ => ()) : (within part replace edit).Spares view :=
  fun state => ⟨apart _ state, (silent (part state)).2⟩

/-- Seen through `view` the edit goes where `f` goes, and fails where it fails. What is seen
after a fault is left open. -/
def Follows (view : σ → υ) (edit : Edit σ α) (f : υ → Except Fault υ) : Prop :=
  ∀ state, (edit state).result.map (fun _ => view (edit state).state) = f (view state)

theorem Follows.bind {first : Edit σ α} {next : α → Edit σ β} {f g : υ → Except Fault υ}
    (head : first.Follows view f) (tail : ∀ value, (next value).Follows view g) :
    (first >>= next).Follows view fun seen => f seen >>= g := by
  intro state
  dsimp only
  rw [run_bind, ← head state]
  cases result : (first state).result with
  | error fault => rfl
  | ok value => exact tail value (first state).state

/-- A first step that only looks hands on what it yields. -/
theorem Follows.after {first : Edit σ α} {next : α → Edit σ β} {result : Except Fault α}
    {f : α → υ → Except Fault υ} (yields : first.Yields result)
    (spares : ∀ state, view (first state).state = view state)
    (tail : ∀ value, (next value).Follows view (f value)) :
    (first >>= next).Follows view fun seen => result >>= fun value => f value seen := by
  intro state
  rw [run_bind, yields state]
  cases result with
  | error fault => rfl
  | ok value =>
    apply (tail value (first state).state).trans
    rw [spares state]
    rfl

theorem Follows.discard {edit : Edit σ α} {f : υ → Except Fault υ} (follows : edit.Follows view f) :
    (discard edit : Edit σ PUnit).Follows view f := by
  intro state
  rw [run_discard, ← follows state]
  cases (edit state).result <;> rfl

theorem Follows.forM {step : γ → Edit σ Unit} {f : υ → γ → Except Fault υ}
    (each : ∀ item, (step item).Follows view fun seen => f seen item) (items : List γ) :
    (items.forM step).Follows view fun seen => items.foldlM f seen := by
  induction items with
  | nil => exact fun _ => rfl
  | cons item items ih =>
    simp only [List.foldlM_cons]
    exact .bind (each item) fun _ => ih

/-- Up to the first change nothing may show; from there on the rest answers for itself. -/
theorem FailsLeaving.after {first : Edit σ α} {next : α → Edit σ β}
    {trace : υ → Fault → υ → Prop} {result : Except Fault α} (yields : first.Yields result)
    (spares : first.Spares view)
    (tail : ∀ value, result = .ok value → (next value).FailsLeaving view trace) :
    (first >>= next).FailsLeaving view trace := by
  intro state fault failed
  obtain ⟨kept, silent⟩ := spares state
  rw [run_bind, yields state] at failed ⊢
  cases made : result with
  | error own => exact ⟨silent, .inl kept⟩
  | ok value =>
    rw [made] at failed
    obtain ⟨quiet, left⟩ := tail value made _ fault failed
    rw [kept] at left
    exact ⟨by simp [silent, quiet], left⟩

end Edit

end Libretto
