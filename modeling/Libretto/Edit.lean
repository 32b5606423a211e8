import Libretto.Fault
import Libretto.Journal

/-! Changes of a state that may fail. What was done and told before a fault stays done and
told: the state and the journal are there in either case. -/
namespace Libretto

structure Outcome (σ α : Type) where
  result : Except Fault α
  state : σ
  journal : List Entry

def Edit (σ α : Type) : Type := σ → Outcome σ α

namespace Edit
variable {σ τ α β γ : Type}

def pure (value : α) : Edit σ α := fun state => ⟨.ok value, state, []⟩

def bind (first : Edit σ α) (next : α → Edit σ β) : Edit σ β := fun state =>
  let outcome := first state
  match outcome.result with
  | .error fault => ⟨.error fault, outcome.state, outcome.journal⟩
  | .ok value =>
    let later := next value outcome.state
    ⟨later.result, later.state, outcome.journal ++ later.journal⟩

instance : Monad (Edit σ) where
  pure := pure
  bind := bind

@[ext] theorem ext {first second : Edit σ α} (same : ∀ state, first state = second state) :
    first = second := funext same

theorem bind_pure_id (edit : Edit σ α) : bind edit (fun value => pure (id value)) = edit := by
  funext state
  simp only [bind, pure]
  rcases edit state with ⟨result, later, journal⟩
  cases result <;> simp

theorem pure_bind (value : α) (next : α → Edit σ β) : bind (pure value) next = next value := by
  funext state
  simp [bind, pure]

theorem bind_assoc (edit : Edit σ α) (next : α → Edit σ β) (last : β → Edit σ γ) :
    bind (bind edit next) last = bind edit fun value => bind (next value) last := by
  funext state
  simp only [bind]
  rcases edit state with ⟨result, later, journal⟩
  cases result with
  | error fault => rfl
  | ok value =>
    dsimp only
    rcases next value later with ⟨result, last, more⟩
    cases result <;> simp

instance : LawfulMonad (Edit σ) :=
  LawfulMonad.mk' (Edit σ) bind_pure_id pure_bind bind_assoc

def fail (fault : Fault) : Edit σ α := fun state => ⟨.error fault, state, []⟩

def get : Edit σ σ := fun state => ⟨.ok state, state, []⟩
def set (state : σ) : Edit σ Unit := fun _ => ⟨.ok (), state, []⟩
def modify (f : σ → σ) : Edit σ Unit := fun state => ⟨.ok (), f state, []⟩

def tell (entries : List Entry) : Edit σ Unit := fun state => ⟨.ok (), state, entries⟩
def log (notice : Notice) : Edit σ Unit := tell [.log notice]
def send (audience : Option Audience) (event : Event) : Edit σ Unit :=
  tell (announce audience event)
def report (audience : Option Audience) (notice : Notice) : Edit σ Unit :=
  tell (reportTo audience notice)

def ofExcept : Except Fault α → Edit σ α
  | .ok value => pure value
  | .error fault => fail fault

/-- Goes on after a fault that is pardoned. What was done before it stays. -/
def pardon (pardoned : Fault → Bool) (edit : Edit σ Unit) : Edit σ Unit := fun state =>
  let outcome := edit state
  match outcome.result with
  | .error fault =>
    if pardoned fault then ⟨.ok (), outcome.state, outcome.journal⟩ else outcome
  | .ok _ => outcome

/-- Goes on only with an integer that can be written, as the journal will name it. Changes come
before it, so one that the journal cannot name stays done and is not told. -/
def nameable (value : Int) : Edit σ Unit :=
  if Numeral.isWritable value then pure () else fail .unwritableInteger

/-- The same change of a part of a larger state. -/
def within (part : σ → τ) (replace : τ → σ → σ) (edit : Edit τ α) : Edit σ α := fun state =>
  let outcome := edit (part state)
  ⟨outcome.result, replace outcome.state state, outcome.journal⟩

/-- A change of a value that is not in the state yet. Nothing is left of it after a fault,
its journal apart. -/
def apart (edit : Edit τ α) (start : τ) : Edit σ τ := fun state =>
  let outcome := edit start
  ⟨outcome.result.map fun _ => outcome.state, state, outcome.journal⟩

@[simp] theorem run_pure (value : α) (state : σ) :
    (Pure.pure value : Edit σ α) state = ⟨.ok value, state, []⟩ := rfl

@[simp] theorem run_bind (first : Edit σ α) (next : α → Edit σ β) (state : σ) :
    (first >>= next) state = match (first state).result with
      | .error fault => ⟨.error fault, (first state).state, (first state).journal⟩
      | .ok value => ⟨(next value (first state).state).result,
          (next value (first state).state).state,
          (first state).journal ++ (next value (first state).state).journal⟩ := rfl

@[simp] theorem run_fail (fault : Fault) (state : σ) :
    (fail fault : Edit σ α) state = ⟨.error fault, state, []⟩ := rfl

@[simp] theorem run_get (state : σ) : (get : Edit σ σ) state = ⟨.ok state, state, []⟩ := rfl

@[simp] theorem run_set (new state : σ) : set new state = ⟨.ok (), new, []⟩ := rfl

@[simp] theorem run_modify (f : σ → σ) (state : σ) : modify f state = ⟨.ok (), f state, []⟩ := rfl

@[simp] theorem run_tell (entries : List Entry) (state : σ) :
    tell entries state = ⟨.ok (), state, entries⟩ := rfl

end Edit

end Libretto
