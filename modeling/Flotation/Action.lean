import Flotation.Fault

/-! Actions on a state. An action returns a value, raises a failure that its caller may catch,
or aborts the program; what it did to the state before that stays done. -/
namespace Flotation

/-- What an operation can raise: a fault found by the library, or the complaint of a sink. -/
inductive Failure where
  | fault (cause : Fault)
  | sink (reason : String)

/-- How an action ends. Nothing runs after an abortion, and nobody catches it. -/
inductive Outcome (α : Type) where
  | returned (value : α)
  | raised (failure : Failure)
  | aborted

/-- Running an action on a state gives its outcome and the state it leaves. -/
structure Action (σ α : Type) where
  run : σ → Outcome α × σ

namespace Action
variable {σ τ α β : Type}

instance : Monad (Action σ) where
  pure a := ⟨fun s => (.returned a, s)⟩
  bind x f := ⟨fun s =>
    match x.run s with
    | (.returned a, s) => (f a).run s
    | (.raised failure, s) => (.raised failure, s)
    | (.aborted, s) => (.aborted, s)⟩

@[simp] theorem run_pure (a : α) (s : σ) : (pure a : Action σ α).run s = (.returned a, s) := rfl

theorem run_bind (x : Action σ α) (f : α → Action σ β) (s : σ) :
    (x >>= f).run s =
      match x.run s with
      | (.returned a, s) => (f a).run s
      | (.raised failure, s) => (.raised failure, s)
      | (.aborted, s) => (.aborted, s) := rfl

theorem run_bind_returned {x : Action σ α} {s t : σ} {a : α} (h : x.run s = (.returned a, t))
    (f : α → Action σ β) : (x >>= f).run s = (f a).run t := by
  rw [run_bind, h]

theorem run_bind_raised {x : Action σ α} {s t : σ} {failure : Failure}
    (h : x.run s = (.raised failure, t)) (f : α → Action σ β) :
    (x >>= f).run s = (.raised failure, t) := by
  rw [run_bind, h]

theorem run_bind_aborted {x : Action σ α} {s t : σ} (h : x.run s = (.aborted, t))
    (f : α → Action σ β) : (x >>= f).run s = (.aborted, t) := by
  rw [run_bind, h]

private theorem ext_run {x y : Action σ α} (h : ∀ s, x.run s = y.run s) : x = y := by
  obtain ⟨f⟩ := x
  obtain ⟨g⟩ := y
  exact congrArg mk (funext h)

instance : LawfulMonad (Action σ) :=
  LawfulMonad.mk' (Action σ)
    (by
      intro α x
      apply ext_run
      intro s
      show (match x.run s with | (.returned a, t) => _ | (.raised e, t) => _ | (.aborted, t) => _) = _
      rcases x.run s with ⟨_ | _ | _, _⟩ <;> rfl)
    (by
      intro α β a f
      rfl)
    (by
      intro α β γ x f g
      apply ext_run
      intro s
      simp only [run_bind]
      rcases x.run s with ⟨_ | _ | _, _⟩ <;> rfl)

/-- Look at the state. -/
def read (f : σ → α) : Action σ α := ⟨fun s => (.returned (f s), s)⟩

def update (f : σ → σ) : Action σ Unit := ⟨fun s => (.returned (), f s)⟩

def raise (failure : Failure) : Action σ α := ⟨fun s => (.raised failure, s)⟩

/-- A checked value, its fault raised. -/
def ofExcept : Except Fault α → Action σ α
  | .ok a => pure a
  | .error fault => raise (.fault fault)

/-- Run a body and then a closing action, also if the body raised. A closing action that does
not return aborts the program, for there may be a failure on its way already. -/
def closing (body : Action σ α) (close : Action σ Unit) : Action σ α := ⟨fun s =>
  match body.run s with
  | (.aborted, s) => (.aborted, s)
  | (outcome, s) =>
    match close.run s with
    | (.returned (), s) => (outcome, s)
    | (_, s) => (.aborted, s)⟩

/-- An action on a part of the state. -/
def onPart (part : σ → τ) (put : τ → σ → σ) (x : Action τ α) : Action σ α := ⟨fun s =>
  let (outcome, t) := x.run (part s)
  (outcome, put t s)⟩

/-- The same action a number of times, until it raises. -/
def times (body : Action σ Unit) : Nat → Action σ Unit
  | 0 => pure ()
  | n + 1 => do
    body
    times body n

@[simp] theorem run_read (f : σ → α) (s : σ) : (read f).run s = (.returned (f s), s) := rfl

@[simp] theorem run_update (f : σ → σ) (s : σ) : (update f).run s = (.returned (), f s) := rfl

@[simp] theorem run_raise (failure : Failure) (s : σ) :
    (raise failure : Action σ α).run s = (.raised failure, s) := rfl

@[simp] theorem run_onPart (part : σ → τ) (put : τ → σ → σ) (x : Action τ α) (s : σ) :
    (onPart part put x).run s = ((x.run (part s)).1, put (x.run (part s)).2 s) := rfl

end Action
end Flotation
