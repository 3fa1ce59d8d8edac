import Mathlib

/-!
The `Except` monad as the result of a fallible computation: how a `do` block's `bind` passes
a success on and stops at the first error. These are the rewriting rules the models of
`Result`-returning functions are unfolded with. For a computation over a state, `EStateM`:
how a `mapM` runs its first call and then the rest, and `attempt`, a call whose `Result` is
kept as a value rather than passed up.
-/

set_option autoImplicit false
set_option relaxedAutoImplicit false

namespace WasmedgeExecutor.Lib.Outcome

variable {ε α β : Type}

@[simp] theorem ok_bind (a : α) (f : α → Except ε β) : (Except.ok a >>= f) = f a := rfl

@[simp] theorem error_bind (e : ε) (f : α → Except ε β) : (Except.error e >>= f) = .error e := rfl

@[simp] theorem pure_eq (a : α) : (pure a : Except ε α) = .ok a := rfl

@[simp] theorem bind_ok_self (x : Except ε α) : (x >>= fun a => Except.ok a) = x := by
  cases x <;> rfl

theorem bind_eq_ok {x : Except ε α} {f : α → Except ε β} {b : β} :
    (x >>= f) = .ok b ↔ ∃ a, x = .ok a ∧ f a = .ok b := by
  cases x with
  | error e => simp
  | ok a => simp

theorem map_eq_ok {f : α → β} {x : Except ε α} {b : β} :
    x.map f = .ok b ↔ ∃ a, x = .ok a ∧ f a = b := by
  cases x with
  | error e => simp [Except.map]
  | ok a => simp [Except.map]

def Fails (x : Except ε α) : Prop := ∃ e, x = .error e

@[simp] theorem fails_error (e : ε) : Fails (.error e : Except ε α) := ⟨e, rfl⟩

@[simp] theorem not_fails_ok (a : α) : ¬ Fails (.ok a : Except ε α) := fun ⟨_, h⟩ => nomatch h

theorem run_mapM_cons {σ : Type} {f : α → EStateM ε σ β} {a : α} {rest : List α} {s s₁ s₂ : σ}
    {b : β} {bs : List β} (first : (f a).run s = .ok b s₁) (others : (rest.mapM f).run s₁ = .ok bs s₂) :
    ((a :: rest).mapM f).run s = .ok (b :: bs) s₂ := by
  rw [List.mapM_cons, EStateM.run_bind, first]
  simp only [EStateM.run_bind]
  rw [others]
  rfl

theorem run_bind_eq_ok {σ : Type} {x : EStateM ε σ α} {f : α → EStateM ε σ β} {s s' : σ} {b : β}
    (returned : (x >>= f).run s = .ok b s') : ∃ a s₁, x.run s = .ok a s₁ ∧ (f a).run s₁ = .ok b s' := by
  rw [EStateM.run_bind] at returned
  cases ran : x.run s with
  | ok a s₁ =>
    rw [ran] at returned
    exact ⟨a, s₁, rfl, returned⟩
  | error e s₁ =>
    rw [ran] at returned
    cases returned

/-- The state a run leaves, also when it ends in an error. -/
def stateOf {σ : Type} : EStateM.Result ε σ α → σ
  | .ok _ s => s
  | .error _ s => s

/-- A call whose `Result` is kept as a value, as `let result = call();` keeps it: the run goes
on from the state the call leaves, also after an error. -/
def attempt {ε' σ : Type} (call : EStateM ε σ α) : EStateM ε' σ (Except ε α) := fun s =>
  match call s with
  | .ok a s' => .ok (.ok a) s'
  | .error e s' => .ok (.error e) s'

section Attempt

variable {ε' σ : Type} {call : EStateM ε σ α} {s s' : σ}

theorem run_attempt_ok {a : α} (ran : call.run s = .ok a s') :
    (attempt call : EStateM ε' σ (Except ε α)).run s = .ok (.ok a) s' := by
  simp only [EStateM.run] at ran
  simp only [EStateM.run, attempt, ran]

theorem run_attempt_error {e : ε} (failed : call.run s = .error e s') :
    (attempt call : EStateM ε' σ (Except ε α)).run s = .ok (.error e) s' := by
  simp only [EStateM.run] at failed
  simp only [EStateM.run, attempt, failed]

end Attempt

end WasmedgeExecutor.Lib.Outcome
