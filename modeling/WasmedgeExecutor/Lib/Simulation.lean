import Mathlib

/-!
Two machines driven by one stream of inputs, each step giving an output and the next state, or
stopping. `run` feeds a stream to a machine and collects its outputs. A relation is a lockstep
relation when from any two related states both machines take the step of every input, with
one output, into related states; from related states the machines then run every stream to
its end with the same outputs. This is the sense in which one machine refines another that a
user observes only through what each step returns.

A specification machine may also refuse an input, stopping where its user must not go. The
machine simulates it when from related states every step the specification takes is taken
by the machine too, with the same output, into related states: then every stream the
specification runs to its end, the machine runs with the same outputs. A property that every
step keeps holds of the last state of every run.

A client need not fix its stream in advance: a `Client` picks each input from the outputs so
far. A machine that simulates a specification serves every client the specification serves,
with the same result.
-/

set_option autoImplicit false
set_option relaxedAutoImplicit false

namespace WasmedgeExecutor.Lib.Simulation

variable {σ σ' ι ο : Type}

/-- Feed `inputs` to the machine from `s`: the outputs and the last state, or `none` if a step
stops. -/
def run (step : σ → ι → Option (ο × σ)) (s : σ) : List ι → Option (List ο × σ)
  | [] => some ([], s)
  | input :: rest =>
    match step s input with
    | none => none
    | some (output, s') => (run step s' rest).map fun done => (output :: done.1, done.2)

@[simp] theorem run_nil (step : σ → ι → Option (ο × σ)) (s : σ) : run step s [] = some ([], s) :=
  rfl

theorem run_cons_of_step {step : σ → ι → Option (ο × σ)} {s s' : σ} {input : ι} {output : ο}
    (stepped : step s input = some (output, s')) (rest : List ι) :
    run step s (input :: rest) = (run step s' rest).map fun done => (output :: done.1, done.2) := by
  simp [run, stepped]

/-- From related states both machines take the step of every input, with the same output, into
related states. -/
def Lockstep (step : σ → ι → Option (ο × σ)) (step' : σ' → ι → Option (ο × σ'))
    (related : σ → σ' → Prop) : Prop :=
  ∀ s s' input, related s s' →
    ∃ output t t', step s input = some (output, t) ∧ step' s' input = some (output, t') ∧
      related t t'

theorem run_of_lockstep {step : σ → ι → Option (ο × σ)} {step' : σ' → ι → Option (ο × σ')}
    {related : σ → σ' → Prop} (lockstep : Lockstep step step' related) :
    ∀ (inputs : List ι) {s : σ} {s' : σ'}, related s s' →
      ∃ outputs t t', run step s inputs = some (outputs, t) ∧
        run step' s' inputs = some (outputs, t') ∧ related t t'
  | [], s, s', start => ⟨[], s, s', rfl, rfl, start⟩
  | input :: rest, _, _, start => by
    obtain ⟨output, t, t', stepped, stepped', next⟩ := lockstep _ _ input start
    obtain ⟨outputs, u, u', ran, ran', last⟩ := run_of_lockstep lockstep rest next
    refine ⟨output :: outputs, u, u', ?_, ?_, last⟩
    · rw [run_cons_of_step stepped, ran]
      rfl
    · rw [run_cons_of_step stepped', ran']
      rfl

theorem run_eq_some_cons {step : σ → ι → Option (ο × σ)} {s t : σ} {input : ι} {rest : List ι}
    {outputs : List ο} (ran : run step s (input :: rest) = some (outputs, t)) :
    ∃ output s' outputs', step s input = some (output, s') ∧ run step s' rest = some (outputs', t) ∧
      outputs = output :: outputs' := by
  simp only [run] at ran
  cases stepped : step s input with
  | none => simp [stepped] at ran
  | some first =>
    obtain ⟨output, s'⟩ := first
    cases later : run step s' rest with
    | none => simp [stepped, later] at ran
    | some done =>
      obtain ⟨outputs', t'⟩ := done
      simp only [stepped, later, Option.map_some, Option.some.injEq, Prod.mk.injEq] at ran
      obtain ⟨rfl, rfl⟩ := ran
      exact ⟨output, s', outputs', rfl, later, rfl⟩

theorem invariant_run {step : σ → ι → Option (ο × σ)} {inv : σ → Prop}
    (keeps : ∀ s input output s', inv s → step s input = some (output, s') → inv s') :
    ∀ (inputs : List ι) {s t : σ} {outputs : List ο}, inv s → run step s inputs = some (outputs, t) →
      inv t
  | [], _, _, _, start, ran => by
    cases ran
    exact start
  | input :: rest, _, _, _, start, ran => by
    obtain ⟨output, s', outputs', stepped, later, -⟩ := run_eq_some_cons ran
    exact invariant_run keeps rest (keeps _ input output s' start stepped) later

theorem outputs_run {step : σ → ι → Option (ο × σ)} {good : ο → Prop}
    (keeps : ∀ s input output s', step s input = some (output, s') → good output) :
    ∀ (inputs : List ι) {s t : σ} {outputs : List ο}, run step s inputs = some (outputs, t) →
      ∀ output ∈ outputs, good output
  | [], _, _, _, ran => by
    cases ran
    simp
  | input :: rest, _, _, _, ran => by
    obtain ⟨output, s', outputs', stepped, later, rfl⟩ := run_eq_some_cons ran
    intro out mem
    rcases List.mem_cons.mp mem with rfl | mem
    · exact keeps _ input out s' stepped
    · exact outputs_run keeps rest later out mem

theorem run_of_invariant {step : σ → ι → Option (ο × σ)} {inv : σ → Prop} {good : ο → Prop}
    (progress : ∀ s input, inv s → ∃ output s', step s input = some (output, s') ∧ inv s' ∧ good output) :
    ∀ (inputs : List ι) {s : σ}, inv s →
      ∃ outputs t, run step s inputs = some (outputs, t) ∧ inv t ∧ ∀ output ∈ outputs, good output
  | [], s, start => ⟨[], s, rfl, start, by simp⟩
  | input :: rest, s, start => by
    obtain ⟨output, s', stepped, next, good⟩ := progress s input start
    obtain ⟨outputs, t, ran, last, goods⟩ := run_of_invariant progress rest next
    refine ⟨output :: outputs, t, ?_, last, ?_⟩
    · rw [run_cons_of_step stepped, ran]
      rfl
    · intro out mem
      rcases List.mem_cons.mp mem with rfl | mem
      · exact good
      · exact goods out mem

/-- `step` simulates `spec`: from related states, every step `spec` takes `step` takes too,
with the same output, into related states. -/
def Simulates (step : σ → ι → Option (ο × σ)) (spec : σ' → ι → Option (ο × σ'))
    (related : σ → σ' → Prop) : Prop :=
  ∀ s s' input output t', related s s' → spec s' input = some (output, t') →
    ∃ t, step s input = some (output, t) ∧ related t t'

theorem run_of_simulates {step : σ → ι → Option (ο × σ)} {spec : σ' → ι → Option (ο × σ')}
    {related : σ → σ' → Prop} (simulates : Simulates step spec related) :
    ∀ (inputs : List ι) {s : σ} {s' t' : σ'} {outputs : List ο}, related s s' →
      run spec s' inputs = some (outputs, t') → ∃ t, run step s inputs = some (outputs, t) ∧ related t t'
  | [], s, _, _, _, start, ran => by
    cases ran
    exact ⟨s, rfl, start⟩
  | input :: rest, _, _, _, _, start, ran => by
    obtain ⟨output, s₁', outputs', specStep, later, rfl⟩ := run_eq_some_cons ran
    obtain ⟨s₁, stepped, related₁⟩ := simulates _ _ input output s₁' start specStep
    obtain ⟨t, ran', last⟩ := run_of_simulates simulates rest related₁ later
    refine ⟨t, ?_, last⟩
    rw [run_cons_of_step stepped, ran']
    rfl

/-- A client of a machine: it ends with a result, or sends an input and goes on from the
output. -/
inductive Client (ι ο ρ : Type)
  | done (result : ρ)
  | send (input : ι) (next : ο → Client ι ο ρ)

/-- Serve `client` from `s`: its result and the last state, or `none` if a step stops. -/
def Client.run {ρ : Type} (step : σ → ι → Option (ο × σ)) : Client ι ο ρ → σ → Option (ρ × σ)
  | .done result, s => some (result, s)
  | .send input next, s =>
    match step s input with
    | none => none
    | some (output, s') => (next output).run step s'

theorem Client.run_send {ρ : Type} {step : σ → ι → Option (ο × σ)} {s s' : σ} {input : ι} {output : ο}
    (next : ο → Client ι ο ρ) (stepped : step s input = some (output, s')) :
    (Client.send input next).run step s = (next output).run step s' := by
  simp [Client.run, stepped]

theorem Client.run_of_simulates {ρ : Type} {step : σ → ι → Option (ο × σ)}
    {spec : σ' → ι → Option (ο × σ')} {related : σ → σ' → Prop}
    (simulates : Simulates step spec related) :
    ∀ (client : Client ι ο ρ) {s : σ} {s' t' : σ'} {result : ρ}, related s s' →
      client.run spec s' = some (result, t') → ∃ t, client.run step s = some (result, t) ∧ related t t'
  | .done _, s, _, _, _, start, served => by
    simp only [Client.run, Option.some.injEq, Prod.mk.injEq] at served
    obtain ⟨rfl, rfl⟩ := served
    exact ⟨s, rfl, start⟩
  | .send input next, _, s', _, _, start, served => by
    cases specStep : spec s' input with
    | none => simp [Client.run, specStep] at served
    | some answered =>
      obtain ⟨output, s₁'⟩ := answered
      rw [Client.run_send next specStep] at served
      obtain ⟨s₁, stepped, related₁⟩ := simulates _ _ input output s₁' start specStep
      rw [Client.run_send next stepped]
      exact Client.run_of_simulates simulates (next output) related₁ served

end WasmedgeExecutor.Lib.Simulation
