import MasterAgent.Base.Transition

/-!
# Transactions

A state is served by calls that answer and change it, or raise and leave it as it was. A run of the
system is the list of the calls that were served with their answers, in the order of their
transactions.

Results:

1. `serves_cases`: what a served call does;
2. `run_play`: every list of calls has a run.
-/

namespace Base

universe u

/-- A transaction: it answers with a new state, or raises. -/
abbrev Transaction (S : Type u) (X A : Type) := S → Except X (A × S)

/-- A call with its answer. -/
structure Served (C X A : Type) where
  call : C
  answer : Except X A

variable {S : Type u} {C X A B : Type} {perform : C → Transaction S X A}

/-- A call that raises leaves the state as it was. -/
def Serves (perform : C → Transaction S X A) (s : S) (e : Served C X A) (s' : S) : Prop :=
  match perform e.call s with
  | .ok (answer, next) => e.answer = .ok answer ∧ s' = next
  | .error raised => e.answer = .error raised ∧ s' = s

/-- What becomes of the state and of the answer. -/
theorem serves_cases {s s' : S} {e : Served C X A} (step : Serves perform s e s') :
    (∃ answer, perform e.call s = .ok (answer, s') ∧ e.answer = .ok answer) ∨
      (∃ raised, e.answer = .error raised) ∧ s' = s := by
  unfold Serves at step
  split at step
  · next answer next performed =>
    obtain ⟨answered, rfl⟩ := step
    exact .inl ⟨answer, performed, answered⟩
  · next raised performed =>
    obtain ⟨answered, rfl⟩ := step
    exact .inr ⟨⟨raised, answered⟩, rfl⟩

/-- The calls of a list, with their answers, and the state that they leave. -/
def play (perform : C → Transaction S X A) : List C → S → List (Served C X A) × S
  | [], s => ([], s)
  | call :: calls, s =>
    match perform call s with
    | .ok (answer, next) =>
      let later := play perform calls next
      (⟨call, .ok answer⟩ :: later.1, later.2)
    | .error raised =>
      let later := play perform calls s
      (⟨call, .error raised⟩ :: later.1, later.2)

/-- Every list of calls has a run. -/
theorem run_play (calls : List C) (s : S) :
    Run (Serves perform) s (play perform calls s).1 (play perform calls s).2 := by
  induction calls generalizing s with
  | nil => exact .nil s
  | cons call calls ih =>
    unfold play
    cases performed : perform call s with
    | error raised =>
      refine .cons ?_ (ih s)
      unfold Serves
      rw [performed]
      exact ⟨rfl, rfl⟩
    | ok outcome =>
      refine .cons ?_ (ih outcome.2)
      unfold Serves
      rw [performed]
      exact ⟨rfl, rfl⟩

/-- A transaction whose answer is read as another. -/
def Transaction.answering (t : Transaction S X A) (f : A → B) : Transaction S X B :=
  fun s => (t s).map (Prod.map f id)

theorem of_answering_ok {t : Transaction S X A} {f : A → B} {s s' : S} {b : B}
    (answered : t.answering f s = .ok (b, s')) : ∃ a, t s = .ok (a, s') ∧ f a = b := by
  unfold Transaction.answering at answered
  cases outcome : t s with
  | error raised =>
    rw [outcome] at answered
    cases answered
  | ok pair =>
    rw [outcome] at answered
    cases answered
    exact ⟨pair.1, rfl, rfl⟩

end Base
