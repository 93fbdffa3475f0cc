import Mathlib.Data.List.Basic

/-!
# Procedures that may be cut short

A procedure changes a durable state in atomic steps, and may raise. It comes with the states it
passes through, one for each step, so that a crash leaves one of them.

Results:

1. one rule for each way to build a procedure (`wp_bind`, `wp_step`, `wp_each`, …);
2. `Recovers.invariant`: what a procedure and its recovery preserve at every step holds after any
   number of crashes.
-/

namespace Base

/-- What a run gives: its result, the state it ends in and the states after its steps. -/
structure Ended (S E A : Type) where
  result : Except E A
  state : S
  passed : List S

def Journal (S E A : Type) : Type := S → Ended S E A

namespace Journal

variable {S E A B : Type}

protected def pure (a : A) : Journal S E A := fun s => ⟨.ok a, s, []⟩

protected def bind (p : Journal S E A) (f : A → Journal S E B) : Journal S E B := fun s =>
  let first := p s
  match first.result with
  | .ok a =>
      let second := f a first.state
      ⟨second.result, second.state, first.passed ++ second.passed⟩
  | .error e => ⟨.error e, first.state, first.passed⟩

instance : Monad (Journal S E) where
  pure := Journal.pure
  bind := Journal.bind

def get : Journal S E S := fun s => ⟨.ok s, s, []⟩

/-- One atomic step. -/
def step (f : S → S) : Journal S E Unit := fun s => ⟨.ok (), f s, [f s]⟩

def lift : Except E A → Journal S E A := fun x s => ⟨x, s, []⟩

/-- `if not holds: raise raised` -/
def ensure (holds : Bool) (raised : E) : Journal S E Unit :=
  lift (if holds then .ok () else .error raised)

/-- Run a procedure for each element in turn. -/
def each (f : B → Journal S E Unit) : List B → Journal S E Unit
  | [] => pure ()
  | b :: rest => f b >>= fun _ => each f rest

/-- From `s`, every state passed through is as `I` asks, and the procedure returns as `Q` asks or
raises as `X` asks. -/
def wp (I : S → Prop) (p : Journal S E A) (Q : A → S → Prop) (X : E → S → Prop) (s : S) : Prop :=
  (∀ d ∈ (p s).passed, I d) ∧ match (p s).result with
    | .ok a => Q a (p s).state
    | .error e => X e (p s).state

variable {I : S → Prop} {Q : A → S → Prop} {X : E → S → Prop} {s : S}

theorem wp_pure {a : A} : wp I (pure a : Journal S E A) Q X s ↔ Q a s :=
  ⟨fun pre => pre.2, fun post => ⟨fun _ passed => absurd passed List.not_mem_nil, post⟩⟩

theorem wp_get {Q : S → S → Prop} : wp I (get : Journal S E S) Q X s ↔ Q s s :=
  ⟨fun pre => pre.2, fun post => ⟨fun _ passed => absurd passed List.not_mem_nil, post⟩⟩

theorem wp_step {f : S → S} {Q : Unit → S → Prop} :
    wp I (step f : Journal S E Unit) Q X s ↔ I (f s) ∧ Q () (f s) := by
  unfold wp step
  simp

theorem wp_lift {x : Except E A} :
    wp I (lift x : Journal S E A) Q X s ↔ match x with
      | .ok a => Q a s
      | .error e => X e s :=
  ⟨fun pre => pre.2, fun post => ⟨fun _ passed => absurd passed List.not_mem_nil, post⟩⟩

theorem wp_ensure {holds : Bool} {raised : E} {Q : Unit → S → Prop}
    (passes : holds = true → Q () s) (fails : holds = false → X raised s) :
    wp I (ensure holds raised : Journal S E Unit) Q X s := by
  unfold ensure
  rw [wp_lift]
  cases holds
  · exact fails rfl
  · exact passes rfl

theorem wp_bind {p : Journal S E B} {f : B → Journal S E A} :
    wp I (p >>= f) Q X s ↔ wp I p (fun b s => wp I (f b) Q X s) X s := by
  show wp I (Journal.bind p f) Q X s ↔ _
  unfold wp Journal.bind
  dsimp only
  cases (p s).result with
  | error e => exact Iff.rfl
  | ok b =>
      simp only [List.forall_mem_append]
      exact and_assoc

theorem wp_mono {p : Journal S E A} {Q' : A → S → Prop} {X' : E → S → Prop} (pre : wp I p Q X s)
    (returns : ∀ a s, Q a s → Q' a s) (raises : ∀ e s, X e s → X' e s) : wp I p Q' X' s := by
  refine ⟨pre.1, ?_⟩
  have post := pre.2
  revert post
  cases (p s).result with
  | ok a => exact returns _ _
  | error e => exact raises _ _

/-- The invariant rule of a loop over a list. -/
theorem wp_each {f : B → Journal S E Unit} {all : List B} {J : List B → S → Prop}
    (round : ∀ done b rest s, all = done ++ b :: rest → J done s →
      wp I (f b) (fun _ s => J (done ++ [b]) s) X s)
    (start : J [] s) : wp I (each f all) (fun _ s => J all s) X s := by
  suffices general : ∀ (rest done : List B) (s : S), all = done ++ rest → J done s →
      wp I (each f rest) (fun _ s => J all s) X s from general all [] s rfl start
  intro rest
  induction rest with
  | nil =>
      intro done s split holds
      rw [List.append_nil] at split
      exact wp_pure.mpr (split ▸ holds)
  | cons b rest ih =>
      intro done s split holds
      show wp I (f b >>= fun _ => each f rest) _ X s
      rw [wp_bind]
      refine wp_mono (round done b rest s split holds) ?_ fun _ _ raised => raised
      intro _ s preserved
      exact ih (done ++ [b]) s (by rw [split, List.append_assoc]; rfl) preserved

/-! ## Crashes -/

/-- The states a crash of the procedure may leave. -/
def Leaves (p : Journal S E A) (s d : S) : Prop := d = s ∨ d ∈ (p s).passed

/-- The states after a procedure and any number of recoveries, each cut short anywhere or not at
all. -/
inductive Recovers (begin : Journal S E A) (recover : Journal S E B) (start : S) : S → Prop
  | begun {d : S} : Leaves begin start d → Recovers begin recover start d
  | again {d d' : S} : Recovers begin recover start d → Leaves recover d d' →
      Recovers begin recover start d'

theorem Recovers.invariant {begin : Journal S E A} {recover : Journal S E B} {start d : S}
    (reached : Recovers begin recover start d) {Q : A → S → Prop} {R : S → B → S → Prop}
    {X Y : E → S → Prop} (initial : I start) (first : wp I begin Q X start)
    (later : ∀ s, I s → wp I recover (R s) Y s) : I d := by
  induction reached with
  | begun left =>
      rcases left with rfl | passed
      · exact initial
      · exact first.1 _ passed
  | again _ left holds =>
      rcases left with rfl | passed
      · exact holds
      · exact (later _ holds).1 _ passed

/-- A procedure that never raises from a state ends as its postcondition asks. -/
theorem wp_returns {p : Journal S E A} (pre : wp I p Q (fun _ _ => False) s) :
    ∃ a, (p s).result = .ok a ∧ Q a (p s).state := by
  have post := pre.2
  revert post
  cases (p s).result with
  | ok a => exact fun post => ⟨a, rfl, post⟩
  | error e => exact False.elim

end Journal

end Base
