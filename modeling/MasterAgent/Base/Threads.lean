import Mathlib.Logic.Relation
import MasterAgent.Base.Program
import MasterAgent.Base.Transition

/-!
# Threads over a shared world

Any number of numbered threads run programs that make calls to one world. A step starts a thread,
serves the call that a thread is at, or changes the world from outside. A thread that is stopped
just takes no more steps.

Results:

1. one rule for each way to build a program under interference (`keeps_bind`, `keeps_elapses`, …);
2. `Pool.guaranteed`: where every program keeps its part of the bargain while the others keep
   theirs, every run of the threads moves the world as agreed;
3. `Pool.run_advance`: a thread that is served without interference has a run.
-/

namespace Base

universe u v w

variable {C : Type u} {R : C → Type u} {A B : Type u} {L : Type v} {W : Type w}

/-! ## Programs under interference -/

namespace Prog

/-- Whatever the others do between the calls, every call moves the world as `moves` says, and what
is returned is as `Q` asks. -/
def keeps (others : W → W → Prop) (serve : (c : C) → W → R c → W → Prop) (moves : W → W → Prop)
    (Q : A → W → Prop) : Prog C R A → W → Prop
  | ret a, w => Q a w
  | call c next, w => ∀ w₁, Relation.ReflTransGen others w w₁ → ∀ r w₂, serve c w₁ r w₂ →
      moves w₁ w₂ ∧ keeps others serve moves Q (next r) w₂

variable {others moves : W → W → Prop} {serve : (c : C) → W → R c → W → Prop}

theorem keeps_bind {p : Prog C R A} {f : A → Prog C R B} {Q : B → W → Prop} {w : W} :
    keeps others serve moves Q (p.bind f) w ↔
      keeps others serve moves (fun a w => keeps others serve moves Q (f a) w) p w := by
  induction p generalizing w with
  | ret a => exact Iff.rfl
  | call c next ih =>
    exact forall₂_congr fun w₁ _ => forall₃_congr fun r w₂ _ => and_congr_right fun _ => ih r

theorem keeps_mono {p : Prog C R A} {Q Q' : A → W → Prop} {w : W}
    (pre : keeps others serve moves Q p w) (wider : ∀ a w, Q a w → Q' a w) :
    keeps others serve moves Q' p w := by
  induction p generalizing w with
  | ret a => exact wider a w pre
  | call c next ih =>
    intro w₁ elapsed r w₂ served
    have ⟨moved, later⟩ := pre w₁ elapsed r w₂ served
    exact ⟨moved, ih r later⟩

/-- The others may have moved before the program does. -/
theorem keeps_elapses {p : Prog C R A} {w w' : W}
    (pre : keeps others serve moves (fun _ _ => True) p w)
    (elapsed : Relation.ReflTransGen others w w') :
    keeps others serve moves (fun _ _ => True) p w' := by
  cases p with
  | ret a => trivial
  | call c next => exact fun w₁ more => pre w₁ (elapsed.trans more)

/-- What a program returns, served by a function that answers every call. -/
def eval (answer : (c : C) → W → R c × W) : Prog C R A → W → A × W
  | ret a, w => (a, w)
  | call c next, w => eval answer (next (answer c w).1) (answer c w).2

variable {answer : (c : C) → W → R c × W}

theorem eval_bind {p : Prog C R A} {f : A → Prog C R B} {w : W} :
    eval answer (p.bind f) w = eval answer (f (eval answer p w).1) (eval answer p w).2 := by
  induction p generalizing w with
  | ret a => rfl
  | call c next ih => exact ih _

/-- What a program keeps to is what it returns when each answer is one that the world may give. -/
theorem keeps_eval {p : Prog C R A} {Q : A → W → Prop} {w : W}
    (pre : keeps others serve moves Q p w)
    (served : ∀ c w, serve c w (answer c w).1 (answer c w).2) :
    Q (eval answer p w).1 (eval answer p w).2 := by
  induction p generalizing w with
  | ret a => exact pre
  | call c next ih => exact ih _ (pre w .refl _ _ (served c w)).2

/-- The first calls of a program, served by a function that answers every call. -/
def advance (answer : (c : C) → W → R c × W) : Nat → Prog C R A → W → Prog C R A × W
  | 0, p, w => (p, w)
  | _ + 1, ret a, w => (ret a, w)
  | n + 1, call c next, w => advance answer n (next (answer c w).1) (answer c w).2

/-- Some number of calls leads to what is returned. -/
theorem advance_eval (p : Prog C R A) (w : W) :
    ∃ n, advance answer n p w = (ret (eval answer p w).1, (eval answer p w).2) := by
  induction p generalizing w with
  | ret a => exact ⟨0, rfl⟩
  | call c next ih =>
    obtain ⟨n, advanced⟩ := ih (answer c w).1 (answer c w).2
    exact ⟨n + 1, advanced⟩

end Prog

/-! ## Procedures under interference -/

namespace Proc

variable {S C W E A B : Type} {R : C → Type}

/-- The same of a procedure: what it returns is as `Q` asks, and what it raises as `X` asks. -/
def keeps (others : W → W → Prop) (serve : (x : S × C) → W → R x.2 → W → Prop)
    (moves : W → W → Prop) (p : Proc S C R E A) (Q : A → S → W → Prop) (X : E → S → W → Prop)
    (s : S) (w : W) : Prop :=
  Prog.keeps others serve moves (fun out w => match out with
    | (.ok a, s) => Q a s w
    | (.error e, s) => X e s w) (p s) w

variable {others moves : W → W → Prop} {serve : (x : S × C) → W → R x.2 → W → Prop}
  {Q : A → S → W → Prop} {X : E → S → W → Prop} {s : S} {w : W}

theorem keeps_bind {p : Proc S C R E B} {f : B → Proc S C R E A} :
    keeps others serve moves (p >>= f) Q X s w ↔
      keeps others serve moves p (fun b s w => keeps others serve moves (f b) Q X s w) X s w := by
  show Prog.keeps _ _ _ _ ((p s).bind _) w ↔ _
  rw [Prog.keeps_bind]
  unfold keeps
  apply iff_of_eq
  congr 1
  funext out w
  obtain ⟨_ | b, s⟩ := out <;> rfl

theorem keeps_call {c : C} {Q : R c → S → W → Prop} :
    keeps others serve moves (call c : Proc S C R E (R c)) Q X s w ↔
      ∀ w₁, Relation.ReflTransGen others w w₁ → ∀ r w₂, serve (s, c) w₁ r w₂ →
        moves w₁ w₂ ∧ Q r s w₂ := Iff.rfl

theorem keeps_mono {p : Proc S C R E A} {Q' : A → S → W → Prop} {X' : E → S → W → Prop}
    (pre : keeps others serve moves p Q X s w) (returns : ∀ a s w, Q a s w → Q' a s w)
    (raises : ∀ e s w, X e s w → X' e s w) : keeps others serve moves p Q' X' s w := by
  refine Prog.keeps_mono pre ?_
  rintro ⟨_ | a, s⟩ w out
  · exact raises _ _ _ out
  · exact returns _ _ _ out

/-- What a procedure returns or raises, served by a function that answers every call. -/
def eval (answer : (x : S × C) → W → R x.2 × W) (p : Proc S C R E A) (s : S) (w : W) :
    (Except E A × S) × W :=
  (p s).eval answer w

variable {answer : (x : S × C) → W → R x.2 × W}

theorem eval_pure {a : A} : eval answer (pure a : Proc S C R E A) s w = ((.ok a, s), w) := rfl

theorem eval_bind {p : Proc S C R E B} {f : B → Proc S C R E A} :
    eval answer (p >>= f) s w =
      match eval answer p s w with
      | ((.ok b, s), w) => eval answer (f b) s w
      | ((.error e, s), w) => ((.error e, s), w) := by
  show Prog.eval answer ((p s).bind _) w = _
  rw [Prog.eval_bind]
  unfold eval
  obtain ⟨⟨_ | b, s⟩, w⟩ := (p s).eval answer w <;> rfl

theorem eval_bind_ok {p : Proc S C R E B} {f : B → Proc S C R E A} {b : B} {s' : S} {w' : W}
    (first : eval answer p s w = ((.ok b, s'), w')) :
    eval answer (p >>= f) s w = eval answer (f b) s' w' := by
  rw [eval_bind, first]

theorem eval_bind_error {p : Proc S C R E B} {f : B → Proc S C R E A} {e : E} {s' : S} {w' : W}
    (first : eval answer p s w = ((.error e, s'), w')) :
    eval answer (p >>= f) s w = ((.error e, s'), w') := by
  rw [eval_bind, first]

theorem eval_modify {f : S → S} :
    eval answer (modify f : Proc S C R E PUnit) s w = ((.ok ⟨⟩, f s), w) := rfl

theorem eval_lift {x : Except E A} :
    eval answer (lift x : Proc S C R E A) s w = ((x, s), w) := by
  cases x <;> rfl

theorem eval_call {c : C} :
    eval answer (call c : Proc S C R E (R c)) s w =
      ((.ok (answer (s, c) w).1, s), (answer (s, c) w).2) := rfl

end Proc

/-! ## Pools of threads -/

/-- The threads that have been started, each with a label and what is left of its program. -/
structure Pool (L : Type v) (C : Type u) (R : C → Type u) (A : Type u) (W : Type w) where
  world : W
  threads : List (L × Prog C R A)

inductive PoolEvent (L : Type v) (C : Type u) (R : C → Type u)
  | started (label : L)
  | served (thread : Nat) (call : C) (answer : R call)
  | elapsed

namespace Pool

/-- A step of the threads over a world in which `others` moves too. -/
inductive Step (serve : Nat → L → (c : C) → W → R c → W → Prop) (others : W → W → Prop)
    (body : L → Prog C R A) : Pool L C R A W → PoolEvent L C R → Pool L C R A W → Prop
  | started (p : Pool L C R A W) (l : L) :
      Step serve others body p (.started l) ⟨p.world, p.threads ++ [(l, body l)]⟩
  | served {p : Pool L C R A W} {i : Nat} {l : L} {c : C} {next : R c → Prog C R A} {r : R c}
      {w' : W} : p.threads[i]? = some (l, .call c next) → serve i l c p.world r w' →
      Step serve others body p (.served i c r) ⟨w', p.threads.set i (l, next r)⟩
  | elapsed {p : Pool L C R A W} {w' : W} : others p.world w' →
      Step serve others body p .elapsed ⟨w', p.threads⟩

section

variable {serve : Nat → L → (c : C) → W → R c → W → Prop} {others : W → W → Prop}
  {body : L → Prog C R A} {moves : Nat → W → W → Prop} {fresh : Nat → W → Prop}

/-- What a thread may see happen between its own steps. -/
def rely (others : W → W → Prop) (moves : Nat → W → W → Prop) (i : Nat) (w w' : W) : Prop :=
  others w w' ∨ ∃ k, k ≠ i ∧ moves k w w'

/-- A step of any thread, or from outside. -/
def change (others : W → W → Prop) (moves : Nat → W → W → Prop) (w w' : W) : Prop :=
  others w w' ∨ ∃ k, moves k w w'

/-- Every started thread keeps its part from here on, and the numbers of the threads to come are
fresh. -/
structure Settled (serve : Nat → L → (c : C) → W → R c → W → Prop) (others : W → W → Prop)
    (moves : Nat → W → W → Prop) (fresh : Nat → W → Prop) (p : Pool L C R A W) : Prop where
  keeps : ∀ (i : Nat) (l : L) (q : Prog C R A), p.threads[i]? = some (l, q) →
    q.keeps (rely others moves i) (serve i l) (moves i) (fun _ _ => True) p.world
  fresh : ∀ i, p.threads.length ≤ i → fresh i p.world

theorem Settled.empty {w : W} (start : ∀ i, fresh i w) :
    Settled serve others moves fresh (⟨w, []⟩ : Pool L C R A W) where
  keeps i l q found := by cases found
  fresh i _ := start i

/-- One step. -/
theorem Settled.step {p p' : Pool L C R A W} {e : PoolEvent L C R}
    (sound : ∀ i l w, fresh i w →
      (body l).keeps (rely others moves i) (serve i l) (moves i) (fun _ _ => True) w)
    (stable : ∀ i w w', fresh i w → rely others moves i w w' → fresh i w')
    (settled : Settled serve others moves fresh p) (step : Step serve others body p e p') :
    Settled serve others moves fresh p' ∧
      Relation.ReflTransGen (change others moves) p.world p'.world := by
  cases step with
  | started l =>
    refine ⟨⟨fun i label q found => ?_, fun i late => ?_⟩, .refl⟩
    · rw [List.getElem?_append] at found
      split at found
      · exact settled.keeps i label q found
      · next late =>
        rw [List.getElem?_singleton] at found
        split at found
        · obtain ⟨rfl, rfl⟩ := Prod.mk.inj (Option.some.inj found)
          exact sound i l p.world (settled.fresh i (Nat.le_of_not_lt late))
        · cases found
    · rw [List.length_append] at late
      exact settled.fresh i (by omega)
  | @served i l c next r w' at_call served =>
    have ⟨moved, later⟩ := settled.keeps i l _ at_call p.world .refl r w' served
    have inside : i < p.threads.length := (List.getElem?_eq_some_iff.mp at_call).1
    refine ⟨⟨fun k label q found => ?_, fun k late => ?_⟩, .single (.inr ⟨i, moved⟩)⟩
    · rw [List.getElem?_set] at found
      split at found
      · next same =>
        obtain ⟨rfl, rfl⟩ := Prod.mk.inj (Option.some.inj found)
        exact same ▸ later
      · next other =>
        exact Prog.keeps_elapses (settled.keeps k label q found) (.single (.inr ⟨i, other, moved⟩))
    · rw [List.length_set] at late
      exact stable k _ _ (settled.fresh k late) (.inr ⟨i, by omega, moved⟩)
  | elapsed moved =>
    exact ⟨⟨fun k label q found => Prog.keeps_elapses (settled.keeps k label q found)
      (.single (.inl moved)), fun k late => stable k _ _ (settled.fresh k late) (.inl moved)⟩,
      .single (.inl moved)⟩

/-- Every run of the threads moves the world as agreed. -/
theorem guaranteed {p p' : Pool L C R A W} {t : List (PoolEvent L C R)}
    (sound : ∀ i l w, fresh i w →
      (body l).keeps (rely others moves i) (serve i l) (moves i) (fun _ _ => True) w)
    (stable : ∀ i w w', fresh i w → rely others moves i w w' → fresh i w')
    (settled : Settled serve others moves fresh p) (run : Run (Step serve others body) p t p') :
    Settled serve others moves fresh p' ∧
      Relation.ReflTransGen (change others moves) p.world p'.world := by
  induction run with
  | nil p => exact ⟨settled, .refl⟩
  | cons now _ ih =>
    have ⟨settled, moved⟩ := settled.step sound stable now
    have ⟨settled, later⟩ := ih settled
    exact ⟨settled, moved.trans later⟩

/-- A thread that is served without interference. -/
theorem run_advance {answer : (c : C) → W → R c × W} {i : Nat} {l : L}
    (served : ∀ c w, serve i l c w (answer c w).1 (answer c w).2) (n : Nat)
    {threads : List (L × Prog C R A)} {q : Prog C R A} {w : W}
    (at_q : threads[i]? = some (l, q)) :
    ∃ t, Run (Step serve others body) ⟨w, threads⟩ t
      ⟨(q.advance answer n w).2, threads.set i (l, (q.advance answer n w).1)⟩ := by
  induction n generalizing q w threads with
  | zero =>
    have same : threads.set i (l, q) = threads := by
      obtain ⟨inside, there⟩ := List.getElem?_eq_some_iff.mp at_q
      rw [← there, List.set_getElem_self]
    exact ⟨[], by simpa only [Prog.advance, same] using Run.nil _⟩
  | succ n ih =>
    cases q with
    | ret a =>
      have same : threads.set i (l, .ret a) = threads := by
        obtain ⟨inside, there⟩ := List.getElem?_eq_some_iff.mp at_q
        rw [← there, List.set_getElem_self]
      exact ⟨[], by simpa only [Prog.advance, same] using Run.nil _⟩
    | call c next =>
      have inside : i < threads.length := (List.getElem?_eq_some_iff.mp at_q).1
      have now : Step serve others body ⟨w, threads⟩ (.served i c (answer c w).1)
          ⟨(answer c w).2, threads.set i (l, next (answer c w).1)⟩ :=
        .served at_q (served c w)
      have at_next : (threads.set i (l, next (answer c w).1))[i]? = some (l, next (answer c w).1) :=
        List.getElem?_set_self inside
      obtain ⟨t, later⟩ := ih (w := (answer c w).2) at_next
      rw [List.set_set] at later
      exact ⟨_ :: t, .cons now later⟩

end

end Pool

end Base
