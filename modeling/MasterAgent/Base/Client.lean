import Mathlib.Logic.Relation
import MasterAgent.Base.Program

/-!
# Clients of a shared world

A client makes requests to a world, which serves each of them in one step. Before every request, the
others who use the world may have changed it any number of times. A request may be refused, and a
client may raise.

Results:

1. `wp_runs`: what the calculus proves of a client holds of all its runs;
2. one rule for each way to build a client (`wp_bind`, `wp_ask`, `wp_tryCatch`, …).
-/

namespace Base

/-- A world that serves requests, and the steps of its other users. -/
structure Shared (C : Type) (R : C → Type) (W : Type) where
  serve : (c : C) → W → R c → W → Prop
  others : W → W → Prop

namespace Shared

variable {C W A B E : Type} {R : C → Type} (sys : Shared C R W)

/-- Any number of steps of the others. -/
def Elapses : W → W → Prop := Relation.ReflTransGen sys.others

/-- A run of a program, from world to world. -/
inductive Runs : Prog C R A → W → A → W → Prop
  | ret (a : A) (w : W) : Runs (.ret a) w a w
  | call {c : C} {next : R c → Prog C R A} {w w₁ w₂ w' : W} {r : R c} {a : A} :
      sys.Elapses w w₁ → sys.serve c w₁ r w₂ → Runs (next r) w₂ a w' → Runs (.call c next) w a w'

/-- Whatever the others do, the program returns as `Q` asks. -/
def after (Q : A → W → Prop) : Prog C R A → W → Prop
  | .ret a, w => Q a w
  | .call c next, w => ∀ w₁, sys.Elapses w w₁ → ∀ r w₂, sys.serve c w₁ r w₂ → after Q (next r) w₂

variable {sys}

theorem after_runs {p : Prog C R A} {Q : A → W → Prop} {w w' : W} {a : A}
    (run : sys.Runs p w a w') (pre : sys.after Q p w) : Q a w' := by
  induction run with
  | ret a w => exact pre
  | call elapsed served _ ih => exact ih (pre _ elapsed _ _ served)

theorem runs_bind {p : Prog C R A} {f : A → Prog C R B} {w w₁ w₂ : W} {a : A} {b : B}
    (first : sys.Runs p w a w₁) (second : sys.Runs (f a) w₁ b w₂) : sys.Runs (p.bind f) w b w₂ := by
  induction first with
  | ret a w => exact second
  | call elapsed served _ ih => exact .call elapsed served (ih second)

theorem after_bind {p : Prog C R A} {f : A → Prog C R B} {Q : B → W → Prop} {w : W} :
    sys.after Q (p.bind f) w ↔ sys.after (fun a w => sys.after Q (f a) w) p w := by
  induction p generalizing w with
  | ret a => exact Iff.rfl
  | call c next ih =>
    exact forall₂_congr fun w₁ _ => forall₃_congr fun r w₂ _ => ih r

theorem after_mono {p : Prog C R A} {Q Q' : A → W → Prop} {w : W} (pre : sys.after Q p w)
    (wider : ∀ a w, Q a w → Q' a w) : sys.after Q' p w := by
  induction p generalizing w with
  | ret a => exact wider a w pre
  | call c next ih => exact fun w₁ elapsed r w₂ served => ih r (pre w₁ elapsed r w₂ served)

/-- What every step of the others preserves lasts. -/
theorem Elapses.invariant {I : W → Prop} (preserved : ∀ w w', I w → sys.others w w' → I w')
    {w w' : W} (elapsed : sys.Elapses w w') (holds : I w) : I w' := by
  induction elapsed with
  | refl => exact holds
  | tail _ step ih => exact preserved _ _ ih step

end Shared

/-! ## Clients -/

/-- A program whose requests may be refused, and which may raise. -/
def Client (C : Type) (R : C → Type) (E A : Type) : Type :=
  Prog C (fun c => Except E (R c)) (Except E A)

namespace Client

variable {C W A B E : Type} {R : C → Type}

protected def pure (a : A) : Client C R E A := Prog.ret (.ok a)

protected def bind (p : Client C R E A) (f : A → Client C R E B) : Client C R E B :=
  Prog.bind p fun
    | .ok a => f a
    | .error e => .ret (.error e)

instance : Monad (Client C R E) where
  pure := Client.pure
  bind := Client.bind

/-- Make a request. What it is refused with is raised. -/
def ask (c : C) : Client C R E (R c) := .call c .ret

def lift (x : Except E A) : Client C R E A := .ret x

/-- Run a handler on what is raised. -/
def tryCatch (p : Client C R E A) (handler : E → Client C R E A) : Client C R E A :=
  Prog.bind p fun
    | .ok a => .ret (.ok a)
    | .error e => handler e

/-- `if not holds: raise raised` -/
def ensure (holds : Bool) (raised : E) : Client C R E Unit :=
  lift (if holds then .ok () else .error raised)

variable {sys : Shared C (fun c => Except E (R c)) W}

/-- What a client returns is as `Q` asks, and what it raises as `X` asks. -/
def Ends (Q : A → W → Prop) (X : E → W → Prop) : Except E A → W → Prop
  | .ok a, w => Q a w
  | .error e, w => X e w

/-- Whatever the others do, the client returns as `Q` asks or raises as `X` asks. -/
def wp (sys : Shared C (fun c => Except E (R c)) W) (p : Client C R E A) (Q : A → W → Prop)
    (X : E → W → Prop) (w : W) : Prop :=
  sys.after (Ends Q X) p w

variable {Q : A → W → Prop} {X : E → W → Prop} {w : W}

theorem wp_runs {p : Client C R E A} {out : Except E A} {w' : W} (run : sys.Runs p w out w')
    (pre : wp sys p Q X w) : Ends Q X out w' := Shared.after_runs run pre

theorem runs_bind {p : Client C R E B} {f : B → Client C R E A} {w₁ w₂ : W} {b : B}
    {out : Except E A} (first : sys.Runs p w (.ok b) w₁) (second : sys.Runs (f b) w₁ out w₂) :
    sys.Runs (p >>= f : Client C R E A) w out w₂ := by
  show sys.Runs (Prog.bind p _) w out w₂
  exact Shared.runs_bind first second

theorem runs_pure {a : A} : sys.Runs (pure a : Client C R E A) w (.ok a) w := .ret _ w

theorem runs_ask {c : C} {r : Except E (R c)} {w₁ w₂ : W} (elapsed : sys.Elapses w w₁)
    (served : sys.serve c w₁ r w₂) : sys.Runs (ask c : Client C R E (R c)) w r w₂ :=
  .call elapsed served (.ret r w₂)

theorem runs_lift {x : Except E A} {a : A} (returns : x = .ok a) :
    sys.Runs (lift x : Client C R E A) w (.ok a) w := returns ▸ .ret _ w

theorem runs_ensure {holds : Bool} {raised : E} (passes : holds = true) :
    sys.Runs (ensure holds raised : Client C R E Unit) w (.ok ()) w :=
  runs_lift (if_pos passes)

theorem runs_tryCatch {p : Client C R E A} {handler : E → Client C R E A} {a : A} {w₁ : W}
    (run : sys.Runs p w (.ok a) w₁) : sys.Runs (tryCatch p handler) w (.ok a) w₁ := by
  show sys.Runs (Prog.bind p _) w (Except.ok a) w₁
  exact Shared.runs_bind run (.ret _ _)

theorem wp_pure {a : A} : wp sys (pure a : Client C R E A) Q X w ↔ Q a w := Iff.rfl

theorem wp_bind {p : Client C R E B} {f : B → Client C R E A} :
    wp sys (p >>= f) Q X w ↔ wp sys p (fun b w => wp sys (f b) Q X w) X w := by
  refine Shared.after_bind.trans (iff_of_eq ?_)
  unfold wp
  congr 1
  funext out w
  cases out <;> rfl

theorem wp_tryCatch {p : Client C R E A} {handler : E → Client C R E A} :
    wp sys (tryCatch p handler) Q X w ↔
      wp sys p Q (fun e w => wp sys (handler e) Q X w) w := by
  refine Shared.after_bind.trans (iff_of_eq ?_)
  unfold wp
  congr 1
  funext out w
  cases out <;> rfl

/-- A request is served in whatever world the others left. -/
theorem wp_ask {c : C} {Q : R c → W → Prop} :
    wp sys (ask c : Client C R E (R c)) Q X w ↔
      ∀ w₁, sys.Elapses w w₁ → ∀ r w₂, sys.serve c w₁ r w₂ → Ends Q X r w₂ := Iff.rfl

theorem wp_lift {x : Except E A} :
    wp sys (lift x : Client C R E A) Q X w ↔ Ends Q X x w := Iff.rfl

theorem wp_ensure {holds : Bool} {raised : E} {Q : Unit → W → Prop}
    (passes : holds = true → Q () w) (fails : holds = false → X raised w) :
    wp sys (ensure holds raised : Client C R E Unit) Q X w := by
  unfold ensure
  rw [wp_lift]
  cases holds
  · exact fails rfl
  · exact passes rfl

theorem wp_mono {p : Client C R E A} {Q' : A → W → Prop} {X' : E → W → Prop}
    (pre : wp sys p Q X w) (returns : ∀ a w, Q a w → Q' a w) (raises : ∀ e w, X e w → X' e w) :
    wp sys p Q' X' w := by
  refine Shared.after_mono pre fun out w post => ?_
  cases out with
  | ok a => exact returns a w post
  | error e => exact raises e w post

attribute [irreducible] wp

end Client

end Base
