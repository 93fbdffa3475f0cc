import Mathlib.Logic.Basic

/-!
# Computations that may be cut

A computation over a state returns, raises, or is cut short by a crash; whichever it does, the state
is what it has made of it. A point is a place where it may be stopped.

Results: one rule of the weakest precondition for each way to build a computation (`wp_bind`,
`wp_point`, `wp_handle`, `wp_cleanup`, …), and `wp_mono`, the rule of consequence.
-/

namespace Base

/-- How a computation ends. -/
inductive Ending (E A : Type) where
  | ok (a : A)
  | raised (e : E)
  | crashed
deriving DecidableEq

def Effect (S E A : Type) : Type := S → S × Ending E A

/-- What happens at a point. -/
inductive Cut (E : Type) where
  | passes
  | raises (e : E)
  | crashes

namespace Effect

variable {S E A B : Type}

def bind (p : Effect S E A) (f : A → Effect S E B) : Effect S E B := fun s =>
  match p s with
  | (s, .ok a) => f a s
  | (s, .raised e) => (s, .raised e)
  | (s, .crashed) => (s, .crashed)

instance : Monad (Effect S E) where
  pure a s := (s, .ok a)
  bind := bind

def raise (e : E) : Effect S E A := fun s => (s, .raised e)

def modify (f : S → S) : Effect S E Unit := fun s => (f s, .ok ())

def get : Effect S E S := fun s => (s, .ok s)

def point (cut : Cut E) : Effect S E Unit := fun s =>
  match cut with
  | .passes => (s, .ok ())
  | .raises e => (s, .raised e)
  | .crashes => (s, .crashed)

/-- `try: … except: …` -/
def handle (p : Effect S E A) (handler : E → Effect S E A) : Effect S E A := fun s =>
  match p s with
  | (s, .ok a) => (s, .ok a)
  | (s, .raised e) => handler e s
  | (s, .crashed) => (s, .crashed)

/-- The exception as a value. -/
def attempt (p : Effect S E A) : Effect S E (Except E A) := fun s =>
  match p s with
  | (s, .ok a) => (s, .ok (.ok a))
  | (s, .raised e) => (s, .ok (.error e))
  | (s, .crashed) => (s, .crashed)

/-- A clean-up when the computation raises; an exception of its own takes the other's place. -/
def cleanup (p : Effect S E A) (undo : Effect S E Unit) : Effect S E A :=
  p.handle fun e => bind undo fun _ => raise e

/-! ## Rules -/

/-- Started in `s`, the computation returns as `Q` says, raises as `X` says, or crashes as `C`
says. -/
def wp (p : Effect S E A) (Q : A → S → Prop) (X : E → S → Prop) (C : S → Prop) (s : S) : Prop :=
  match p s with
  | (s, .ok a) => Q a s
  | (s, .raised e) => X e s
  | (s, .crashed) => C s

variable {Q Q' : A → S → Prop} {X X' : E → S → Prop} {C C' : S → Prop} {s : S} {p : Effect S E A}

theorem wp_pure {a : A} : wp (pure a : Effect S E A) Q X C s ↔ Q a s := Iff.rfl

theorem wp_raise {e : E} : wp (raise e : Effect S E A) Q X C s ↔ X e s := Iff.rfl

theorem wp_modify {f : S → S} {Q : Unit → S → Prop} :
    wp (modify f : Effect S E Unit) Q X C s ↔ Q () (f s) := Iff.rfl

theorem wp_get {Q : S → S → Prop} : wp (get : Effect S E S) Q X C s ↔ Q s s := Iff.rfl

theorem wp_bind {p : Effect S E B} {f : B → Effect S E A} :
    wp (p >>= f) Q X C s ↔ wp p (fun b s => wp (f b) Q X C s) X C s := by
  show wp (bind p f) Q X C s ↔ _
  unfold wp bind
  rcases p s with ⟨s', b | e | _⟩ <;> rfl

theorem wp_point {cut : Cut E} {Q : Unit → S → Prop} :
    wp (point cut : Effect S E Unit) Q X C s ↔ (cut = .passes → Q () s) ∧
      (∀ e, cut = .raises e → X e s) ∧ (cut = .crashes → C s) := by
  unfold wp point
  cases cut with
  | passes => exact ⟨fun h => ⟨fun _ => h, fun _ => nofun, nofun⟩, fun h => h.1 rfl⟩
  | raises e =>
      refine ⟨fun h => ⟨nofun, fun e' same => ?_, nofun⟩, fun h => h.2.1 e rfl⟩
      cases same
      exact h
  | crashes => exact ⟨fun h => ⟨nofun, fun _ => nofun, fun _ => h⟩, fun h => h.2.2 rfl⟩

theorem wp_handle {handler : E → Effect S E A} :
    wp (p.handle handler) Q X C s ↔ wp p Q (fun e s => wp (handler e) Q X C s) C s := by
  unfold wp handle
  rcases p s with ⟨s', a | e | _⟩ <;> rfl

theorem wp_attempt {Q : Except E A → S → Prop} :
    wp p.attempt Q X C s ↔ wp p (fun a s => Q (.ok a) s) (fun e s => Q (.error e) s) C s := by
  unfold wp attempt
  rcases p s with ⟨s', a | e | _⟩ <;> rfl

theorem wp_cleanup {undo : Effect S E Unit} :
    wp (p.cleanup undo) Q X C s ↔ wp p Q (fun e s => wp undo (fun _ s => X e s) X C s) C s := by
  unfold cleanup
  rw [wp_handle]
  have each (e : E) (s : S) : wp (bind undo fun _ => (raise e : Effect S E A)) Q X C s ↔
      wp undo (fun _ s => X e s) X C s := wp_bind
  simp only [each]

theorem wp_mono (h : wp p Q X C s) (returns : ∀ a s, Q a s → Q' a s)
    (raises : ∀ e s, X e s → X' e s) (crashes : ∀ s, C s → C' s) : wp p Q' X' C' s := by
  unfold wp at *
  rcases ended : p s with ⟨s', a | e | _⟩ <;> rw [ended] at h
  · exact returns a s' h
  · exact raises e s' h
  · exact crashes s' h

/-! ## Computations that return -/

theorem returned_of_bind {p : Effect S E B} {f : B → Effect S E A} {s' : S} {a : A}
    (h : (p >>= f) s = (s', .ok a)) : ∃ b t, p s = (t, .ok b) ∧ f b t = (s', .ok a) := by
  have unfolded : bind p f s = (s', .ok a) := h
  unfold bind at unfolded
  rcases first : p s with ⟨t, b | e | _⟩ <;> rw [first] at unfolded
  · exact ⟨b, t, rfl, unfolded⟩
  · cases unfolded
  · cases unfolded

theorem bind_of_returned {p : Effect S E B} {f : B → Effect S E A} {t : S} {b : B}
    (h : p s = (t, .ok b)) : (p >>= f) s = f b t := by
  show bind p f s = _
  unfold bind
  rw [h]

end Effect

end Base
