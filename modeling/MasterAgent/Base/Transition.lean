import Mathlib.Data.List.Basic

/-!
# Runs of a transition system

A system moves from state to state by events. A run is a finite list of events with the states
they lead through; whatever stops a participant just ends its events.

Results:

1. `Run.append`, `Run.split`: runs compose, and may be cut at every event;
2. `Run.invariant`: what every event preserves, a run preserves;
3. `Run.history`: the same for what relates a state to the events that led to it;
4. `exists_first`: the first of the events with a property.
-/

namespace Base

universe u v

variable {S : Type u} {E : Type v} {step : S → E → S → Prop}

/-- From one state to another by a list of events. -/
inductive Run (step : S → E → S → Prop) : S → List E → S → Prop
  | nil (s : S) : Run step s [] s
  | cons {s s' s'' : S} {e : E} {t : List E} :
      step s e s' → Run step s' t s'' → Run step s (e :: t) s''

namespace Run

theorem append {s s' s'' : S} {t u : List E} (h : Run step s t s') (g : Run step s' u s'') :
    Run step s (t ++ u) s'' := by
  induction h with
  | nil _ => exact g
  | cons first _ ih => exact .cons first (ih g)

theorem single {s s' : S} {e : E} (h : step s e s') : Run step s [e] s' := .cons h (.nil s')

/-- The states around one of the events. -/
theorem split {s s'' : S} {t : List E} {e : E} {u : List E} (h : Run step s (t ++ e :: u) s'') :
    ∃ before after, Run step s t before ∧ step before e after ∧ Run step after u s'' := by
  induction t generalizing s with
  | nil =>
      cases h with
      | cons now later => exact ⟨s, _, .nil s, now, later⟩
  | cons first t ih =>
      cases h with
      | cons now later =>
          obtain ⟨before, after, prior, at_e, rest⟩ := ih later
          exact ⟨before, after, .cons now prior, at_e, rest⟩

/-- What every event preserves holds at the end of a run. -/
theorem invariant {I : S → Prop} (preserved : ∀ s e s', I s → step s e s' → I s') {s s' : S}
    {t : List E} (h : Run step s t s') (start : I s) : I s' := by
  induction h with
  | nil _ => exact start
  | cons now _ ih => exact ih (preserved _ _ _ start now)

/-- What every event preserves of a state and the events that led to it. -/
theorem history {I : List E → S → Prop}
    (preserved : ∀ t s e s', I t s → step s e s' → I (t ++ [e]) s') {s s' : S} {before t : List E}
    (h : Run step s t s') (start : I before s) : I (before ++ t) s' := by
  induction h generalizing before with
  | nil _ => rwa [List.append_nil]
  | cons now _ ih => simpa using ih (preserved _ _ _ _ start now)

/-- The same of a run from the start. -/
theorem history_nil {I : List E → S → Prop}
    (preserved : ∀ t s e s', I t s → step s e s' → I (t ++ [e]) s') {s s' : S} {t : List E}
    (h : Run step s t s') (start : I [] s) : I t s' := h.history preserved start

/-- What every event of a run preserves. -/
theorem preserves {I : S → Prop} {s s' : S} {t : List E} (h : Run step s t s')
    (preserved : ∀ s, ∀ e ∈ t, ∀ s', I s → step s e s' → I s') (start : I s) : I s' := by
  induction h with
  | nil _ => exact start
  | cons now _ ih =>
      exact ih (fun s e member => preserved s e (List.mem_cons_of_mem _ member))
        (preserved _ _ List.mem_cons_self _ start now)

end Run

/-- The first event with a property. -/
theorem exists_first {p : E → Prop} {e : E} (holds : p e) (t after : List E) :
    ∃ before first rest, t ++ e :: after = before ++ first :: rest ∧ p first ∧
      (∀ x ∈ before, ¬p x) ∧ before ⊆ t := by
  induction t with
  | nil => exact ⟨[], e, after, rfl, holds, fun x member => absurd member List.not_mem_nil,
      List.nil_subset _⟩
  | cons x t ih =>
      by_cases now : p x
      · exact ⟨[], x, t ++ e :: after, rfl, now, fun y member => absurd member List.not_mem_nil,
          List.nil_subset _⟩
      · obtain ⟨before, first, rest, split, found, none, inside⟩ := ih
        refine ⟨x :: before, first, rest, by rw [List.cons_append, split]; rfl, found, ?_,
          List.cons_subset_cons x inside⟩
        intro y member
        rcases List.mem_cons.mp member with rfl | later
        · exact now
        · exact none y later

end Base
