import MasterAgent.Orchestrator.Order

/-!
# What a trace shows

Predicates on the events of a run, and what one more event changes about them.

`holding` follows the reservations a run has: a claim answered with a token gives one, a committed
failure or a deleted row takes it away.
-/

namespace MasterAgent
open Base

/-- One event of a run: the state it is made in, the call and the answer. -/
abbrev TraceEvent : Type := Event (C := RunState × Call) fun x => x.2.Answer

/-- Some event of the trace has the property. -/
def Occurs (p : TraceEvent → Prop) (t : Trace) : Prop := ∃ e ∈ t, p e

theorem occurs_nil {p : TraceEvent → Prop} : ¬Occurs p [] := by simp [Occurs]

@[simp]
theorem occurs_concat {p : TraceEvent → Prop} {t : Trace} {e : TraceEvent} :
    Occurs p (t ++ [e]) ↔ Occurs p t ∨ p e := by
  simp [Occurs, or_and_right, exists_or]

theorem Occurs.append {p : TraceEvent → Prop} {t : Trace} (h : Occurs p t) (u : Trace) :
    Occurs p (t ++ u) :=
  let ⟨e, member, holds⟩ := h
  ⟨e, List.mem_append_left u member, holds⟩

/-! ## Events -/

/-- The provider is called for an action. -/
def executes (a : AgentAction) : TraceEvent → Prop
  | ⟨(_, .execute _ b), _⟩ => b = a
  | _ => False

/-- The provider is called for an action and returns. -/
def returns (a : AgentAction) : TraceEvent → Prop
  | ⟨(_, .execute _ b), .ok _⟩ => b = a
  | _ => False

/-- The provider is called for an action and raises. -/
def raises (a : AgentAction) (kind : ExnKind) : TraceEvent → Prop
  | ⟨(_, .execute _ b), .error e⟩ => b = a ∧ e.kind = kind
  | _ => False

/-- A compensation pass begins. -/
def startsPass : TraceEvent → Prop
  | ⟨(_, .record (.compensationStarted _)), _⟩ => True
  | _ => False

/-- An effect is compensated; the call may raise. -/
def compensates (a : AgentAction) : TraceEvent → Prop
  | ⟨(_, .compensate _ b _), _⟩ => b = a
  | _ => False

/-- An effect is compensated and the call returns. -/
def compensated (a : AgentAction) : TraceEvent → Prop
  | ⟨(_, .compensate _ b _), .ok _⟩ => b = a
  | _ => False

/-- A compensation is verified. -/
def confirms (a : AgentAction) : TraceEvent → Prop
  | ⟨(_, .verifyCompensation _ b _ _), .ok v⟩ => b = a ∧ v.verified = true
  | _ => False

/-- A row is deleted; the call may raise. -/
def clears : TraceEvent → Prop
  | ⟨(_, .clearCompleted _), _⟩ => True
  | _ => False

/-- An action is recorded in a failure state. -/
def fails : TraceEvent → Prop
  | ⟨(_, .record (.actionState _ r _)), _⟩ => r.state.isFailure = true
  | _ => False

/-- An action is recorded in a failure state while executed writes wait to be rolled back. -/
def failsPending : TraceEvent → Prop
  | ⟨(s, .record (.actionState _ r _)), _⟩ =>
      r.state.isFailure = true ∧ s.sideEffectsMayHaveOccurred ≠ []
  | _ => False

/-- An executed write waits to be rolled back. -/
def pending (e : TraceEvent) : Prop := e.1.1.sideEffectsMayHaveOccurred ≠ []

/-- The clock is read. -/
def reads (now : Int) : TraceEvent → Prop
  | ⟨(_, .now), .ok n⟩ => n = now
  | _ => False

/-- A claim on an action's key gives a token. -/
def claims (a : AgentAction) (token : String) : TraceEvent → Prop
  | ⟨(_, .claimAction b), .ok claim⟩ =>
      b = a ∧ (claim.state = .claimed ∨ claim.state = .failed) ∧ claim.token = some token
  | _ => False

/-- The guard before an effect is called. -/
def guards : TraceEvent → Prop
  | ⟨(_, .preEffectGuard _), _⟩ => True
  | _ => False

/-- The catalog accepts a connector for an action. -/
def accepts (a : AgentAction) (c : Connector) : TraceEvent → Prop
  | ⟨(_, .validateExecution b d), .ok verdict⟩ => b = a ∧ d = c ∧ verdict.1 = true
  | _ => False

/-- Bookkeeping raises: the record of an action's state or of a compensation pass, the deletion
of a row, or a connector call of a pass with a class that `_maybe_compensate` does not catch. -/
def unclean : TraceEvent → Prop
  | ⟨(_, .record (.actionState ..)), .error _⟩ => True
  | ⟨(_, .record (.compensationStarted _)), .error _⟩ => True
  | ⟨(_, .record (.compensationFinished _)), .error _⟩ => True
  | ⟨(_, .clearCompleted _), .error _⟩ => True
  | ⟨(_, .verify .compensation _ _ _), .error e⟩ => e.kind.compensationCatches = false
  | ⟨(_, .compensate ..), .error e⟩ => e.kind.compensationCatches = false
  | ⟨(_, .verifyCompensation ..), .error e⟩ => e.kind.compensationCatches = false
  | _ => False

/-- No bookkeeping raises. -/
def Clean (t : Trace) : Prop := ¬Occurs unclean t

@[simp]
theorem clean_concat {t : Trace} {e : TraceEvent} : Clean (t ++ [e]) ↔ Clean t ∧ ¬unclean e := by
  simp [Clean, not_or]

/-! ## Sequences of events -/

/-- A compensation pass begins after a row was deleted. -/
def Restarted (t : Trace) : Prop :=
  ∃ before e after, t = before ++ e :: after ∧ startsPass e ∧ Occurs clears before

/-- The effect of an action returned, was compensated and then verified to be undone. -/
def Undone (a : AgentAction) (t : Trace) : Prop :=
  ∃ before e between e' after, t = before ++ e :: (between ++ e' :: after) ∧
    Occurs (returns a) before ∧ compensated a e ∧ confirms a e'

/-- The last thing that happened, guards apart, is that a claim gave the token. -/
def FreshClaim (a : AgentAction) (token : String) (t : Trace) : Prop :=
  ∃ before e after, t = before ++ e :: after ∧ claims a token e ∧ ∀ e' ∈ after, guards e'

theorem FreshClaim.guard {a : AgentAction} {token : String} {t : Trace} {e : TraceEvent}
    (h : FreshClaim a token t) (guard : guards e) : FreshClaim a token (t ++ [e]) := by
  obtain ⟨before, claim, after, rfl, given, all⟩ := h
  refine ⟨before, claim, after ++ [e], by simp, given, fun e' member => ?_⟩
  rcases List.mem_append.mp member with old | now
  · exact all e' old
  · exact List.mem_singleton.mp now ▸ guard

theorem undone_concat {a : AgentAction} {t : Trace} {e e' : TraceEvent}
    (returned : Occurs (returns a) t) (undo : compensated a e) (confirm : confirms a e') :
    Undone a (t ++ [e] ++ [e']) :=
  ⟨t, e, [], e', [], by simp, returned, undo, confirm⟩

theorem restarted_concat {t : Trace} {e : TraceEvent} :
    Restarted (t ++ [e]) ↔ Restarted t ∨ startsPass e ∧ Occurs clears t := by
  constructor
  · rintro ⟨before, e', after, split, starts, cleared⟩
    rcases List.eq_nil_or_concat after with rfl | ⟨after, last, rfl⟩
    · obtain ⟨rfl, same⟩ := List.append_inj' split rfl
      obtain rfl := List.head_eq_of_cons_eq same
      exact .inr ⟨starts, cleared⟩
    · have split' : t ++ [e] = (before ++ e' :: after) ++ [last] := by simpa using split
      obtain ⟨rfl, -⟩ := List.append_inj' split' rfl
      exact .inl ⟨before, e', after, rfl, starts, cleared⟩
  · rintro (⟨before, e', after, rfl, starts, cleared⟩ | ⟨starts, cleared⟩)
    · exact ⟨before, e', after ++ [e], by simp, starts, cleared⟩
    · exact ⟨t, e, [], rfl, starts, cleared⟩

/-! ## Reservations -/

/-- What one event does to the token held for a key. -/
def holdStep (key : String) (held : Option String) : TraceEvent → Option String
  | ⟨(_, .claimAction a), .ok claim⟩ =>
      if a.idempotencyKey = key ∧ (claim.state = .claimed ∨ claim.state = .failed) then claim.token
      else held
  | ⟨(_, .failAction a _ _), .ok _⟩ => if a.idempotencyKey = key then none else held
  | ⟨(_, .clearCompleted a), .ok _⟩ => if a.idempotencyKey = key then none else held
  | _ => held

/-- The token a run holds for a key. -/
def holding (t : Trace) (key : String) : Option String := t.foldl (holdStep key) none

@[simp]
theorem holding_concat {t : Trace} {e : TraceEvent} {key : String} :
    holding (t ++ [e]) key = holdStep key (holding t key) e := by
  simp [holding]

/-! ## Ordinary events -/

/-- The event changes nothing the invariants follow. -/
structure Ordinary (e : TraceEvent) : Prop where
  executes : ∀ a, ¬executes a e
  startsPass : ¬startsPass e
  compensates : ∀ a, ¬compensates a e
  confirms : ∀ a, ¬confirms a e
  clears : ¬clears e
  fails : ¬fails e
  holds : ∀ key held, holdStep key held e = held

/-- Calls whose events are ordinary whatever they answer. -/
def isOrdinary : Call → Bool
  | .record (.actionState ..) | .record (.compensationStarted _) => false
  | .claimAction _ | .failAction .. | .clearCompleted _ => false
  | .execute .. | .compensate .. | .verifyCompensation .. => false
  | _ => true

theorem ordinary_of_call {s : RunState} {c : Call} {answer : c.Answer}
    (h : isOrdinary c = true) : Ordinary ⟨(s, c), answer⟩ := by
  cases c with
  | record e =>
      cases e <;> first
        | exact ⟨fun _ => id, id, fun _ => id, fun _ => id, id, id, fun _ _ => rfl⟩
        | exact absurd h Bool.false_ne_true
  | _ =>
      first
        | exact ⟨fun _ => id, id, fun _ => id, fun _ => id, id, id, fun _ _ => rfl⟩
        | exact absurd h Bool.false_ne_true

theorem failsPending_fails {e : TraceEvent} (h : failsPending e) : fails e := by
  unfold failsPending at h
  split at h
  · exact h.1
  · cases h

theorem returns_executes {a : AgentAction} {e : TraceEvent} (h : returns a e) : executes a e := by
  unfold returns at h
  split at h
  · exact h
  · cases h

end MasterAgent
