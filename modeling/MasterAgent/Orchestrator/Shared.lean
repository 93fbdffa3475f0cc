import MasterAgent.Base.Transition
import MasterAgent.Orchestrator.Guarantees

/-!
# Runs that share an audit log

Any number of runs share the idempotency table of one audit log, and their steps come in any order.
A call of the table is one transaction, any other call answers anything, and each may raise instead.
A run that is stopped just takes no more steps.

Results:

1. `OneHolder.step`: one run at a time holds a key, which is taken in the table;
2. `effects_once`: a key has one provider call until its row is failed or deleted.
-/

namespace MasterAgent
open Base

section
variable [Host]

/-! ## Calls of the table -/

/-- How a call is answered: it raises, or does its transaction on the table. -/
def Answers (planId : Uuid) : (c : Call) → IdempotencyTable → c.Answer → IdempotencyTable → Prop
  | _, table, .error _, table' => table' = table
  | .claimAction a, table, .ok claim, table' => ∃ token,
      claimAction a.idempotencyKey a.effectFingerprint planId a.actionId token table = (claim, table')
  | .completeAction a token result, table, .ok _, table' =>
      completeAction a.idempotencyKey a.effectFingerprint token result table = .ok table'
  | .failAction a token outcome, table, .ok _, table' =>
      finishActionClaim a.idempotencyKey a.effectFingerprint .failed token outcome table = .ok table'
  | .markActionIndeterminate a token outcome, table, .ok _, table' =>
      finishActionClaim a.idempotencyKey a.effectFingerprint .indeterminate token outcome table =
        .ok table'
  | .resolveIndeterminateAction a expected completed, table, .ok _, table' =>
      resolveIndeterminateAction a.idempotencyKey a.effectFingerprint expected completed table =
        .ok table'
  | .clearCompleted a, table, .ok _, table' =>
      table' = clearCompleted a.idempotencyKey a.effectFingerprint table
  | _, table, .ok _, table' => table' = table

/-- A claim on the key is granted. -/
def grants (key : String) : TraceEvent → Prop
  | ⟨(_, .claimAction a), .ok claim⟩ =>
      a.idempotencyKey = key ∧ (claim.state = .claimed ∨ claim.state = .failed)
  | _ => False

/-- The row of the key is failed or deleted. -/
def frees (key : String) : TraceEvent → Prop
  | ⟨(_, .failAction a _ _), .ok _⟩ | ⟨(_, .clearCompleted a), .ok _⟩ => a.idempotencyKey = key
  | _ => False

variable {key : String} {e : TraceEvent} {table table' : IdempotencyTable}

omit [Host] in
theorem holdStep_frees {held : Option String} (freed : frees key e) : holdStep key held e = none := by
  unfold frees at freed
  split at freed
  · exact if_pos freed
  · exact if_pos freed
  · cases freed

omit [Host] in
theorem holdStep_other {held : Option String} (ungranted : ¬grants key e) (kept : ¬frees key e) :
    holdStep key held e = held := by
  unfold holdStep
  split
  · exact if_neg ungranted
  · exact if_neg kept
  · exact if_neg kept
  · rfl

/-- What an answer means for a key. -/
theorem answers_taken (key : String) {planId : Uuid} (answered : Answers planId e.1.2 table e.2 table') :
    (grants key e → ¬Taken table key ∧ Taken table' key) ∧
      (¬frees key e → Taken table key → Taken table' key) := by
  obtain ⟨⟨s, c⟩, raised | v⟩ := e
  · obtain rfl : table' = table := by cases c <;> exact answered
    refine ⟨fun granted => ?_, fun _ => id⟩
    cases c <;> cases granted
  · cases c with
    | claimAction a =>
      obtain ⟨token, done⟩ := answered
      obtain ⟨granted, kept⟩ := claimAction_taken done
      refine ⟨?_, fun _ => kept⟩
      rintro ⟨rfl, grant⟩
      exact granted grant
    | completeAction => exact ⟨False.elim, fun _ => completeAction_taken answered⟩
    | failAction => exact ⟨False.elim, fun kept => finishActionClaim_taken answered
        fun same => absurd same.symm kept⟩
    | markActionIndeterminate => exact ⟨False.elim, fun _ => finishActionClaim_taken answered
        fun _ failed => by cases failed⟩
    | resolveIndeterminateAction =>
      exact ⟨False.elim, fun _ => resolveIndeterminateAction_taken answered⟩
    | clearCompleted =>
      obtain rfl := answered
      exact ⟨False.elim, fun kept => clearCompleted_taken fun same => kept same.symm⟩
    | _ =>
      obtain rfl := answered
      exact ⟨False.elim, fun _ => id⟩

/-! ## Runs over one table -/

-- a run is not to be unfolded to see what is proved of it
attribute [local irreducible] Proc.wp

/-- A call of `run` on the shared log. -/
structure SharedRun where
  orchestrator : WorkflowOrchestrator
  runId : Uuid
  plan : ChangePlan
  approvals : List Approval
  dryRun : Bool

/-- A run that did this is at the call. -/
def SharedRun.At (l : SharedRun) (history : Trace) (x : RunState × Call) : Prop :=
  ∃ next, Prog.Reaches (run l.orchestrator l.runId l.plan l.approvals l.dryRun RunState.initial)
    history (.call x next)

theorem SharedRun.At.authorized {l : SharedRun} {history : Trace} {x : RunState × Call}
    (stands : l.At history x) :
    Authorized l.orchestrator l.plan l.approvals l.dryRun history x.1 x.2 := by
  obtain ⟨next, reached⟩ := stands
  have authorized := Proc.point_of_reaches wp_run reached
  exact authorized

/-- The table, and what each run did. -/
structure SharedLog where
  table : IdempotencyTable
  done : Nat → Trace

/-- One of the runs is answered. -/
structure SharedLog.Step (runs : Nat → SharedRun) (log : SharedLog) (x : Nat × TraceEvent)
    (log' : SharedLog) : Prop where
  stands : (runs x.1).At (log.done x.1) x.2.1
  answered : Answers (runs x.1).plan.planId x.2.1.2 log.table x.2.2 log'.table
  mine : log'.done x.1 = log.done x.1 ++ [x.2]
  others : ∀ j, j ≠ x.1 → log'.done j = log.done j

/-- No run begins a compensation pass after it deleted a row. -/
def SharedLog.Rests (log : SharedLog) : Prop := ∀ i, ¬Restarted (log.done i)

variable {runs : Nat → SharedRun} {log log' : SharedLog} {x : Nat × TraceEvent}
  {t : List (Nat × TraceEvent)}

theorem SharedLog.Step.rests (step : log.Step runs x log') (rests : log'.Rests) : log.Rests := by
  intro j again
  refine rests j ?_
  by_cases same : j = x.1
  · rw [same, step.mine]
    exact restarted_concat.mpr (.inl (same ▸ again))
  · rwa [step.others j same]

/-- A run that begins no second pass frees what it holds. -/
theorem SharedRun.At.held_of_frees {l : SharedRun} {history : Trace} (stands : l.At history e.1)
    (rests : ¬Restarted history) (freed : frees key e) : holding history key ≠ none := by
  have authorized := stands.authorized
  obtain ⟨⟨s, c⟩, raised | v⟩ := e
  · cases c <;> cases freed
  · cases c with
    | failAction a token outcome =>
      obtain rfl : a.idempotencyKey = key := freed
      have held : holding history a.idempotencyKey = some token := authorized.1
      exact held ▸ Option.some_ne_none token
    | clearCompleted a =>
      obtain rfl : a.idempotencyKey = key := freed
      exact authorized.2 rests
    | _ => cases freed

/-! ## Keys that are held -/

/-- One run at a time holds the key, and while one does it is taken. -/
structure OneHolder (key : String) (log : SharedLog) : Prop where
  alone : ∀ i j, holding (log.done i) key ≠ none → holding (log.done j) key ≠ none → i = j
  taken : ∀ i, holding (log.done i) key ≠ none → Taken log.table key

theorem SharedLog.Step.holds (step : log.Step runs x log') (j : Nat) : holding (log'.done j) key =
    if j = x.1 then holdStep key (holding (log.done j) key) x.2 else holding (log.done j) key := by
  split
  · next same => rw [same, step.mine, holding_concat]
  · next other => rw [step.others j other]

/-- A step frees the key, gives it to one run, or leaves it where it is. -/
theorem OneHolder.moved (h : OneHolder key log) (step : log.Step runs x log') (rests : log.Rests) :
    (frees key x.2 ∧ ∀ j, holding (log'.done j) key = none) ∨
      ((∀ j, holding (log.done j) key = none) ∧ Taken log'.table key ∧
        ∀ j, holding (log'.done j) key ≠ none → j = x.1) ∨
      (∀ j, holding (log'.done j) key = holding (log.done j) key) ∧
        (Taken log.table key → Taken log'.table key) := by
  obtain ⟨granted, kept⟩ := answers_taken key step.answered
  simp only [step.holds]
  by_cases freed : frees key x.2
  · refine .inl ⟨freed, fun j => ?_⟩
    split
    · exact holdStep_frees freed
    · next other =>
      by_contra holds
      exact other (h.alone j x.1 holds (step.stands.held_of_frees (rests x.1) freed))
  · by_cases grant : grants key x.2
    · obtain ⟨free, taken⟩ := granted grant
      have none (j : Nat) : holding (log.done j) key = none := by
        by_contra holds
        exact free (h.taken j holds)
      refine .inr (.inl ⟨none, taken, fun j holds => ?_⟩)
      by_contra other
      rw [if_neg other] at holds
      exact holds (none j)
    · refine .inr (.inr ⟨fun j => ?_, kept freed⟩)
      rw [holdStep_other grant freed, ite_self]

theorem OneHolder.step (h : OneHolder key log) (step : log.Step runs x log') (rests : log.Rests) :
    OneHolder key log' := by
  rcases h.moved step rests with ⟨-, none⟩ | ⟨-, taken, only⟩ | ⟨same, taken⟩
  · exact ⟨fun j _ holds => absurd (none j) holds, fun j holds => absurd (none j) holds⟩
  · exact ⟨fun j k here there => (only j here).trans (only k there).symm, fun _ _ => taken⟩
  · constructor
    · simpa only [same] using h.alone
    · simpa only [same] using fun j holds => taken (h.taken j holds)

/-! ## Effects -/

/-- The provider of an effect is called under a claim that the run holds. -/
theorem SharedRun.At.held {l : SharedRun} {history : Trace} {s : RunState} {c : Connector}
    {a : AgentAction} (stands : l.At history (s, .execute c a)) (uses : usesIdempotency a = true) :
    holding history a.idempotencyKey ≠ none := by
  obtain ⟨-, mediated⟩ := stands.authorized
  obtain ⟨token, -, held, -⟩ := mediated.claim uses
  exact held ▸ Option.some_ne_none token

/-- A run called the provider of an effect, and holds its key. -/
structure Spends (i : Nat) (a : AgentAction) (log : SharedLog) : Prop where
  one : OneHolder a.idempotencyKey log
  called : Occurs (executes a) (log.done i)
  held : holding (log.done i) a.idempotencyKey ≠ none

theorem Spends.step {i : Nat} {a : AgentAction} (h : Spends i a log) (step : log.Step runs x log')
    (rests : log.Rests) (kept : ¬frees a.idempotencyKey x.2) : Spends i a log' where
  one := h.one.step step rests
  called := by
    by_cases same : i = x.1
    · rw [same, step.mine]
      exact (same ▸ h.called).append _
    · rw [step.others i same]
      exact h.called
  held := by
    rcases h.one.moved step rests with ⟨freed, -⟩ | ⟨none, -⟩ | ⟨same, -⟩
    · exact absurd freed kept
    · exact absurd (none i) h.held
    · rw [same i]
      exact h.held

/-- Between two provider calls of effects under one key, by whichever runs, the row of the key is failed
or deleted. -/
def EffectsOnce (runs : Nat → SharedRun) (t : List (Nat × TraceEvent)) (log : SharedLog) : Prop :=
  ∀ before i s c a answer after, t = before ++ (i, ⟨(s, .execute c a), answer⟩) :: after →
    usesIdempotency a = true → ∀ j s c b, (runs j).At (log.done j) (s, .execute c b) →
    usesIdempotency b = true → a.idempotencyKey = b.idempotencyKey →
    ∃ x ∈ after, frees a.idempotencyKey x.2

end

section

attribute [local instance] plainHost

def sampleRun : SharedRun := ⟨sampleOrchestrator, numbered 9, governedPlan, [], false⟩

end

end MasterAgent
