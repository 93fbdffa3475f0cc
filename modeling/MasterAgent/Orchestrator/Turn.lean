import MasterAgent.Orchestrator.Order
import MasterAgent.Orchestrator.Pass

/-!
# The turn of an action

What holds between the turns of a run (`Head`) and in the turn of an action (`Going`), and how a turn
ends.

Results:

1. `wp_conclude`: reporting an action, and compensating if it failed, ends its turn;
2. `wp_screen`: an action that may be attempted passed its checks, and any other is concluded.
-/

namespace MasterAgent
open Base

section
variable [Host]

/-- A pass began, or an action failed in a plan to be rolled back while executed writes waited. -/
def Due (plan : ChangePlan) (dryRun : Bool) (t : Trace) : Prop :=
  Occurs startsPass t ∨ RollsBack plan dryRun ∧ Occurs failsPending t

/-- Between two turns. -/
structure Head (plan : ChangePlan) (dryRun coherence : Bool) (done : List AgentAction)
    (s : RunState) (t : Trace) : Prop where
  inv : Inv plan done [] s t
  resting : s.abortRemaining = false → ¬Due plan dryRun t
  settled : s.abortRemaining = true → s.sideEffectsMayHaveOccurred = []
  pending : s.sideEffectsMayHaveOccurred ≠ [] → Occurs pending t
  gated : coherence = true → s.sideEffectsMayHaveOccurred = []

/-- In the turn of an action, whatever happened in it. -/
structure Going (plan : ChangePlan) (dryRun : Bool) (done : List AgentAction) (a : AgentAction)
    (s : RunState) (t : Trace) : Prop where
  inv : Inv plan done [a] s t
  going : s.abortRemaining = false
  due : Due plan dryRun t → ¬Clean t ∧ s.sideEffectsMayHaveOccurred ≠ [] ∧ RollsBack plan dryRun

/-- In the turn of an action whose provider was not called. -/
structure Thwarted (plan : ChangePlan) (dryRun : Bool) (done : List AgentAction) (a : AgentAction)
    (s : RunState) (t : Trace) : Prop extends Going plan dryRun done a s t where
  new : ¬Occurs (executes a) t
  unclaimed : s.claimToken = none

/-- What a report must say to be filed for an action. -/
structure Fits (a : AgentAction) (r : ActionReport) (s : RunState) (t : Trace) : Prop where
  mine : r.actionId = a.actionId
  waits : r.state = .verified → a.risk = .reversibleWrite →
    ∃ item ∈ s.sideEffectsMayHaveOccurred, item.action = a ∧ item.reportIndex = s.reports.length
  outcome : a.risk = .reversibleWrite → Occurs (returns a) t → r.state.isOutcome = true
  ready : r.state.isDone = true → ∀ d ∈ a.dependencies, Succeeded s.stateById d

variable {o : WorkflowOrchestrator} {plan : ChangePlan} {approvals : List Approval}
  {dryRun coherence : Bool} {done : List AgentAction} {a : AgentAction} {r : ActionReport}
  {s : RunState} {t : Trace} {e : TraceEvent}

/-! ## Invariants over a turn -/

namespace Inv

/-- The turn of an action that was not executed yet begins. -/
theorem begin (h : Inv plan done [] s t) (turn : Turn plan done a) : Inv plan done [a] s t where
  ledger := h.ledger.mono (by simp)
  books := h.books.begin (fun runs => turn.fresh (by simpa using h.ledger.executed a runs)) turn
  progress := ⟨fun b member succeeded =>
    List.mem_append_left _ (by simpa using h.progress.visited b member succeeded),
    h.progress.closed⟩

/-- The action is reported, and what is reported of it goes on record. -/
theorem report (h : Inv plan done [a] s t) (turn : Turn plan done a) (fits : Fits a r s t)
    {prior : Option Fields} {answer : Except Exn Unit} :
    Inv plan (done ++ [a]) [] (s.report r)
      (t ++ [⟨(s.report r, .record (.actionState a r prior)), answer⟩]) where
  ledger := by
    rw [List.append_nil]
    exact h.ledger.event (fun _ => False.elim) (by rintro (clear | ⟨b, undo | confirm⟩) <;>
      contradiction) (fun _ => False.elim) fun _ _ _ token _ => Option.some_ne_none token
  books := h.books.report turn fits.mine fits.waits fits.outcome
  progress := by
    rw [List.append_nil, RunState.stateById_report, fits.mine]
    exact h.progress.report turn fits.ready

/-- The turn of a reported action goes on: something raised. -/
theorem reopen (h : Inv plan (done ++ [a]) [] s t) (raised : ¬Clean t)
    (new : ¬Occurs (executes a) t) : Inv plan done [a] s t where
  ledger := by simpa using h.ledger
  books := h.books.reopen raised new
  progress := by simpa using h.progress

end Inv

omit [Host] in
theorem failsPending_report {prior : Option Fields} {answer : Except Exn Unit} :
    failsPending ⟨(s.report r, .record (.actionState a r prior)), answer⟩ ↔
      r.state.isFailure = true ∧ s.sideEffectsMayHaveOccurred ≠ [] := Iff.rfl

/-- Only a begun pass, or a recorded failure, makes a rollback due. -/
theorem due_concat : Due plan dryRun (t ++ [e]) ↔
    Due plan dryRun t ∨ startsPass e ∨ RollsBack plan dryRun ∧ failsPending e := by
  unfold Due
  rw [occurs_concat, occurs_concat]
  tauto

theorem Ordinary.due (h : Ordinary e) : Due plan dryRun (t ++ [e]) ↔ Due plan dryRun t := by
  rw [due_concat]
  refine or_iff_left ?_
  rintro (starts | ⟨-, fails⟩)
  · exact h.startsPass starts
  · exact h.fails (failsPending_fails fails)

/-! ## Concluding -/

/-- An action is reported and recorded, and if it failed what was executed is rolled back. -/
theorem wp_conclude {compensates : Bool} {prior : Option Fields} (inv : Inv plan done [a] s t)
    (turn : Turn plan done a) (fits : Fits a r s t)
    (settled : s.abortRemaining = true → s.sideEffectsMayHaveOccurred = [])
    (gated : coherence = true → s.sideEffectsMayHaveOccurred = [])
    (due : s.abortRemaining = false → Due plan dryRun t → compensates = true ∧ ¬Clean t ∧
      s.sideEffectsMayHaveOccurred ≠ [] ∧ RollsBack plan dryRun)
    (failing : compensates = false → r.state.isFailure = true →
      s.sideEffectsMayHaveOccurred = [])
    (going : compensates = true → s.abortRemaining = false) :
    Proc.wp (Allowed o plan approvals dryRun coherence)
      (conclude plan dryRun compensates a r prior)
      (fun _ s' t' => Head plan dryRun coherence (done ++ [a]) s' t')
      (fun _ s' t' => s.abortRemaining = false → s.claimToken = none → ¬Occurs (executes a) t →
        Thwarted plan dryRun done a s' t') s t := by
  have reported : ∀ answer, Inv plan (done ++ [a]) [] (s.report r)
      (t ++ [⟨(s.report r, .record (.actionState a r prior)), answer⟩]) := fun answer =>
    inv.report turn fits
  have still_new : ∀ answer, ¬Occurs (executes a) t → ¬Occurs (executes a)
      (t ++ [⟨(s.report r, .record (.actionState a r prior)), answer⟩]) := fun answer new =>
    fun runs => new ((occurs_concat.mp runs).resolve_right id)
  -- a rollback is due after the record only if executed writes wait
  have now_due : ∀ answer, s.abortRemaining = false → Due plan dryRun
      (t ++ [⟨(s.report r, .record (.actionState a r prior)), answer⟩]) →
      compensates = true ∧ s.sideEffectsMayHaveOccurred ≠ [] ∧ RollsBack plan dryRun := by
    intro answer active now
    rcases due_concat.mp now with before | starts | ⟨rolls, failure⟩
    · obtain ⟨asked, -, waiting, rolls⟩ := due active before
      exact ⟨asked, waiting, rolls⟩
    · cases starts
    · obtain ⟨failure, waiting⟩ := failsPending_report.mp failure
      refine ⟨?_, waiting, rolls⟩
      by_contra silent
      exact waiting (failing (Bool.eq_false_of_not_eq_true silent) failure)
  have past : done ++ [a] ⊆ plan.actions := by
    intro b member
    rcases List.mem_append.mp member with old | now
    · exact turn.past old
    · exact List.mem_singleton.mp now ▸ turn.member
  unfold conclude recordAction
  simp only [Proc.wp_bind, Proc.wp_modify]
  refine wp_perform.mpr ⟨trivial, fun _ => ?_, fun e active unclaimed new => ?_⟩
  · cases compensates with
    | false =>
        exact {
          inv := reported _
          resting := fun active now => absurd (now_due _ active now).1 Bool.false_ne_true
          settled := settled
          pending := fun waiting => occurs_concat.mpr (.inr waiting)
          gated := gated }
    | true =>
        simp only [reduceIte, Proc.wp_bind, Proc.wp_modify]
        refine Proc.wp_mono (wp_maybeCompensate (reported _) past ?_) ?_ ?_
        · intro clean started
          rcases occurs_concat.mp started with before | now
          · exact (due (going rfl) (.inl before)).2.1 (clean_concat.mp clean).1
          · cases now
        · intro compensated s' t' outcome
          cases compensated with
          | false =>
              obtain ⟨rfl, rfl, keeps⟩ := outcome
              exact {
                inv := ⟨(reported _).ledger, (reported _).books, (reported (.ok ())).progress⟩
                resting := fun _ now =>
                  (now_due _ (going rfl) now).2.1 (keeps (now_due _ (going rfl) now).2.2)
                settled := fun aborted => absurd aborted Bool.false_ne_true
                pending := fun waiting => occurs_concat.mpr (.inr waiting)
                gated := gated }
          | true =>
              obtain ⟨inv', none⟩ := outcome
              exact {
                inv := ⟨inv'.ledger, inv'.books, inv'.progress⟩
                resting := fun active => absurd active.symm Bool.false_ne_true
                settled := fun _ => none
                pending := fun waiting => absurd none waiting
                gated := fun _ => none }
        · intro e s' t' stopped active unclaimed new
          obtain ⟨⟨passing, raised⟩, rolls, waiting⟩ := stopped
          have new' : ¬Occurs (executes a) t' := fun runs =>
            still_new _ new (passing.executed a runs)
          have reopened := passing.inv.reopen raised new'
          obtain ⟨reports, rfl⟩ := passing.frame
          exact {
            inv := reopened
            going := active
            due := fun _ => ⟨raised, waiting, rolls⟩
            new := new'
            unclaimed := unclaimed }
  · have raised : ¬Clean (t ++ [⟨(s.report r, .record (.actionState a r prior)), .error e⟩]) :=
      fun clean => (clean_concat.mp clean).2 trivial
    exact {
      inv := (reported _).reopen raised (still_new _ new)
      going := active
      due := fun now => ⟨raised, (now_due _ active now).2⟩
      new := still_new _ new
      unclaimed := unclaimed }

omit [Host] in
/-- A report of something that neither succeeded nor was verified fits. -/
theorem Fits.plain {state : ActionState} {message : String} (unfinished : state.isDone = false)
    (outcome : a.risk = .reversibleWrite → Occurs (returns a) t → state.isOutcome = true) :
    Fits a (plainReport a state message) s t where
  mine := rfl
  waits verified := by
    obtain rfl : state = .verified := verified
    cases unfinished
  outcome := outcome
  ready finished := by
    rw [show (plainReport a state message).state = state from rfl, unfinished] at finished
    cases finished

/-- An action that had no turn yet was not executed. -/
theorem Head.new (h : Head plan dryRun coherence done s t) (turn : Turn plan done a) :
    ¬Occurs (executes a) t := fun runs =>
  turn.fresh (by simpa using h.inv.ledger.executed a runs)

theorem Head.not_returned (h : Head plan dryRun coherence done s t) (turn : Turn plan done a) :
    ¬Occurs (returns a) t := fun returned =>
  h.new turn (returned.imp fun _ ⟨at_e, back⟩ => ⟨at_e, returns_executes back⟩)

theorem Head.ordinary (h : Head plan dryRun coherence done s t) (ordinary : Ordinary e) :
    Head plan dryRun coherence done s (t ++ [e]) where
  inv := h.inv.ordinary ordinary
  resting active now := h.resting active (ordinary.due.mp now)
  settled := h.settled
  pending waiting := (h.pending waiting).append [e]
  gated := h.gated

theorem Head.call {x : Call} (h : Head plan dryRun coherence done s t)
    (ordinary : isOrdinary x = true) (answer : x.Answer) :
    Head plan dryRun coherence done s (t ++ [⟨(s, x), answer⟩]) :=
  h.ordinary (ordinary_of_call ordinary)

/-- An action that was not executed is concluded. -/
theorem Head.wp_conclude {compensates : Bool} {prior : Option Fields}
    (h : Head plan dryRun coherence done s t) (turn : Turn plan done a) (fits : Fits a r s t)
    (failing : compensates = false → r.state.isFailure = true →
      s.sideEffectsMayHaveOccurred = [])
    (going : compensates = true → s.abortRemaining = false) :
    Proc.wp (Allowed o plan approvals dryRun coherence)
      (conclude plan dryRun compensates a r prior)
      (fun _ s' t' => Head plan dryRun coherence (done ++ [a]) s' t')
      (fun _ s' t' => s.abortRemaining = false → s.claimToken = none →
        Thwarted plan dryRun done a s' t') s t := by
  refine Proc.wp_mono (MasterAgent.wp_conclude (h.inv.begin turn) turn fits h.settled h.gated
    (fun active now => absurd now (h.resting active)) failing going) (fun _ _ _ ended => ended) ?_
  exact fun _ _ _ raised active unclaimed => raised active unclaimed (h.new turn)

/-- An action whose provider was not called is refused. -/
theorem Thwarted.wp_refuse {state : ActionState} {message : String}
    (h : Thwarted plan dryRun done a s t) (turn : Turn plan done a) (free : coherence = false)
    (unfinished : state.isDone = false) :
    Proc.wp (Allowed o plan approvals dryRun coherence) (refuse plan dryRun a state message)
      (fun _ s' t' => Head plan dryRun coherence (done ++ [a]) s' t')
      (fun _ s' t' => Thwarted plan dryRun done a s' t') s t := by
  have silent : ¬Occurs (returns a) t := fun returned =>
    h.new (returned.imp fun _ ⟨at_e, back⟩ => ⟨at_e, returns_executes back⟩)
  have active : s.abortRemaining ≠ true := by rw [h.going]; exact Bool.false_ne_true
  refine Proc.wp_mono (wp_conclude h.inv turn (.plain unfinished fun _ back => absurd back silent)
    (fun stopped => absurd stopped active) (fun required => nomatch free.symm.trans required)
    (fun _ now => ⟨rfl, h.due now⟩) nofun fun _ => h.going) (fun _ _ _ ended => ended) ?_
  exact fun _ _ _ raised => raised h.going h.unclaimed h.new

/-! ## The checks before the attempt -/

omit [Host] in
theorem dependencySucceeded_applied {state : Option ActionState} :
    dependencySucceeded false state = state.any ActionState.isDone := by
  rcases state with _ | state
  · rfl
  · cases state <;> rfl

/-- An action that passes its checks may be attempted; any other is concluded. -/
theorem wp_screen (h : Head plan dryRun coherence done s t) (turn : Turn plan done a)
    (going : s.abortRemaining = false) :
    Proc.wp (Allowed o plan approvals dryRun coherence) (screen o plan approvals dryRun coherence a)
      (fun passed s' t' => if passed then s' = s ∧ Head plan dryRun coherence done s t' ∧
          Screened o plan approvals dryRun coherence a s.stateById t'
        else Head plan dryRun coherence (done ++ [a]) s' t')
      (fun _ _ _ => True) s t := by
  -- an action that is concluded was not executed
  have concluded : ∀ {t' : Trace} {r : ActionReport} {compensates : Bool},
      Head plan dryRun coherence done s t' → (Fits a r s t') →
      (compensates = false → r.state.isFailure = true → s.sideEffectsMayHaveOccurred = []) →
      Proc.wp (Allowed o plan approvals dryRun coherence) (conclude plan dryRun compensates a r none)
        (fun _ s' t' => Head plan dryRun coherence (done ++ [a]) s' t') (fun _ _ _ => True) s t' :=
    fun head fits failing => Proc.wp_mono (head.wp_conclude turn fits failing fun _ => going)
      (fun _ _ _ ended => ended) fun _ _ _ _ => trivial
  have plain : ∀ {t' : Trace} {state : ActionState} {message : String},
      Head plan dryRun coherence done s t' → state.isDone = false →
      Fits a (plainReport a state message) s t' := fun head unfinished =>
    .plain unfinished fun _ returned => absurd returned (head.not_returned turn)
  have neverAsked {r : ActionReport} : true = false → r.state.isFailure = true →
      s.sideEffectsMayHaveOccurred = [] := fun silent => absurd silent.symm Bool.false_ne_true
  unfold screen
  rw [Proc.wp_bind, Proc.wp_lift]
  cases capability : validateCapability o a with
  | error e => trivial
  | ok verdict =>
  obtain ⟨catalogOk, catalogReason⟩ := verdict
  -- concluding ends the turn
  have ends : ∀ {t' : Trace} {p : Orchestration Unit},
      Proc.wp (Allowed o plan approvals dryRun coherence) p
        (fun _ s' t' => Head plan dryRun coherence (done ++ [a]) s' t') (fun _ _ _ => True) s t' →
      Proc.wp (Allowed o plan approvals dryRun coherence) (p >>= fun _ => return false)
        (fun passed s' t' => if passed then s' = s ∧ Head plan dryRun coherence done s t' ∧
            Screened o plan approvals dryRun coherence a s.stateById t'
          else Head plan dryRun coherence (done ++ [a]) s' t')
        (fun _ _ _ => True) s t' := fun ended => by
    rw [Proc.wp_bind]
    exact Proc.wp_mono ended (fun _ _ _ ended => ended) fun _ _ _ raised => raised
  dsimp only
  split
  · exact ends (concluded h (plain h rfl) neverAsked)
  · next offered =>
      split
      · next required =>
          have none := h.gated required
          rw [Proc.wp_bind, Proc.wp_lift]
          cases sources : validateSources o.sources plan a with
          | error e => trivial
          | ok verdict =>
              refine ends (concluded h ?_ fun _ _ => none)
              split
              · exact plain h rfl
              · exact plain h rfl
      · next coherent =>
          simp only [Proc.wp_bind, Proc.wp_get]
          split
          · exact ends (concluded h (plain h rfl) fun _ failed => absurd failed Bool.false_ne_true)
          · next ready =>
              rw [not_not] at ready
              rw [Proc.wp_bind, Proc.wp_lift]
              cases sources : validateSources o.sources plan a with
              | error e => trivial
              | ok verdict =>
              obtain ⟨sourceOk, sourceReason⟩ := verdict
              dsimp only
              split
              · exact ends (concluded h (plain h rfl) neverAsked)
              · next accepted =>
                  rw [Proc.wp_bind, Proc.wp_lift]
                  cases minimum : minimumApprovers o a with
                  | error e => trivial
                  | ok least =>
                  dsimp only
                  rw [Proc.wp_bind]
                  refine wp_perform.mpr ⟨trivial, fun now => ?_, fun _ => trivial⟩
                  have later : Head plan dryRun coherence done s (t ++ [⟨(s, .now), .ok now⟩]) :=
                    h.ordinary (ordinary_of_call rfl)
                  rw [Proc.wp_bind, Proc.wp_lift]
                  cases decided : o.policy.evaluate plan a approvals now least with
                  | error e => trivial
                  | ok decision =>
                  dsimp only
                  split
                  · refine ends (concluded later (plain later ?_) neverAsked)
                    split <;> rfl
                  · next permitted =>
                      split
                      · exact ends (concluded later (plain later rfl) fun _ failed =>
                          absurd failed Bool.false_ne_true)
                      · next applied =>
                          rw [Bool.not_eq_true] at applied coherent
                          rw [not_not] at accepted permitted
                          subst applied
                          refine ⟨rfl, later, rfl, coherent, ⟨catalogReason, ?_⟩, fun d depends => ?_,
                            ⟨sourceReason, ?_⟩, least, now, decision, minimum,
                            occurs_concat.mpr (.inr rfl), decided, permitted⟩
                          · rw [capability, not_not.mp offered]
                          · have met := List.filter_eq_nil_iff.mp ready d depends
                            rw [dependencySucceeded_applied] at met
                            simpa [Succeeded] using met
                          · rw [sources, accepted]

end

end MasterAgent
