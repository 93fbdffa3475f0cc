import MasterAgent.Orchestrator.Invariant

/-!
# Compensation passes

`_maybe_compensate` within a run: what it relies on, what it keeps, and what it leaves when one of
its own calls raises.

Result: `wp_maybeCompensate`.
-/

namespace MasterAgent
open Base

section
variable [Host]

/-- What holds from the begin of a pass to its end, however it ends. `s₀` and `t₀` are the state
and the trace it began in. -/
structure Passing (plan : ChangePlan) (done : List AgentAction) (s₀ : RunState) (t₀ : Trace)
    (s : RunState) (t : Trace) : Prop where
  inv : Inv plan done [] s t
  frame : ∃ reports, s = { s₀ with reports := reports }
  started : Occurs startsPass t
  executed : ∀ b, Occurs (executes b) t → Occurs (executes b) t₀

/-- What holds in the rounds of a pass. The effects of `busy` may have been compensated, and the
reports of `amended` say what became of theirs. -/
structure Pass (plan : ChangePlan) (done : List AgentAction) (s₀ : RunState) (t₀ : Trace)
    (busy amended : List ExecutedAction) (s : RunState) (t : Trace) : Prop
    extends Passing plan done s₀ t₀ s t where
  untouched : Clean t → ∀ item ∈ s₀.sideEffectsMayHaveOccurred, item ∉ busy →
    ¬Occurs (compensates item.action) t
  unconfirmed : Clean t → ∀ item ∈ s₀.sideEffectsMayHaveOccurred, item ∉ amended →
    ¬Occurs (confirms item.action) t
  held : ¬Restarted t → ∀ item ∈ s₀.sideEffectsMayHaveOccurred, item ∉ amended →
    holding t item.action.idempotencyKey ≠ none
  rolled : ∀ item ∈ amended, ∃ r, s.reports[item.reportIndex]? = some r ∧
    r.state.isRolledBack = true

section
variable {plan : ChangePlan} {done : List AgentAction} {s₀ s : RunState} {t₀ t : Trace}
  {busy amended : List ExecutedAction} {e : TraceEvent} {item : ExecutedAction}

theorem Passing.items (h : Passing plan done s₀ t₀ s t) :
    s.sideEffectsMayHaveOccurred = s₀.sideEffectsMayHaveOccurred := by
  obtain ⟨reports, rfl⟩ := h.frame
  rfl

/-- An event of a pass that confirms nothing. -/
structure PassEvent (items busy amended : List ExecutedAction) (e : TraceEvent) : Prop where
  executes : ∀ b, ¬executes b e
  starts : ¬startsPass e
  confirms : ∀ b, ¬confirms b e
  compensates : ∀ i ∈ items, i ∉ busy → ¬compensates i.action e
  holds : ∀ i ∈ items, i ∉ amended ∨ ¬clears e → ∀ held,
    holdStep i.action.idempotencyKey held e = held

omit [Host] in
theorem Ordinary.passEvent {items : List ExecutedAction} (h : Ordinary e) :
    PassEvent items busy amended e :=
  ⟨h.executes, h.startsPass, h.confirms, fun i _ _ => h.compensates i.action,
    fun _ _ _ held => h.holds _ held⟩

namespace Pass

theorem event (h : Pass plan done s₀ t₀ busy amended s t)
    (event : PassEvent s₀.sideEffectsMayHaveOccurred busy amended e) :
    Pass plan done s₀ t₀ busy amended s (t ++ [e]) where
  inv := {
    ledger := h.inv.ledger.event (fun b runs => absurd runs (event.executes b))
      (fun _ => h.started) (fun b confirm => absurd confirm (event.confirms b)) fun clear i member token _ => by
        rw [h.items] at member
        rw [event.holds i member (.inr clear)]
        exact Option.some_ne_none token
    books := h.inv.books.event (fun b _ runs => absurd runs (event.executes b))
      (fun b _ returned => absurd (returns_executes returned) (event.executes b)) event.confirms
    progress := h.inv.progress }
  frame := h.frame
  started := h.started.append [e]
  executed b runs := h.executed b ((occurs_concat.mp runs).resolve_right (event.executes b))
  untouched clean i member idle occurs := by
    rcases occurs_concat.mp occurs with before | now
    · exact h.untouched (clean_concat.mp clean).1 i member idle before
    · exact event.compensates i member idle now
  unconfirmed clean i member waiting occurs :=
    h.unconfirmed (clean_concat.mp clean).1 i member waiting
      ((occurs_concat.mp occurs).resolve_right (event.confirms i.action))
  held restarted i member waiting := by
    rw [holding_concat, event.holds i member (.inl waiting)]
    exact h.held (fun before => restarted (restarted_concat.mpr (.inl before))) i member waiting
  rolled := h.rolled

/-- The next round begins: its action may be compensated. -/
theorem next (h : Pass plan done s₀ t₀ busy amended s t) :
    Pass plan done s₀ t₀ (busy ++ [item]) amended s t :=
  { h with untouched := fun clean i member idle =>
      h.untouched clean i member fun before => idle (List.mem_append_left _ before) }

/-- The report of the round's action says what became of its effect. -/
theorem amend (h : Pass plan done s₀ t₀ busy amended s t)
    (member : item ∈ s₀.sideEffectsMayHaveOccurred) {r : ActionReport} {u : Trace}
    (passing : Passing plan done s₀ t₀ (s.amend item.reportIndex r) u)
    (state : r.state.isRolledBack = true) (clean : Clean u → Clean t)
    (untouched : ∀ i : ExecutedAction, Occurs (compensates i.action) u →
      Occurs (compensates i.action) t)
    (unconfirmed : ∀ i ∈ s₀.sideEffectsMayHaveOccurred, i ∉ amended ++ [item] →
      Occurs (confirms i.action) u → Occurs (confirms i.action) t)
    (restarted : Restarted t → Restarted u) (holds : ∀ key, holding u key = holding t key) :
    Pass plan done s₀ t₀ busy (amended ++ [item]) (s.amend item.reportIndex r) u where
  toPassing := passing
  untouched clean' i listed idle before :=
    h.untouched (clean clean') i listed idle (untouched i before)
  unconfirmed clean' i listed waiting before :=
    h.unconfirmed (clean clean') i listed (fun old => waiting (List.mem_append_left _ old))
      (unconfirmed i listed waiting before)
  held again i listed waiting := by
    rw [holds]
    exact h.held (fun before => again (restarted before)) i listed
      fun old => waiting (List.mem_append_left _ old)
  rolled i listed := by
    have inside : item.reportIndex < s.reports.length := by
      obtain ⟨old, at_old, -⟩ := Option.map_eq_some_iff.mp
        ((h.inv.books.indexed item (h.items ▸ member)).resolve_right nofun)
      exact (List.getElem?_eq_some_iff.mp at_old).1
    rcases eq_or_ne item.reportIndex i.reportIndex with same | other
    · exact ⟨r, by rw [RunState.reports_amend, ← same, List.getElem?_set_self inside], state⟩
    · rcases List.mem_append.mp listed with before | now
      · obtain ⟨r', at_i, state'⟩ := h.rolled i before
        exact ⟨r', by rwa [RunState.reports_amend, List.getElem?_set_ne other], state'⟩
      · exact absurd (congrArg (·.reportIndex) (List.mem_singleton.mp now).symm) other

/-- Executed writes with one action are one and the same. -/
theorem item_inj (h : Pass plan done s₀ t₀ busy amended s t) {i j : ExecutedAction}
    (hi : i ∈ s₀.sideEffectsMayHaveOccurred) (hj : j ∈ s₀.sideEffectsMayHaveOccurred)
    (same : i.action = j.action) : i = j := by
  rw [← h.items] at hi hj
  exact List.inj_on_of_nodup_map h.inv.ledger.nodup hi hj same

/-- The effect was not compensated. -/
theorem fail (h : Pass plan done s₀ t₀ busy amended s t)
    (member : item ∈ s₀.sideEffectsMayHaveOccurred) (past : done ⊆ plan.actions)
    (unconfirmed : Clean t → ¬Occurs (confirms item.action) t) {r : ActionReport}
    (mine : r.actionId = item.action.actionId) (state : r.state = .compensationFailed) :
    Pass plan done s₀ t₀ busy (amended ++ [item]) (s.amend item.reportIndex r) t := by
  have waits : item ∈ s.sideEffectsMayHaveOccurred := h.items ▸ member
  have rolled : r.state.isRolledBack = true := by rw [state]; rfl
  obtain ⟨planned, -, -⟩ := h.inv.ledger.written item waits
  refine h.amend member ⟨⟨h.inv.ledger, ?_, h.inv.progress⟩, ?_, h.started, h.executed⟩ rolled id
    (fun _ => id) (fun _ _ _ => id) id fun _ => rfl
  · refine h.inv.books.amend waits mine rolled (fun _ => id) id id fun clean b confirm => .inr ?_
    refine ⟨fun same => unconfirmed clean ?_, confirm⟩
    have known : b ∈ done := by simpa using h.inv.ledger.executed b (h.inv.ledger.undone b confirm)
    rwa [← plan.action_inj (past known) (past (by simpa using planned)) same]
  · obtain ⟨reports, rfl⟩ := h.frame
    exact ⟨_, rfl⟩

/-- The compensation of the effect was verified. -/
theorem confirm (h : Pass plan done s₀ t₀ busy amended s t)
    (member : item ∈ s₀.sideEffectsMayHaveOccurred) {c : Connector}
    {original compensation : ExecutionResult} {v : VerificationResult}
    {r : ActionReport} (mine : r.actionId = item.action.actionId) (state : r.state = .compensated) :
    Pass plan done s₀ t₀ busy (amended ++ [item]) (s.amend item.reportIndex r)
      (t ++ [⟨(s, .verifyCompensation c item.action original compensation), .ok v⟩]) := by
  have waits : item ∈ s.sideEffectsMayHaveOccurred := h.items ▸ member
  have rolled : r.state.isRolledBack = true := by rw [state]; rfl
  obtain ⟨planned, -, -⟩ := h.inv.ledger.written item waits
  have executed := h.inv.ledger.item_executed waits
  have ledger := h.inv.ledger.event (e := ⟨(s, .verifyCompensation c item.action original
    compensation), .ok v⟩) (fun _ => False.elim) (fun _ => h.started)
    (fun b confirm => confirm.1 ▸ executed) fun _ _ _ token _ => Option.some_ne_none token
  have passing : Passing plan done s₀ t₀ (s.amend item.reportIndex r)
      (t ++ [⟨(s, .verifyCompensation c item.action original compensation), .ok v⟩]) := by
    refine ⟨⟨ledger, ?_, h.inv.progress⟩, ?_, h.started.append _, fun b runs =>
      h.executed b ((occurs_concat.mp runs).resolve_right id)⟩
    · refine h.inv.books.amend waits mine rolled
        (fun b returned => (occurs_concat.mp returned).resolve_right id) (fun fails => fails.append _)
        (fun clean => (clean_concat.mp clean).1) fun clean b confirm => ?_
      have known : b ∈ done := by simpa using ledger.executed b (ledger.undone b confirm)
      rcases eq_or_ne b.actionId item.action.actionId with same | other
      · exact .inl ⟨same, state⟩
      · exact .inr ⟨other, (occurs_concat.mp confirm).resolve_right fun now =>
          other (congrArg (·.actionId) now.1.symm)⟩
    · obtain ⟨reports, rfl⟩ := h.frame
      exact ⟨_, rfl⟩
  refine h.amend member passing rolled (fun clean => (clean_concat.mp clean).1)
    (fun i touched => (occurs_concat.mp touched).resolve_right id) ?_
    (fun before => restarted_concat.mpr (.inl before)) fun key => holding_concat
  intro i listed waiting confirm
  refine (occurs_concat.mp confirm).resolve_right fun now => waiting ?_
  rw [h.item_inj listed member now.1.symm]
  exact List.mem_append_right _ (List.mem_singleton_self item)

/-- The row of an action whose compensation was verified is deleted. -/
theorem clear (h : Pass plan done s₀ t₀ busy (amended ++ [item]) s t)
    (member : item ∈ s₀.sideEffectsMayHaveOccurred) (past : done ⊆ plan.actions)
    {answer : Except Exn Unit} :
    Pass plan done s₀ t₀ busy (amended ++ [item]) s
      (t ++ [⟨(s, .clearCompleted item.action), answer⟩]) := by
  refine h.event ⟨fun _ => id, id, fun _ => id, fun _ _ _ => id, ?_⟩
  intro i listed waiting held
  have apart : i ≠ item := by
    rintro rfl
    exact waiting.elim (fun out => out (by simp)) fun silent => silent trivial
  have other : item.action.idempotencyKey ≠ i.action.idempotencyKey := by
    intro same
    have planned : ∀ i ∈ s₀.sideEffectsMayHaveOccurred, i.action ∈ plan.actions := by
      intro i listed
      rw [← h.items] at listed
      exact past (by simpa using (h.inv.ledger.written i listed).1)
    exact apart (h.item_inj listed member
      (plan.action_inj_key (planned i listed) (planned item member) same.symm))
  cases answer with
  | error e => rfl
  | ok _ => exact if_neg other

/-- The effect of the round's action is compensated, or the call raises. -/
theorem compensate (h : Pass plan done s₀ t₀ (busy ++ [item]) amended s t)
    (member : item ∈ s₀.sideEffectsMayHaveOccurred) {c : Connector} {r : ExecutionResult}
    {answer : Except Exn ExecutionResult} :
    Pass plan done s₀ t₀ (busy ++ [item]) amended s
      (t ++ [⟨(s, .compensate c item.action r), answer⟩]) := by
  refine h.event ⟨fun _ => id, id, fun _ => id, fun i listed idle same => idle ?_, fun _ _ _ _ => rfl⟩
  rw [h.item_inj listed member same.symm]
  exact List.mem_append_right _ (List.mem_singleton_self item)

/-- Only the members of the list matter. -/
theorem congr (h : Pass plan done s₀ t₀ busy amended s t) {amended' : List ExecutedAction}
    (same : ∀ i, i ∈ amended ↔ i ∈ amended') : Pass plan done s₀ t₀ busy amended' s t where
  toPassing := h.toPassing
  untouched := h.untouched
  unconfirmed clean i listed waiting := h.unconfirmed clean i listed (mt (same i).mp waiting)
  held again i listed waiting := h.held again i listed (mt (same i).mp waiting)
  rolled i listed := h.rolled i ((same i).mpr listed)

end Pass

/-! ## A round -/

variable {o : WorkflowOrchestrator} {approvals : List Approval} {dryRun coherence : Bool}

/-- The attempt to compensate an effect ended with an exception. -/
structure Abandoned (plan : ChangePlan) (done : List AgentAction) (s₀ : RunState) (t₀ : Trace)
    (busy amended : List ExecutedAction) (item : ExecutedAction) (e : Exn) (s : RunState)
    (t : Trace) : Prop where
  pass : ∃ amended', Pass plan done s₀ t₀ (busy ++ [item]) amended' s t ∧
    ∀ i, i ∈ amended' ++ [item] ↔ i ∈ amended ++ [item]
  unconfirmed : Clean t → ¬Occurs (confirms item.action) t
  caught : Clean t → e.kind.compensationCatches = true

theorem wp_attemptCompensation (h : Pass plan done s₀ t₀ busy amended s t)
    (member : item ∈ s₀.sideEffectsMayHaveOccurred) (idle : item ∉ busy) (waiting : item ∉ amended)
    (past : done ⊆ plan.actions) :
    Proc.wp (Allowed o plan approvals dryRun coherence) (attemptCompensation item)
      (fun _ s' t' => Pass plan done s₀ t₀ (busy ++ [item]) (amended ++ [item]) s' t')
      (Abandoned plan done s₀ t₀ busy amended item) s t := by
  have returned := (h.inv.ledger.written item (h.items ▸ member)).2.2
  -- what holds when a call of the attempt raises, or when its answer is refused
  have abandon : ∀ {u : Trace} {e : Exn}, Pass plan done s₀ t₀ (busy ++ [item]) amended s u →
      (Clean u → e.kind.compensationCatches = true) →
      Abandoned plan done s₀ t₀ busy amended item e s u := fun pass caught =>
    ⟨⟨amended, pass, fun _ => Iff.rfl⟩, fun clean => pass.unconfirmed clean item member waiting,
      caught⟩
  have unsafe_copy : ∀ {r : ExecutionResult} {e : Exn}, copyExecutionResult r = .error e →
      e.kind.compensationCatches = true := fun h => by rw [copyExecutionResult_error h]; rfl
  have raised : ∀ {u : Trace} {ev : TraceEvent} {e : Exn},
      (e.kind.compensationCatches = false → unclean ev) → Clean (u ++ [ev]) →
        e.kind.compensationCatches = true := fun dirty clean => by
    rw [clean_concat] at clean
    exact Bool.not_eq_false _ ▸ mt dirty clean.2
  have opened : Pass plan done s₀ t₀ (busy ++ [item]) amended s t := h.next
  unfold attemptCompensation
  cases copied : copyExecutionResult item.result with
  | error e => exact abandon opened fun _ => unsafe_copy copied
  | ok snapshot =>
      simp only [Proc.wp_bind, Proc.wp_lift]
      refine wp_perform.mpr ⟨trivial, fun postcondition => ?_, fun e => ?_⟩
      · have verified := opened.event (e := ⟨(s, .verify .compensation item.connector item.action
          snapshot), .ok postcondition⟩) (ordinary_of_call rfl).passEvent
        split
        · exact abandon verified fun _ => rfl
        · simp only [Proc.wp_bind, Proc.wp_lift]
          refine wp_perform.mpr ⟨⟨returned.append _, fun clean occurs => ?_⟩,
            fun compensation => ?_, fun e => ?_⟩
          · exact h.untouched (clean_concat.mp clean).1 item member idle
              ((occurs_concat.mp occurs).resolve_right id)
          · have compensated : Pass plan done s₀ t₀ (busy ++ [item]) amended s (_ ++
                [⟨(s, .compensate item.connector item.action snapshot), .ok compensation⟩]) :=
              verified.compensate member
            cases private_copy : copyExecutionResult compensation with
            | error e => exact abandon compensated fun _ => unsafe_copy private_copy
            | ok copy =>
                refine wp_perform.mpr ⟨trivial, fun verification => ?_, fun e => ?_⟩
                · split
                  · next refused =>
                      refine abandon (compensated.event ⟨fun _ => id, id, fun _ confirm =>
                        refused confirm.2, fun _ _ _ => id, fun _ _ _ _ => rfl⟩) fun _ => rfl
                  · next accepted =>
                      rw [not_not] at accepted
                      simp only [Proc.wp_bind, Proc.wp_modify]
                      refine wp_perform.mpr ⟨⟨?_, fun again => ?_⟩, fun _ => ?_, fun e => ?_⟩
                      · exact undone_concat (returned.append _) rfl ⟨rfl, accepted⟩
                      · rw [holding_concat]
                        exact compensated.held (fun before =>
                          again (restarted_concat.mpr (.inl before))) item member waiting
                      · exact (compensated.confirm member rfl rfl).clear member past
                      · refine ⟨⟨_, (compensated.confirm member rfl rfl).clear member past, ?_⟩, ?_, ?_⟩
                        · simp
                        · exact fun clean => absurd trivial (clean_concat.mp clean).2
                        · exact fun clean => absurd trivial (clean_concat.mp clean).2
                · refine abandon (compensated.event ⟨fun _ => id, id, fun _ => id, fun _ _ _ => id,
                    fun _ _ _ _ => rfl⟩) (raised id)
          · exact abandon (verified.compensate member) (raised id)
      · exact abandon (opened.event (ordinary_of_call rfl).passEvent) (raised id)

/-- A pass that ended with an exception. -/
def Stopped (plan : ChangePlan) (done : List AgentAction) (s₀ : RunState) (t₀ : Trace)
    (s : RunState) (t : Trace) : Prop :=
  Passing plan done s₀ t₀ s t ∧ ¬Clean t

theorem wp_recordAmended (h : Pass plan done s₀ t₀ busy amended s t)
    (member : item ∈ s₀.sideEffectsMayHaveOccurred) :
    Proc.wp (Allowed o plan approvals dryRun coherence) (recordAmended item)
      (fun _ s' t' => Pass plan done s₀ t₀ busy amended s' t')
      (fun _ s' t' => Stopped plan done s₀ t₀ s' t') s t := by
  obtain ⟨r, at_i, -⟩ := Option.map_eq_some_iff.mp
    ((h.inv.books.indexed item (h.items ▸ member)).resolve_right nofun)
  have step : ∀ answer, Pass plan done s₀ t₀ busy amended s
      (t ++ [⟨(s, .record (.actionState item.action r none)), answer⟩]) := fun answer =>
    h.event ⟨fun _ => id, id, fun _ => id, fun _ _ _ => id, fun _ _ _ _ => rfl⟩
  unfold recordAmended
  simp only [Proc.wp_bind, Proc.wp_get, at_i]
  exact wp_perform.mpr ⟨trivial, fun _ => step _, fun e => ⟨(step _).toPassing, fun clean =>
    (clean_concat.mp clean).2 trivial⟩⟩

theorem wp_compensateItem (h : Pass plan done s₀ t₀ busy amended s t)
    (member : item ∈ s₀.sideEffectsMayHaveOccurred) (idle : item ∉ busy) (waiting : item ∉ amended)
    (past : done ⊆ plan.actions) :
    Proc.wp (Allowed o plan approvals dryRun coherence) (compensateItem item)
      (fun _ s' t' => Pass plan done s₀ t₀ (busy ++ [item]) (amended ++ [item]) s' t')
      (fun _ s' t' => Stopped plan done s₀ t₀ s' t') s t := by
  unfold compensateItem
  cases compensationRefusal item with
  | some message =>
      simp only [Proc.wp_bind, Proc.wp_modify]
      refine wp_recordAmended (h.next.fail member past ?_ rfl rfl) member
      exact fun clean => h.unconfirmed clean item member waiting
  | none =>
      simp only [Proc.wp_bind]
      refine wp_catching.mpr (Proc.wp_mono (wp_attemptCompensation h member idle waiting past)
        (fun _ _ _ passed => wp_recordAmended passed member) fun e s' t' abandoned => ?_)
      obtain ⟨⟨amended', pass, same⟩, unconfirmed, caught⟩ := abandoned
      split
      · rw [Proc.wp_modify]
        exact wp_recordAmended ((pass.fail member past unconfirmed rfl rfl).congr same) member
      · next escapes => exact ⟨pass.toPassing, fun clean => escapes (caught clean)⟩

/-- A pass begins, or its record cannot be written. -/
theorem Pass.start (h : Inv plan done [] s t) (first : Clean t → ¬Occurs startsPass t) {n : Nat}
    {answer : Except Exn Unit} :
    Pass plan done s t [] [] s (t ++ [⟨(s, .record (.compensationStarted n)), answer⟩]) where
  inv := {
    ledger := h.ledger.event (fun _ => False.elim) (by rintro (clear | ⟨b, undo | confirm⟩) <;>
      contradiction) (fun _ => False.elim) fun _ _ _ token _ => Option.some_ne_none token
    books := h.books.event (fun _ _ => False.elim) (fun _ _ => False.elim) fun _ => id
    progress := h.progress }
  frame := ⟨s.reports, rfl⟩
  started := occurs_concat.mpr (.inr trivial)
  executed b runs := (occurs_concat.mp runs).resolve_right id
  untouched clean item _ _ touched :=
    first (clean_concat.mp clean).1 (h.ledger.passed
      (((occurs_concat.mp touched).resolve_right id).imp fun _ ⟨at_e, undo⟩ =>
        ⟨at_e, .inr ⟨item.action, .inl undo⟩⟩))
  unconfirmed clean item _ _ confirm :=
    first (clean_concat.mp clean).1 (h.ledger.passed
      (((occurs_concat.mp confirm).resolve_right id).imp fun _ ⟨at_e, confirm⟩ =>
        ⟨at_e, .inr ⟨item.action, .inr confirm⟩⟩))
  held again item member _ := by
    rw [restarted_concat, not_or] at again
    rw [holding_concat]
    exact h.ledger.held (fun cleared => again.2 ⟨trivial, cleared⟩) item member
  rolled _ member := absurd member List.not_mem_nil

/-- The plan is rolled back when an action fails. -/
def RollsBack (plan : ChangePlan) (dryRun : Bool) : Prop :=
  plan.compensateOnFailure = true ∧ dryRun = false

theorem wp_maybeCompensate (h : Inv plan done [] s t) (past : done ⊆ plan.actions)
    (first : Clean t → ¬Occurs startsPass t) :
    Proc.wp (Allowed o plan approvals dryRun coherence) (maybeCompensate plan dryRun)
      (fun compensated s' t' =>
        if compensated then Inv plan done [] s' t' ∧ s'.sideEffectsMayHaveOccurred = []
        else s' = s ∧ t' = t ∧ (RollsBack plan dryRun → s.sideEffectsMayHaveOccurred = []))
      (fun _ s' t' => Stopped plan done s t s' t' ∧ RollsBack plan dryRun ∧
        s.sideEffectsMayHaveOccurred ≠ []) s t := by
  unfold maybeCompensate
  rw [Proc.wp_bind, Proc.wp_get]
  split
  · next idle =>
      refine ⟨rfl, rfl, fun atomic => ?_⟩
      rcases idle with dry | keeps | none
      · simp [atomic.2] at dry
      · exact absurd atomic.1 keeps
      · exact none
  · next pass =>
      simp only [not_or, Bool.not_eq_true, Bool.not_eq_false] at pass
      obtain ⟨applied, atomic, some⟩ := pass
      have rolls : RollsBack plan dryRun := ⟨atomic, applied⟩
      -- items are met once each
      have once : ∀ {before item after}, s.sideEffectsMayHaveOccurred.reverse =
          before ++ item :: after → item ∈ s.sideEffectsMayHaveOccurred ∧ item ∉ before := by
        intro before item after split
        have nodup := List.nodup_reverse.mpr (List.Nodup.of_map _ h.ledger.nodup)
        rw [split] at nodup
        refine ⟨List.mem_reverse.mp (split ▸ by simp), fun twice => ?_⟩
        exact (List.nodup_append.mp nodup).2.2 item twice item List.mem_cons_self rfl
      have raised : ∀ (_ : Exn) s' t', Stopped plan done s t s' t' →
          Stopped plan done s t s' t' ∧ RollsBack plan dryRun ∧
            s.sideEffectsMayHaveOccurred ≠ [] := fun _ _ _ stopped => ⟨stopped, rolls, some⟩
      simp only [Proc.wp_bind, Proc.wp_get, Proc.wp_modify, Proc.wp_pure]
      refine wp_perform.mpr ⟨trivial, fun _ => ?_, fun e => raised e _ _
        ⟨(Pass.start h first).toPassing, fun clean => (clean_concat.mp clean).2 trivial⟩⟩
      refine Proc.wp_mono (Proc.wp_each (I := fun met s' t' => Pass plan done s t met met s' t')
        (fun met item rest s' t' split pass => ?_) (Pass.start h first)) ?_ raised
      · obtain ⟨member, unmet⟩ := once split
        exact wp_compensateItem pass member unmet unmet past
      · intro _ s' t' pass
        have finished : ∀ answer, Pass plan done s t s.sideEffectsMayHaveOccurred.reverse
            s.sideEffectsMayHaveOccurred.reverse s'
            (t' ++ [⟨(s', .record (.compensationFinished (executedStates s'))), answer⟩]) :=
          fun answer => pass.event (ordinary_of_call rfl).passEvent
        refine wp_perform.mpr ⟨trivial, fun _ => ?_, fun e => raised e _ _
          ⟨(finished _).toPassing, fun clean => (clean_concat.mp clean).2 trivial⟩⟩
        refine ⟨⟨(finished _).inv.ledger.discharge, (finished _).inv.books.discharge ?_,
          pass.inv.progress⟩, trivial⟩
        intro item waits
        exact pass.rolled item (by rwa [List.mem_reverse, ← pass.items])

end

end

end MasterAgent
