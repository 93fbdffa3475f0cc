import MasterAgent.Orchestrator.Attempt

/-!
# The outcome of an attempt

What holds once the provider of an action was called (`Called`), how an outcome is settled, and the
turn of an action as a whole.

Result: `wp_processAction`, a turn takes `Head` to `Head` and makes every call as `Allowed` asks.
-/

namespace MasterAgent
open Base

section
variable [Host] {o : WorkflowOrchestrator} {plan : ChangePlan} {approvals : List Approval}
  {coherence : Bool} {done : List AgentAction} {a : AgentAction} {c : Connector} {s : RunState}
  {t u : Trace} {e : TraceEvent}

/-- The provider of the action was called, and nothing was concluded since. -/
structure Called (plan : ChangePlan) (done : List AgentAction) (a : AgentAction) (s : RunState)
    (t : Trace) : Prop where
  inv : Inv plan done [a] s t
  going : s.abortRemaining = false
  resting : ¬Due plan false t
  held : ∀ token, s.claimToken = some token → holding t a.idempotencyKey = some token
  claimed : usesIdempotency a = true → s.claimToken ≠ none
  egress : s.egress ≠ none → a.risk = .readOnly
  ready : ∀ d ∈ a.dependencies, Succeeded s.stateById d

/-- The executed write, if it is to be rolled back, waits for its report. -/
structure Executed (plan : ChangePlan) (done : List AgentAction) (a : AgentAction) (s : RunState)
    (t : Trace) : Prop extends Called plan done a s t where
  result : s.result ≠ none
  waits : a.risk = .reversibleWrite → ∃ item ∈ s.sideEffectsMayHaveOccurred,
    item.action = a ∧ item.reportIndex = s.reports.length

/-! ## The call of the provider -/

/-- A cleared attempt mediates the call of the provider. -/
theorem Cleared.mediated (h : Cleared o plan approvals coherence done a c s t)
    (turn : Turn plan done a) : Mediated o plan approvals false coherence c a s t where
  toScreened := h.screened
  planned := turn.member
  connector := h.connector
  contract := h.contract
  closed := h.head.inv.progress.closed
  first started := h.head.resting h.going (.inl started)
  once := h.head.new turn
  claim uses :=
    let ⟨token, given, fresh⟩ := h.claim uses
    ⟨token, given, h.held token given, fresh⟩

theorem Cleared.called (h : Cleared o plan approvals coherence done a c s t)
    (turn : Turn plan done a) {answer : Except Exn ExecutionOutcome}
    {result : Option ExecutionOutcome} :
    Called plan done a { s with result := result } (t ++ [⟨(s, .execute c a), answer⟩]) where
  inv := {
    ledger := (h.head.inv.begin turn).ledger.event
      (fun b runs => List.mem_append_right _ (List.mem_singleton.mpr (Eq.symm runs)))
      (by rintro (clear | ⟨b, undo | confirm⟩) <;> contradiction) (fun _ => False.elim)
      fun _ _ _ token _ => Option.some_ne_none token
    books := by
      have unreported : ∀ r ∈ s.reports, r.actionId ≠ a.actionId := by
        intro r listed same
        obtain ⟨b, old, eq⟩ := h.head.inv.books.reported r listed
        rw [List.append_nil] at old
        exact turn.fresh (plan.action_inj (turn.past old) turn.member (eq.trans same) ▸ old)
      refine (h.head.inv.begin turn).books.event (fun b member _ => ?_) (fun b _ back => ?_)
        fun _ => id
      · rwa [List.mem_singleton.mp member]
      · rwa [← show a = b from returns_executes back]
    progress := (h.head.inv.begin turn).progress }
  going := h.going
  resting now := by
    rcases due_concat.mp now with before | starts | ⟨-, fails⟩
    · exact h.head.resting h.going before
    · cases starts
    · cases fails
  held token given := by
    rw [holding_concat]
    exact h.held token given
  claimed uses none := by
    obtain ⟨token, given, -⟩ := h.claim uses
    exact Option.some_ne_none token (given.symm.trans none)
  egress := h.egress
  ready := h.screened.dependencies

namespace Called

theorem ordinary (h : Called plan done a s t) (ordinary : Ordinary e) :
    Called plan done a s (t ++ [e]) where
  inv := h.inv.ordinary ordinary
  going := h.going
  resting now := h.resting (ordinary.due.mp now)
  held token given := by
    rw [holding_concat, ordinary.holds]
    exact h.held token given
  claimed := h.claimed
  egress := h.egress
  ready := h.ready

theorem call {x : Call} (h : Called plan done a s t) (ordinary : isOrdinary x = true)
    (answer : x.Answer) : Called plan done a s (t ++ [⟨(s, x), answer⟩]) :=
  h.ordinary (ordinary_of_call ordinary)

theorem scratch (h : Called plan done a s t) (result : Option ExecutionOutcome) :
    Called plan done a { s with result := result } t :=
  ⟨⟨h.inv.ledger, h.inv.books, h.inv.progress⟩, h.going, h.resting, h.held, h.claimed, h.egress,
    h.ready⟩

theorem failed (h : Called plan done a s t) (result : s.result ≠ none) (e : Exn) :
    Failed plan done a e s t where
  inv := h.inv
  going := h.going
  due now := absurd now h.resting
  held := h.held
  result _ := result
  raised _ := .inl result

/-- A reversible write that returned waits for its report. -/
theorem note (h : Called plan done a s t) (new : ∀ i ∈ s.sideEffectsMayHaveOccurred, i.action ≠ a)
    (reversible : a.risk = .reversibleWrite) (returned : Occurs (returns a) t)
    {r : ExecutionResult} : Called plan done a (noteExecuted a c r s) t where
  inv := {
    ledger := by
      have uses : usesIdempotency a = true := by
        unfold usesIdempotency
        rw [reversible]
        rfl
      obtain ⟨token, given⟩ := Option.ne_none_iff_exists'.mp (h.claimed uses)
      refine h.inv.ledger.note new (by simp) reversible returned ?_
      show holding t a.idempotencyKey ≠ none
      rw [h.held token given]
      exact Option.some_ne_none token
    books := h.inv.books.note rfl rfl
    progress := h.inv.progress }
  going := h.going
  resting := h.resting
  held := h.held
  claimed := h.claimed
  egress := h.egress
  ready := h.ready

end Called

/-- A private copy of the returned result is kept, and a reversible write is noted. -/
theorem wp_keep {r : ExecutionResult} (h : Called plan done a s t)
    (new : ∀ i ∈ s.sideEffectsMayHaveOccurred, i.action ≠ a) (returned : Occurs (returns a) t)
    (result : s.result ≠ none) :
    Proc.wp (Allowed o plan approvals false coherence)
      (do
        let copied ← Proc.lift (copyExecutionResult r)
        Proc.modify fun s => { s with result := some (.result copied) }
        if a.risk = .reversibleWrite then Proc.modify (noteExecuted a c copied)
        Proc.lift (validateExecutionResult a copied)
        return copied)
      (fun _ s' t' => Executed plan done a s' t')
      (fun e s' t' => Failed plan done a e s' t') s t := by
  rw [Proc.wp_bind, Proc.wp_lift]
  cases copyExecutionResult r with
  | error e => exact h.failed result e
  | ok copied =>
  have kept := h.scratch (some (.result copied))
  have done_with : ∀ s', Executed plan done a s' t → Proc.wp
      (Allowed o plan approvals false coherence)
      (do
        Proc.lift (validateExecutionResult a copied)
        return copied)
      (fun _ s' t' => Executed plan done a s' t')
      (fun e s' t' => Failed plan done a e s' t') s' t := by
    intro s' executed
    rw [Proc.wp_bind, Proc.wp_lift]
    cases validateExecutionResult a copied with
    | error e => exact executed.failed executed.result e
    | ok _ => exact executed
  dsimp only
  rw [Proc.wp_bind, Proc.wp_modify]
  split
  · next reversible =>
      rw [Proc.wp_bind, Proc.wp_modify]
      refine done_with _ ⟨kept.note new reversible returned, Option.some_ne_none _, fun _ => ?_⟩
      exact ⟨⟨a, c, copied, s.reports.length⟩, List.mem_append_right _ (List.mem_singleton_self _),
        rfl, rfl⟩
  · next keeps =>
      exact done_with _ ⟨kept, Option.some_ne_none _, fun reversible => absurd reversible keeps⟩

theorem wp_dispatch (h : Cleared o plan approvals coherence done a c s t)
    (turn : Turn plan done a) :
    Proc.wp (Allowed o plan approvals false coherence) (dispatch a c)
      (fun _ s' t' => Executed plan done a s' t')
      (fun e s' t' => Failed plan done a e s' t') s t := by
  have new : ∀ i ∈ s.sideEffectsMayHaveOccurred, i.action ≠ a := by
    rintro i member rfl
    exact turn.fresh (by simpa using (h.head.inv.ledger.written i member).1)
  unfold dispatch
  rw [Proc.wp_bind]
  refine wp_perform.mpr ⟨h.mediated turn, fun outcome => ?_, fun e => ?_⟩
  · have called : Called plan done a { s with result := some outcome }
        (t ++ [⟨(s, .execute c a), .ok outcome⟩]) := h.called turn
    rw [Proc.wp_bind, Proc.wp_modify]
    cases outcome with
    | invalid => exact called.failed (Option.some_ne_none _) _
    | result r =>
        have back : Occurs (returns a) (t ++ [⟨(s, .execute c a), .ok (.result r)⟩]) :=
          occurs_concat.mpr (.inr rfl)
        dsimp only
        split
        · rw [Proc.wp_bind]
          have noted := called.call (x := .record (.sideEffectMayHaveOccurred a r)) rfl
          refine wp_perform.mpr ⟨trivial, fun _ => ?_, fun e =>
            (noted (.error e)).failed (Option.some_ne_none _) e⟩
          exact wp_keep (noted (.ok ())) new (back.append _) (Option.some_ne_none _)
        · exact wp_keep called new back (Option.some_ne_none _)
  · have called : Called plan done a s (t ++ [⟨(s, .execute c a), .error e⟩]) :=
      h.called turn
    exact {
      inv := called.inv
      going := called.going
      due := fun now => absurd now called.resting
      held := called.held
      result := fun returned => absurd ((occurs_concat.mp returned).resolve_right id)
        (h.head.not_returned turn)
      raised := fun _ => .inr (occurs_concat.mpr (.inr ⟨rfl, rfl⟩)) }

/-! ## Persisting an outcome -/

omit [Host] in
theorem Later.executes (h : Later t u) (b : AgentAction) :
    Occurs (executes b) u → Occurs (executes b) t := by
  refine h.keeps (I := fun u => Occurs (MasterAgent.executes b) u → Occurs (MasterAgent.executes b) t)
    (fun u e ordinary before runs => before ?_) id
  exact (occurs_concat.mp runs).resolve_right (ordinary.executes b)

omit [Host] in
theorem Later.returns (h : Later t u) (b : AgentAction) :
    Occurs (returns b) u → Occurs (returns b) t := by
  refine h.keeps (I := fun u => Occurs (MasterAgent.returns b) u → Occurs (MasterAgent.returns b) t)
    (fun u e ordinary before back => before ?_) id
  exact (occurs_concat.mp back).resolve_right fun now =>
    ordinary.executes b (returns_executes now)

omit [Host] in
theorem Later.holding (h : Later t u) (key : String) : holding u key = holding t key := by
  refine h.keeps (I := fun u => MasterAgent.holding u key = MasterAgent.holding t key)
    (fun u e ordinary same => ?_) rfl
  rw [holding_concat, ordinary.holds, same]

/-- How a trace may go on while an outcome is persisted: only ordinary events, and at most one
attempt to fail the claim. -/
def Persisting (a : AgentAction) (preEffect : Bool) (s : RunState) (t : Trace) (s' : RunState)
    (t' : Trace) : Prop :=
  s' = s ∧ (Later t t' ∨ preEffect = true ∧ ∃ u token outcome answer, Later t u ∧
    t' = u ++ [⟨(s, .failAction a token outcome), answer⟩])

/-- An outcome is persisted under the token of the attempt. A claim is failed only if the provider
was not called, or raised an error that precedes the effect. -/
theorem wp_persistIdempotencyOutcome {preEffect : Bool} {message : String}
    (held : ∀ token, s.claimToken = some token → holding t a.idempotencyKey = some token)
    (certified : preEffect = true → ¬Occurs (returns a) t ∧
      (Occurs (executes a) t → Occurs (raises a .preEffect) t ∨
        Occurs (raises a .versionConflict) t)) :
    Proc.wp (Allowed o plan approvals false coherence)
      (persistIdempotencyOutcome o a preEffect message)
      (fun _ s' t' => Persisting a preEffect s t s' t')
      (fun _ s' t' => Persisting a preEffect s t s' t') s t := by
  unfold persistIdempotencyOutcome
  rw [Proc.wp_bind, Proc.wp_get]
  cases given : s.claimToken with
  | none => exact ⟨rfl, .inl (Later.refl t)⟩
  | some token =>
  have mine := held token given
  -- the transaction itself, under either verdict
  have persists : ∀ (outcome : Json) (u : Trace), Later t u →
      Proc.wp (Allowed o plan approvals false coherence)
        (catching ExnKind.persistenceCatches
          (do
            if preEffect then perform (.failAction a token outcome)
            else perform (.markActionIndeterminate a token outcome)
            return true)
          (fun _ => return false))
        (fun _ s' t' => Persisting a preEffect s t s' t')
        (fun _ s' t' => Persisting a preEffect s t s' t') s u := by
    intro outcome u later
    have still : holding u a.idempotencyKey = some token := (later.holding _).trans mine
    rw [wp_catching]
    cases preEffect with
    | false =>
        have marked := later.snoc (e := ⟨(s, .markActionIndeterminate a token outcome), .ok ()⟩)
          (ordinary_of_call rfl)
        rw [if_neg Bool.false_ne_true, Proc.wp_bind]
        refine wp_perform.mpr ⟨still, fun _ => ⟨rfl, .inl marked⟩, fun e => ?_⟩
        have raised := later.snoc (e := ⟨(s, .markActionIndeterminate a token outcome), .error e⟩)
          (ordinary_of_call rfl)
        split
        · exact ⟨rfl, .inl raised⟩
        · exact ⟨rfl, .inl raised⟩
    | true =>
        obtain ⟨silent, precedes⟩ := certified rfl
        rw [if_pos rfl, Proc.wp_bind]
        refine wp_perform.mpr ⟨⟨still, fun back => silent (later.returns a back), fun runs =>
          (precedes (later.executes a runs)).imp later.occurs later.occurs⟩, fun _ => ?_, fun e => ?_⟩
        · exact ⟨rfl, .inr ⟨rfl, u, token, outcome, _, later, rfl⟩⟩
        · split
          · exact ⟨rfl, .inr ⟨rfl, u, token, outcome, _, later, rfl⟩⟩
          · exact ⟨rfl, .inr ⟨rfl, u, token, outcome, _, later, rfl⟩⟩
  dsimp only
  cases s.result with
  | none => exact persists _ t (Later.refl t)
  | some r =>
      dsimp only
      rw [Proc.wp_bind]
      refine Proc.wp_mono quiet_idempotencyRecord ?_ ?_
      · rintro record s' t' ⟨rfl, later, -⟩
        exact persists _ t' later
      · rintro e s' t' ⟨rfl, later⟩
        exact ⟨rfl, .inl later⟩

/-! ## The outcome -/

theorem Called.later (h : Called plan done a s t) (later : Later t u) : Called plan done a s u :=
  later.keeps (fun _ _ ordinary holds => holds.ordinary ordinary) h

theorem Executed.later (h : Executed plan done a s t) (later : Later t u) :
    Executed plan done a s u :=
  ⟨h.toCalled.later later, h.result, h.waits⟩

theorem Executed.fails (h : Executed plan done a s t) (e : Exn) : Failed plan done a e s t :=
  h.toCalled.failed h.result e

theorem wp_recheckEgress {r : ExecutionResult} {egress : EgressBinding}
    (h : Executed plan done a s t) :
    Proc.wp (Allowed o plan approvals false coherence) (recheckEgress o plan a c r egress)
      (fun _ s' t' => Executed plan done a s' t' ∧ s'.egress = s.egress)
      (fun e s' t' => Failed plan done a e s' t') s t := by
  -- what a configuration error withholds leaves the outcome as it is
  have withheld : ∀ (e : Exn) (u : Trace), Later t u →
      if (e.kind == .configuration) = true then
        Executed plan done a s u ∧ s.egress = s.egress
      else Failed plan done a e s u := by
    intro e u later
    split
    · exact ⟨h.later later, rfl⟩
    · exact (h.later later).fails e
  unfold recheckEgress
  rw [wp_catching]
  rw [Proc.wp_bind]
  refine Proc.wp_mono quiet_validateExecutionContract ?_ ?_
  · rintro ⟨executionOk, executionReason⟩ s' t' ⟨rfl, later, -⟩
    dsimp only
    split
    · exact withheld (configurationError executionReason) t' later
    · rw [Proc.wp_bind]
      refine Proc.wp_mono quiet_providerDataEgressBinding ?_ ?_
      · rintro rechecked s'' t'' ⟨rfl, later', -⟩
        split
        · exact withheld (configurationError "provider-data egress binding changed before result return")
            t'' (later.trans later')
        · rw [Proc.wp_bind]
          refine wp_perform.mpr ⟨trivial, fun sanitized => ?_, fun e =>
            withheld e _ ((later.trans later').snoc (ordinary_of_call rfl))⟩
          have kept := h.later ((later.trans later').snoc
            (e := ⟨(s'', .sanitizeProviderResult a r egress), .ok sanitized⟩) (ordinary_of_call rfl))
          exact ⟨⟨kept.toCalled.scratch _, Option.some_ne_none _, kept.waits⟩, rfl⟩
      · rintro e s'' t'' ⟨rfl, later'⟩
        exact withheld e _ (later.trans later')
  · rintro e s' t' ⟨rfl, later⟩
    exact withheld e _ later

/-- What an attempt that called its provider reports. -/
def Attempted (a : AgentAction) (r : ActionReport) : Prop :=
  r.actionId = a.actionId ∧ (r.state = .verified ∨ r.state = .indeterminate ∨
    r.state = .failed ∧ a.risk = .readOnly)

theorem wp_concludeVerified {r : ExecutionResult} {verification : VerificationResult}
    (h : Executed plan done a s t) :
    Proc.wp (Allowed o plan approvals false coherence)
      (concludeVerified o plan a c r verification)
      (fun r s' t' => Executed plan done a s' t' ∧ Attempted a r)
      (fun e s' t' => Failed plan done a e s' t') s t := by
  -- the record of the completion, under the token of the attempt
  have completes : ∀ (report : ActionReport) (s' : RunState) (t' : Trace),
      Executed plan done a s' t' → Attempted a report →
      Proc.wp (Allowed o plan approvals false coherence)
        (do
          if usesIdempotency a then
            let record ← idempotencyRecord (some c) a (s'.result.getD .invalid)
            perform (.completeAction a (s'.claimToken.getD "") record)
          return report)
        (fun r s' t' => Executed plan done a s' t' ∧ Attempted a r)
        (fun e s' t' => Failed plan done a e s' t') s' t' := by
    intro report s' t' executed attempted
    split
    · next uses =>
        obtain ⟨token, given⟩ := Option.ne_none_iff_exists'.mp (executed.claimed uses)
        rw [Proc.wp_bind]
        refine Proc.wp_mono quiet_idempotencyRecord ?_ ?_
        · rintro record s'' t'' ⟨rfl, later, -⟩
          have mine := executed.later later
          rw [Proc.wp_bind]
          refine wp_perform.mpr ⟨?_, fun _ => ?_, fun e => ?_⟩
          · show holding t'' a.idempotencyKey = some (s''.claimToken.getD "")
            rw [mine.held token given, given]
            rfl
          · exact ⟨mine.later ((Later.refl _).snoc (ordinary_of_call rfl)), attempted⟩
          · exact (mine.later ((Later.refl _).snoc (ordinary_of_call rfl))).fails e
        · rintro e s'' t'' ⟨rfl, later⟩
          exact (executed.later later).fails e
    · exact ⟨executed, attempted⟩
  unfold concludeVerified
  rw [Proc.wp_bind, Proc.wp_get]
  cases bound : s.egress with
  | none =>
      exact completes _ s t h ⟨rfl, .inl rfl⟩
  | some egress =>
      dsimp only
      rw [Proc.wp_bind]
      refine Proc.wp_mono (wp_recheckEgress h) ?_ fun _ _ _ raised => raised
      rintro withheld s' t' ⟨executed, same⟩
      rw [Proc.wp_bind, Proc.wp_get]
      refine completes _ s' t' executed ⟨rfl, ?_⟩
      cases withheld with
      | none => exact .inl rfl
      | some e => exact .inr (.inr ⟨rfl, h.egress (by rw [bound]; exact Option.some_ne_none _)⟩)

/-- An attempt concludes the action itself, or called the provider and says what became of it. -/
theorem wp_attempt (h : Prepared o plan approvals coherence done a s t) (turn : Turn plan done a)
    (unclaimed : s.claimToken = none) :
    Proc.wp (Allowed o plan approvals false coherence) (attempt o plan a)
      (fun report s' t' => match report with
        | none => Head plan false coherence (done ++ [a]) s' t'
        | some r => Executed plan done a s' t' ∧ Attempted a r)
      (fun e s' t' => Failed plan done a e s' t') s t := by
  unfold attempt
  rw [Proc.wp_bind]
  refine Proc.wp_mono (wp_prepare h turn unclaimed) ?_ fun _ _ _ raised => raised
  rintro (_ | c) s' t' ended
  · exact ended
  · dsimp only
    rw [Proc.wp_bind]
    refine Proc.wp_mono (wp_dispatch ended turn) ?_ fun _ _ _ raised => raised
    intro r s' t' executed
    rw [Proc.wp_bind, Proc.wp_lift]
    cases copyExecutionResult r with
    | error e => exact executed.fails e
    | ok snapshot =>
        dsimp only
        rw [Proc.wp_bind]
        refine wp_perform.mpr ⟨trivial, fun verification => ?_, fun e =>
          (executed.later ((Later.refl _).snoc (ordinary_of_call rfl))).fails e⟩
        have verified := executed.later ((Later.refl _).snoc (e := ⟨(s', .verify .verification c a
          snapshot), .ok verification⟩) (ordinary_of_call rfl))
        split
        · rw [Proc.wp_bind]
          refine Proc.wp_mono (wp_persistIdempotencyOutcome verified.held nofun) ?_ ?_
          · rintro persisted s'' t'' ⟨rfl, later | ⟨none, -⟩⟩
            · exact ⟨verified.later later, rfl, .inr (.inl rfl)⟩
            · cases none
          · rintro e s'' t'' ⟨rfl, later | ⟨none, -⟩⟩
            · exact (verified.later later).fails e
            · cases none
        · rw [Proc.wp_bind]
          exact Proc.wp_mono (wp_concludeVerified verified) (fun _ _ _ ended => ended)
            fun _ _ _ raised => raised

/-! ## Handlers -/

theorem Going.ordinary (h : Going plan false done a s t) (ordinary : Ordinary e) :
    Going plan false done a s (t ++ [e]) where
  inv := h.inv.ordinary ordinary
  going := h.going
  due now :=
    let ⟨raised, waiting⟩ := h.due (ordinary.due.mp now)
    ⟨fun clean => raised (clean_concat.mp clean).1, waiting⟩

/-- A claim is failed whose provider did not return. -/
theorem Going.failAction (h : Going plan false done a s t) (turn : Turn plan done a)
    (silent : ¬Occurs (returns a) t) {token : String} {outcome : Json} {answer : Except Exn Unit} :
    Going plan false done a s (t ++ [⟨(s, .failAction a token outcome), answer⟩]) where
  inv := {
    ledger := h.inv.ledger.event (fun _ => False.elim) (by rintro (clear | ⟨b, undo | confirm⟩) <;>
      contradiction) (fun _ => False.elim) fun _ item member token' _ => by
        obtain ⟨known, -, back⟩ := h.inv.ledger.written item member
        have apart : a.idempotencyKey ≠ item.action.idempotencyKey := by
          intro same
          have planned : item.action ∈ plan.actions := by
            rcases List.mem_append.mp known with old | now
            · exact turn.past old
            · exact List.mem_singleton.mp now ▸ turn.member
          exact silent (plan.action_inj_key planned turn.member same.symm ▸ back)
        have kept : holdStep item.action.idempotencyKey (some token')
            ⟨(s, .failAction a token outcome), answer⟩ = some token' := by
          cases answer with
          | error e => rfl
          | ok _ => exact if_neg apart
        rw [kept]
        exact Option.some_ne_none token'
    books := h.inv.books.event (fun _ _ => False.elim) (fun _ _ => False.elim) fun _ => id
    progress := h.inv.progress }
  going := h.going
  due now := by
    rcases due_concat.mp now with before | starts | ⟨-, fails⟩
    · obtain ⟨raised, waiting⟩ := h.due before
      exact ⟨fun clean => raised (clean_concat.mp clean).1, waiting⟩
    · cases starts
    · cases fails

theorem Going.persisting {preEffect : Bool} {s' : RunState} (h : Going plan false done a s t)
    (turn : Turn plan done a) (certified : preEffect = true → ¬Occurs (returns a) t)
    (persisting : Persisting a preEffect s t s' u) :
    s' = s ∧ Going plan false done a s u ∧ (Occurs (returns a) u → Occurs (returns a) t) := by
  obtain ⟨rfl, later | ⟨asked, w, token, outcome, answer, later, rfl⟩⟩ := persisting
  · exact ⟨rfl, later.keeps (fun _ _ ordinary holds => holds.ordinary ordinary) h, later.returns a⟩
  · have silent : ¬Occurs (returns a) w := fun back => certified asked (later.returns a back)
    refine ⟨rfl, Going.failAction ?_ turn silent, fun back =>
      absurd ((occurs_concat.mp back).resolve_right id) silent⟩
    exact later.keeps (fun _ _ ordinary holds => holds.ordinary ordinary) h

/-- What a handler reports: a failure, and an indeterminate one if the provider had returned. -/
structure Handled (plan : ChangePlan) (done : List AgentAction) (a : AgentAction) (r : ActionReport)
    (s : RunState) (t : Trace) : Prop extends Going plan false done a s t where
  mine : r.actionId = a.actionId
  failure : r.state.isFailure = true
  returned : Occurs (returns a) t → r.state = .indeterminate

theorem wp_handlePreEffect {state : ActionState} {message after : String} {e : Exn}
    (h : Failed plan done a e s t) (turn : Turn plan done a)
    (kind : e.kind = .preEffect ∨ e.kind = .versionConflict) (failure : state.isFailure = true) :
    Proc.wp (Allowed o plan approvals false coherence) (handlePreEffect o a state message after)
      (fun r s' t' => Handled plan done a r s' t') (fun _ _ _ => True) s t := by
  have precedes : s.result.isNone = true → ¬Occurs (returns a) t ∧ (Occurs (executes a) t →
      Occurs (raises a .preEffect) t ∨ Occurs (raises a .versionConflict) t) := by
    intro none
    rw [Option.isNone_iff_eq_none] at none
    refine ⟨fun back => h.result back none, fun runs => ?_⟩
    have raised := (h.raised runs).resolve_left (not_not_intro none)
    rcases kind with same | same
    · exact .inl (same ▸ raised)
    · exact .inr (same ▸ raised)
  -- either verdict is a failure, and it is indeterminate once the provider returned
  have reports : ∀ (persisted : Bool) (u : Trace), Going plan false done a s u →
      (Occurs (returns a) u → Occurs (returns a) t) → (persisted = true → s.result.isNone = true) →
      Handled plan done a ⟨a.actionId, a.capability, if persisted then state else .indeterminate,
        message ++ (if persisted then "" else if s.result.isSome then after
          else "; durable failure outcome could not be recorded"), s.result, none, none⟩ s u := by
    intro persisted u going back certain
    refine ⟨going, rfl, ?_, fun returned => ?_⟩
    · cases persisted
      · rfl
      · exact failure
    · have late : persisted = false := by
        by_contra early
        exact (precedes (certain (Bool.eq_true_of_not_eq_false early))).1 (back returned)
      rw [late]
      rfl
  unfold handlePreEffect
  rw [Proc.wp_bind, Proc.wp_get]
  dsimp only
  split
  · exact reports _ t h.toGoing id id
  · rw [Proc.wp_bind]
    refine Proc.wp_mono (wp_persistIdempotencyOutcome h.held precedes) ?_ fun _ _ _ _ => trivial
    rintro persisted s' u persisting
    obtain ⟨rfl, going, back⟩ := h.toGoing.persisting turn (fun asked => (precedes asked).1) persisting
    exact reports _ u going back fun both => (Bool.and_eq_true_iff.mp both).1

theorem wp_handleUncertain {e : Exn} (h : Failed plan done a e s t) (turn : Turn plan done a) :
    Proc.wp (Allowed o plan approvals false coherence) (handleUncertain o a e)
      (fun r s' t' => Handled plan done a r s' t') (fun _ _ _ => True) s t := by
  unfold handleUncertain
  rw [Proc.wp_bind]
  refine Proc.wp_mono (wp_persistIdempotencyOutcome h.held nofun) ?_ fun _ _ _ _ => trivial
  rintro persisted s' u persisting
  obtain ⟨rfl, going, back⟩ := h.toGoing.persisting turn
    (fun asked => absurd asked Bool.false_ne_true) persisting
  rw [Proc.wp_bind, Proc.wp_get]
  refine ⟨going, rfl, ?_, fun returned => ?_⟩
  · dsimp only
    split <;> rfl
  · exact if_pos (.inl (Option.isSome_iff_ne_none.mpr (h.result (back returned))))

theorem wp_handle {e : Exn} (h : Failed plan done a e s t) (turn : Turn plan done a) :
    Proc.wp (Allowed o plan approvals false coherence) (handle o a e)
      (fun report s' t' => ∃ r, report = some r ∧ Handled plan done a r s' t')
      (fun _ _ _ => True) s t := by
  have given : ∀ {p : Orchestration ActionReport}, Proc.wp (Allowed o plan approvals false coherence)
        p (fun r s' t' => Handled plan done a r s' t') (fun _ _ _ => True) s t →
      Proc.wp (Allowed o plan approvals false coherence) (some <$> p)
        (fun report s' t' => ∃ r, report = some r ∧ Handled plan done a r s' t')
        (fun _ _ _ => True) s t := fun reported => by
    rw [Proc.wp_map]
    exact Proc.wp_mono reported (fun r _ _ handled => ⟨r, rfl, handled⟩) fun _ _ _ raised => raised
  unfold handle
  split
  · next kind => exact given (wp_handlePreEffect h turn (.inr kind) rfl)
  · split
    · next kind => exact given (wp_handlePreEffect h turn (.inl kind) rfl)
    · split
      · exact given (wp_handleUncertain h turn)
      · exact trivial

/-! ## A turn -/

omit [Host] in
theorem withheldReport_actionId {egress : Option EgressBinding} {r : ActionReport} :
    (withheldReport egress r).actionId = r.actionId := by
  unfold withheldReport
  split <;> rfl

omit [Host] in
theorem withheldReport_state {egress : Option EgressBinding} {r : ActionReport} :
    (withheldReport egress r).state = r.state := by
  unfold withheldReport
  split <;> rfl

omit [Host] in
/-- A report that withholds a result says the same of the action. -/
theorem Fits.withheld {egress : Option EgressBinding} {r : ActionReport} (h : Fits a r s t) :
    Fits a (withheldReport egress r) s t where
  mine := withheldReport_actionId.trans h.mine
  waits := by
    rw [withheldReport_state]
    exact h.waits
  outcome := by
    rw [withheldReport_state]
    exact h.outcome
  ready := by
    rw [withheldReport_state]
    exact h.ready

theorem Executed.fits {r : ActionReport} (h : Executed plan done a s t) (attempted : Attempted a r) :
    Fits a r s t where
  mine := attempted.1
  waits _ := h.waits
  outcome reversible _ := by
    obtain ⟨-, state | state | ⟨-, reads⟩⟩ := attempted
    · rw [state]
      rfl
    · rw [state]
      rfl
    · cases reversible.symm.trans reads
  ready _ := h.ready

theorem Handled.fits {r : ActionReport} (h : Handled plan done a r s t) : Fits a r s t where
  mine := h.mine
  waits verified := by
    have failure := h.failure
    rw [verified] at failure
    cases failure
  outcome _ returned := by
    rw [h.returned returned]
    rfl
  ready finished := by
    have failure := h.failure
    revert failure finished
    cases r.state <;> simp [ActionState.isDone, ActionState.isFailure]

/-- An action that passed its checks is attempted and concluded. -/
theorem wp_settle (h : Head plan false coherence done s t) (turn : Turn plan done a)
    (going : s.abortRemaining = false)
    (screened : Screened o plan approvals false coherence a s.stateById t) :
    Proc.wp (Allowed o plan approvals false coherence) (settle o plan a)
      (fun _ s' t' => Head plan false coherence (done ++ [a]) s' t') (fun _ _ _ => True) s t := by
  -- an outcome is concluded, with a compensation pass if it is a failure
  have concludes : ∀ (r : ActionReport) (s' : RunState) (t' : Trace), Going plan false done a s' t' →
      Fits a r s' t' → (r.state.isFailure = false → ¬Due plan false t') →
      Proc.wp (Allowed o plan approvals false coherence)
        (do
          let s ← Proc.get
          let r := withheldReport s.egress r
          conclude plan false r.state.isFailure a r none)
        (fun _ s' t' => Head plan false coherence (done ++ [a]) s' t') (fun _ _ _ => True) s' t' := by
    intro r s' t' mid fits resting
    have active : s'.abortRemaining ≠ true := by rw [mid.going]; exact Bool.false_ne_true
    rw [Proc.wp_bind, Proc.wp_get]
    refine Proc.wp_mono (wp_conclude mid.inv turn fits.withheld (fun stopped => absurd stopped active)
      (fun required => nomatch screened.coherent.symm.trans required) (fun _ now => ?_) ?_
      fun _ => mid.going) (fun _ _ _ ended => ended) fun _ _ _ _ => trivial
    · refine ⟨?_, mid.due now⟩
      by_contra silent
      rw [withheldReport_state] at silent
      exact resting (Bool.eq_false_of_not_eq_true silent) now
    · intro silent failure
      rw [silent] at failure
      cases failure
  have prepared : Prepared o plan approvals coherence done a s.nextAttempt t := {
    head := ⟨⟨h.inv.ledger, h.inv.books, h.inv.progress⟩, h.resting, h.settled, h.pending, h.gated⟩
    screened := screened
    going := going
    result := rfl
    egress := fun some => absurd rfl some
    held := nofun }
  unfold settle
  rw [Proc.wp_bind, Proc.wp_modify, Proc.wp_bind, Proc.wp_tryCatch]
  refine Proc.wp_mono (wp_attempt prepared turn rfl) ?_ ?_
  · rintro (_ | r) s' t' ended
    · exact ended
    · obtain ⟨executed, attempted⟩ := ended
      exact concludes r s' t' ⟨executed.inv, executed.going, fun now => absurd now executed.resting⟩
        (executed.fits attempted) fun _ => executed.resting
  · intro e s' t' failed
    refine Proc.wp_mono (wp_handle failed turn) ?_ fun _ _ _ raised => raised
    rintro _ s' t' ⟨r, rfl, handled⟩
    exact concludes r s' t' handled.toGoing handled.fits fun silent =>
      nomatch silent.symm.trans handled.failure

/-- The turn of an action: a step of the run. -/
theorem wp_processAction {dryRun : Bool} (h : Head plan dryRun coherence done s t)
    (turn : Turn plan done a) :
    Proc.wp (Allowed o plan approvals dryRun coherence)
      (processAction o plan approvals dryRun coherence a)
      (fun _ s' t' => Head plan dryRun coherence (done ++ [a]) s' t') (fun _ _ _ => True) s t := by
  unfold processAction
  rw [Proc.wp_bind, Proc.wp_get]
  split
  · next stopped =>
      refine Proc.wp_mono (h.wp_conclude turn (.plain rfl fun _ returned =>
        absurd returned (h.not_returned turn)) (fun _ => nofun) nofun) (fun _ _ _ ended => ended)
        fun _ _ _ _ => trivial
  · next active =>
      have going : s.abortRemaining = false := Bool.eq_false_of_not_eq_true active
      rw [Proc.wp_bind]
      refine Proc.wp_mono (wp_screen h turn going) ?_ fun _ _ _ raised => raised
      rintro (_ | _) s' t' ended
      · exact ended
      · obtain ⟨rfl, head, screened⟩ := ended
        obtain rfl := screened.applied
        exact wp_settle head turn going screened

end

end MasterAgent
