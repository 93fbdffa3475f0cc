import MasterAgent.Orchestrator.Turn

/-!
# The attempt of an action

What holds in the attempt of an action that passed its checks: before its provider is called
(`Prepared`), once it returned (`Executed`), and when something raised (`Failed`).

Result: `wp_processAction`, a turn takes `Head` to `Head` and makes every call as `Allowed` asks.
-/

namespace MasterAgent
open Base

section
variable [Host] {o : WorkflowOrchestrator} {plan : ChangePlan} {approvals : List Approval}
  {coherence : Bool} {done : List AgentAction} {a : AgentAction} {c : Connector} {s : RunState}
  {t u : Trace} {e : TraceEvent}

/-! ## Calls that change nothing -/

/-- A later trace whose new events are ordinary. -/
def Later (t u : Trace) : Prop := ∃ v, u = t ++ v ∧ ∀ e ∈ v, Ordinary e

omit [Host] in
theorem Later.refl (t : Trace) : Later t t :=
  ⟨[], (List.append_nil t).symm, fun _ member => absurd member List.not_mem_nil⟩

omit [Host] in
theorem Later.snoc (h : Later t u) (ordinary : Ordinary e) : Later t (u ++ [e]) := by
  obtain ⟨v, rfl, all⟩ := h
  refine ⟨v ++ [e], by simp, fun e' member => ?_⟩
  rcases List.mem_append.mp member with old | now
  · exact all e' old
  · exact List.mem_singleton.mp now ▸ ordinary

omit [Host] in
/-- What ordinary events keep holds later. -/
theorem Later.keeps {I : Trace → Prop} (h : Later t u)
    (step : ∀ t e, Ordinary e → I t → I (t ++ [e])) (holds : I t) : I u := by
  obtain ⟨v, rfl, all⟩ := h
  induction v generalizing t with
  | nil => simpa using holds
  | cons e v ih =>
      rw [List.append_cons]
      exact ih (step t e (all e List.mem_cons_self) holds) fun e' member =>
        all e' (List.mem_cons_of_mem _ member)

omit [Host] in
theorem Later.trans {w : Trace} (h : Later t u) (g : Later u w) : Later t w :=
  g.keeps (fun _ _ ordinary later => later.snoc ordinary) h

omit [Host] in
theorem Later.occurs {p : TraceEvent → Prop} (h : Later t u) (occurs : Occurs p t) : Occurs p u :=
  h.keeps (fun _ e _ before => before.append [e]) occurs

/-- The procedure makes ordinary calls only and leaves the state as it is, whether it returns or
raises; what it returns is as `V` says. -/
def Quiet {A : Type} (point : Trace → RunState → Call → Prop) (p : Orchestration A) (s : RunState)
    (t : Trace) (V : A → Trace → Prop) : Prop :=
  Proc.wp point p (fun v s' t' => s' = s ∧ Later t t' ∧ V v t') (fun _ s' t' => s' = s ∧ Later t t')
    s t

omit [Host] in
/-- An ordinary call. -/
theorem quiet_perform {point : Trace → RunState → Call → Prop} {call : Call}
    {V : call.Value → Trace → Prop} (allowed : ∀ t s, point t s call)
    (ordinary : isOrdinary call = true) (later : Later t u)
    (answers : ∀ v, V v (u ++ [⟨(s, call), .ok v⟩])) :
    Proc.wp point (perform call) (fun v s' t' => s' = s ∧ Later t t' ∧ V v t')
      (fun _ s' t' => s' = s ∧ Later t t') s u :=
  wp_perform.mpr ⟨allowed u s, fun v => ⟨rfl, later.snoc (ordinary_of_call ordinary), answers v⟩,
    fun _ => ⟨rfl, later.snoc (ordinary_of_call ordinary)⟩⟩

/-- The contract that is accepted is that of the connector. -/
theorem quiet_validateExecutionContract :
    Quiet (Allowed o plan approvals false coherence) (validateExecutionContract o plan a c) s t
      fun verdict t' => verdict.1 = true → ContractAccepted o plan a c t' := by
  unfold Quiet validateExecutionContract ContractAccepted
  cases capabilities : o.capabilities with
  | none => exact ⟨rfl, Later.refl t, fun _ => trivial⟩
  | some catalog =>
      simp only [Proc.wp_bind, Proc.wp_lift]
      cases defined : catalog.definition a.capability with
      | error e => exact ⟨trivial, Later.refl t⟩
      | ok definition =>
          dsimp only
          split
          · exact ⟨rfl, Later.refl t, fun accepted => absurd accepted Bool.false_ne_true⟩
          · next mock =>
              split
              · exact ⟨rfl, Later.refl t, fun accepted => absurd accepted Bool.false_ne_true⟩
              · next live =>
                  refine quiet_perform (fun _ _ => trivial) rfl (Later.refl t) fun v accepted => ?_
                  refine ⟨definition, rfl, fun backed mode => ?_, fun backed mode => ?_,
                    occurs_concat.mpr (.inr ⟨rfl, rfl, accepted⟩)⟩
                  · by_contra real
                    exact mock ⟨backed, mode, real⟩
                  · by_contra real
                    exact live ⟨backed, mode, by simpa using real⟩

/-- Only provider reads are bound to an egress route. -/
theorem quiet_providerDataEgressBinding :
    Quiet (Allowed o plan approvals false coherence) (providerDataEgressBinding o a c) s t
      fun egress _ => egress ≠ none → a.risk = .readOnly := by
  unfold Quiet providerDataEgressBinding
  split
  · exact ⟨rfl, Later.refl t, fun some => absurd rfl some⟩
  · next reads =>
      rw [not_not] at reads
      cases o.capabilities with
      | none =>
          dsimp only
          split
          · exact ⟨rfl, Later.refl t, fun _ => reads⟩
          · exact ⟨rfl, Later.refl t⟩
      | some catalog =>
          simp only [Proc.wp_bind, Proc.wp_lift]
          cases catalog.definition a.capability with
          | error e => exact ⟨trivial, Later.refl t⟩
          | ok definition =>
              dsimp only
              split
              · exact ⟨rfl, Later.refl t, fun _ => reads⟩
              · cases o.governance with
                | none => exact ⟨rfl, Later.refl t⟩
                | some governance =>
                    dsimp only
                    split
                    · exact ⟨rfl, Later.refl t⟩
                    · rw [Proc.wp_map]
                      exact quiet_perform (fun _ _ => trivial) rfl (Later.refl t) fun _ _ => reads

theorem quiet_connectorRecord {r : ExecutionOutcome} :
    Quiet (Allowed o plan approvals false coherence) (connectorRecord c a r) s t
      fun _ _ => True := by
  unfold Quiet connectorRecord
  rw [wp_catching]
  simp only [Proc.wp_bind, Proc.wp_lift]
  refine wp_perform.mpr ⟨trivial, fun record => ?_, fun e => ?_⟩
  · have later := (Later.refl t).snoc (e := ⟨(s, .idempotencyRecord c a r), .ok record⟩)
      (ordinary_of_call rfl)
    cases validateIdempotencyRecord record with
    | error e =>
        dsimp only
        split
        · exact ⟨rfl, later, trivial⟩
        · exact ⟨rfl, later⟩
    | ok valid => exact ⟨rfl, later, trivial⟩
  · have later := (Later.refl t).snoc (e := ⟨(s, .idempotencyRecord c a r), .error e⟩)
      (ordinary_of_call rfl)
    split
    · exact ⟨rfl, later, trivial⟩
    · exact ⟨rfl, later⟩

theorem quiet_idempotencyRecord {connector : Option Connector} {r : ExecutionOutcome} :
    Quiet (Allowed o plan approvals false coherence) (idempotencyRecord connector a r) s t
      fun _ _ => True := by
  have summary : ∀ {u}, Later t u → Proc.wp (Allowed o plan approvals false coherence)
      (perform (.resultAuditSummary r)) (fun _ s' t' => s' = s ∧ Later t t' ∧ True)
      (fun _ s' t' => s' = s ∧ Later t t') s u := fun later =>
    quiet_perform (fun _ _ => trivial) rfl later fun _ => trivial
  unfold Quiet idempotencyRecord
  cases connector.filter (·.recordsIdempotency) with
  | none => exact summary (Later.refl t)
  | some c =>
      simp only [Proc.wp_bind]
      refine Proc.wp_mono quiet_connectorRecord ?_ fun _ _ _ raised => raised
      rintro (_ | record) s' t' ⟨rfl, later, -⟩
      · exact summary later
      · exact ⟨rfl, later, trivial⟩

theorem quiet_reverify {prior : Fields} :
    Quiet (Allowed o plan approvals false coherence) (reverify a c prior) s t
      fun _ _ => True := by
  unfold Quiet reverify
  rw [wp_catching]
  simp only [Proc.wp_bind]
  refine wp_perform.mpr ⟨trivial, fun v => ?_, fun e => ?_⟩
  · exact ⟨rfl, (Later.refl t).snoc (ordinary_of_call rfl), trivial⟩
  · split
    · exact ⟨rfl, (Later.refl t).snoc (ordinary_of_call rfl), trivial⟩
    · exact ⟨rfl, (Later.refl t).snoc (ordinary_of_call rfl)⟩

/-! ## Before the provider is called -/

/-- The action passed its checks, and its provider was not called. -/
structure Prepared (o : WorkflowOrchestrator) (plan : ChangePlan) (approvals : List Approval)
    (coherence : Bool) (done : List AgentAction) (a : AgentAction) (s : RunState) (t : Trace) :
    Prop where
  head : Head plan false coherence done s t
  screened : Screened o plan approvals false coherence a s.stateById t
  going : s.abortRemaining = false
  result : s.result = none
  egress : s.egress ≠ none → a.risk = .readOnly
  held : ∀ token, s.claimToken = some token → holding t a.idempotencyKey = some token

theorem Screened.append {dryRun : Bool} {states : Uuid → Option ActionState}
    (h : Screened o plan approvals dryRun coherence a states t) (v : Trace) :
    Screened o plan approvals dryRun coherence a states (t ++ v) :=
  let ⟨minimum, now, decision, least, read, decided⟩ := h.policy
  { h with policy := ⟨minimum, now, decision, least, read.append v, decided⟩ }

theorem ContractAccepted.append (h : ContractAccepted o plan a c t) (v : Trace) :
    ContractAccepted o plan a c (t ++ v) := by
  unfold ContractAccepted at h ⊢
  cases offered : o.capabilities with
  | none => trivial
  | some catalog =>
      rw [offered] at h
      obtain ⟨definition, defined, mock, live, accepted⟩ := h
      exact ⟨definition, defined, mock, live, accepted.append v⟩

namespace Prepared

theorem ordinary (h : Prepared o plan approvals coherence done a s t) (ordinary : Ordinary e) :
    Prepared o plan approvals coherence done a s (t ++ [e]) where
  head := h.head.ordinary ordinary
  screened := h.screened.append [e]
  going := h.going
  result := h.result
  egress := h.egress
  held token given := by
    rw [holding_concat, ordinary.holds]
    exact h.held token given

theorem later (h : Prepared o plan approvals coherence done a s t) (later : Later t u) :
    Prepared o plan approvals coherence done a s u :=
  later.keeps (fun _ _ ordinary holds => holds.ordinary ordinary) h

/-- The scratch variables of the attempt are set. -/
theorem scratch (h : Prepared o plan approvals coherence done a s t) {connector : Option Connector}
    {egress : Option EgressBinding} {token : Option String}
    (reads : egress ≠ none → a.risk = .readOnly)
    (held : ∀ k, token = some k → holding t a.idempotencyKey = some k) :
    Prepared o plan approvals coherence done a
      { s with connector := connector, egress := egress, claimToken := token } t where
  head := ⟨⟨h.head.inv.ledger, h.head.inv.books, h.head.inv.progress⟩, h.head.resting,
    h.head.settled, h.head.pending, h.head.gated⟩
  screened := h.screened
  going := h.going
  result := h.result
  egress := reads
  held := held

theorem thwarted (h : Prepared o plan approvals coherence done a s t) (turn : Turn plan done a)
    (unclaimed : s.claimToken = none) : Thwarted plan false done a s t where
  inv := h.head.inv.begin turn
  going := h.going
  due now := absurd now (h.head.resting h.going)
  new := h.head.new turn
  unclaimed := unclaimed

end Prepared

/-- The attempt raised. -/
structure Failed (plan : ChangePlan) (done : List AgentAction) (a : AgentAction) (e : Exn)
    (s : RunState) (t : Trace) : Prop extends Going plan false done a s t where
  held : ∀ token, s.claimToken = some token → holding t a.idempotencyKey = some token
  result : Occurs (returns a) t → s.result ≠ none
  raised : Occurs (executes a) t → s.result ≠ none ∨ Occurs (raises a e.kind) t

omit [Host] in
theorem executed_of_returned (h : Occurs (returns a) t) : Occurs (executes a) t :=
  h.imp fun _ ⟨at_e, back⟩ => ⟨at_e, returns_executes back⟩

theorem Thwarted.failed (h : Thwarted plan false done a s t) (e : Exn) :
    Failed plan done a e s t where
  toGoing := h.toGoing
  held token given := absurd (h.unclaimed.symm.trans given) (Option.some_ne_none token).symm
  result returned := absurd (executed_of_returned returned) h.new
  raised executed := absurd executed h.new

theorem Prepared.failed (h : Prepared o plan approvals coherence done a s t)
    (turn : Turn plan done a) (e : Exn) : Failed plan done a e s t where
  inv := h.head.inv.begin turn
  going := h.going
  due now := absurd now (h.head.resting h.going)
  held := h.held
  result returned := absurd returned (h.head.not_returned turn)
  raised executed := absurd executed (h.head.new turn)

theorem wp_authorizeEgress (h : Prepared o plan approvals coherence done a s t)
    (turn : Turn plan done a) (unclaimed : s.claimToken = none) :
    Proc.wp (Allowed o plan approvals false coherence) (authorizeEgress o plan a c)
      (fun authorized s' t' => match authorized with
        | none => Head plan false coherence (done ++ [a]) s' t'
        | some egress => s' = s ∧ Later t t' ∧ (egress ≠ none → a.risk = .readOnly))
      (fun e s' t' => Failed plan done a e s' t') s t := by
  unfold authorizeEgress
  rw [wp_catching]
  simp only [Proc.wp_bind]
  refine Proc.wp_mono quiet_providerDataEgressBinding ?_ ?_
  · rintro egress s' t' ⟨rfl, later, reads⟩
    exact ⟨rfl, later, reads⟩
  · rintro e s' t' ⟨rfl, later⟩
    split
    · refine Proc.wp_mono ((h.later later).thwarted turn unclaimed |>.wp_refuse turn
        h.screened.coherent rfl) (fun _ _ _ ended => ended) fun e _ _ raised => raised.failed e
    · exact (h.later later).failed turn e

/-! ### Reservations -/

/-- A claim changes what is held for one key only. -/
theorem Head.claim (h : Head plan false coherence done s t) (turn : Turn plan done a)
    {answer : Except Exn IdempotencyClaim} :
    Head plan false coherence done s (t ++ [⟨(s, .claimAction a), answer⟩]) where
  inv := {
    ledger := h.inv.ledger.event (fun _ => False.elim) (by rintro (clear | ⟨b, undo | confirm⟩) <;>
      contradiction) (fun _ => False.elim) fun _ item member token _ => by
        have apart : a.idempotencyKey ≠ item.action.idempotencyKey := by
          intro same
          have old : item.action ∈ done := by simpa using (h.inv.ledger.written item member).1
          exact turn.fresh (plan.action_inj_key turn.member (turn.past old) same ▸ old)
        have kept : holdStep item.action.idempotencyKey (some token)
            ⟨(s, .claimAction a), answer⟩ = some token := by
          cases answer with
          | error e => rfl
          | ok claim => exact if_neg fun mine => apart mine.1
        rw [kept]
        exact Option.some_ne_none token
    books := h.inv.books.event (fun _ _ => False.elim) (fun _ _ => False.elim) fun _ => id
    progress := h.inv.progress }
  resting active now := h.resting active (by
    rcases due_concat.mp now with before | starts | ⟨-, fails⟩
    · exact before
    · cases starts
    · cases fails)
  settled := h.settled
  pending waiting := (h.pending waiting).append _
  gated := h.gated

/-- A claim that gave no token leaves the attempt prepared. -/
theorem Prepared.claim (h : Prepared o plan approvals coherence done a s t)
    (turn : Turn plan done a) (unclaimed : s.claimToken = none)
    {answer : Except Exn IdempotencyClaim} :
    Prepared o plan approvals coherence done a s (t ++ [⟨(s, .claimAction a), answer⟩]) where
  head := h.head.claim turn
  screened := h.screened.append _
  going := h.going
  result := h.result
  egress := h.egress
  held token given := absurd (unclaimed.symm.trans given) (Option.some_ne_none token).symm

theorem wp_concludeReused {message : String} {prior : Fields}
    (h : Prepared o plan approvals coherence done a s t) (turn : Turn plan done a)
    (unclaimed : s.claimToken = none) :
    Proc.wp (Allowed o plan approvals false coherence) (concludeReused plan a message prior)
      (fun _ s' t' => Head plan false coherence (done ++ [a]) s' t')
      (fun _ s' t' => Thwarted plan false done a s' t') s t := by
  refine Proc.wp_mono (h.head.wp_conclude turn ⟨rfl, nofun, fun _ returned =>
    absurd returned (h.head.not_returned turn), fun _ => h.screened.dependencies⟩
    (fun _ => nofun) nofun) (fun _ _ _ ended => ended) ?_
  exact fun _ _ _ raised => raised h.going unclaimed

theorem wp_reuseCompleted {claim : IdempotencyClaim}
    (h : Prepared o plan approvals coherence done a s t) (turn : Turn plan done a)
    (unclaimed : s.claimToken = none) :
    Proc.wp (Allowed o plan approvals false coherence) (reuseCompleted plan a c claim)
      (fun _ s' t' => Head plan false coherence (done ++ [a]) s' t')
      (fun e s' t' => Failed plan done a e s' t') s t := by
  have refused : ∀ {u : Trace} {message : String}, Prepared o plan approvals coherence done a s u →
      Proc.wp (Allowed o plan approvals false coherence) (refuse plan false a .conflicted message)
        (fun _ s' t' => Head plan false coherence (done ++ [a]) s' t')
        (fun e s' t' => Failed plan done a e s' t') s u := fun prepared =>
    Proc.wp_mono ((prepared.thwarted turn unclaimed).wp_refuse turn h.screened.coherent rfl)
      (fun _ _ _ ended => ended) fun e _ _ raised => raised.failed e
  unfold reuseCompleted
  split
  · exact refused h
  · rw [Proc.wp_bind]
    refine Proc.wp_mono quiet_reverify ?_ ?_
    · rintro (e | verification) s' t' ⟨rfl, later, -⟩
      · exact refused (h.later later)
      · dsimp only
        split
        · exact refused (h.later later)
        · exact Proc.wp_mono (wp_concludeReused (h.later later) turn unclaimed)
            (fun _ _ _ ended => ended) fun e _ _ raised => raised.failed e
    · rintro e s' t' ⟨rfl, later⟩
      exact (h.later later).failed turn e

/-- What is not reconciled can still be refused, also when the record of a reuse raised. -/
theorem wp_reconcile {claim : IdempotencyClaim} {record : Fields}
    (h : Prepared o plan approvals coherence done a s t) (turn : Turn plan done a)
    (unclaimed : s.claimToken = none) :
    Proc.wp (Allowed o plan approvals false coherence) (reconcile plan a c claim record)
      (fun pending s' t' => match pending with
        | none => Head plan false coherence (done ++ [a]) s' t'
        | some _ => Thwarted plan false done a s' t')
      (fun e s' t' => Failed plan done a e s' t') s t := by
  have caught : ∀ (e : Exn) (s' : RunState) (t' : Trace), Thwarted plan false done a s' t' →
      if e.kind.reverificationCatches then Proc.wp (Allowed o plan approvals false coherence)
        (return some s!"; reconciliation did not verify: {e.className}")
        (fun pending s' t' => match pending with
          | none => Head plan false coherence (done ++ [a]) s' t'
          | some _ => Thwarted plan false done a s' t')
        (fun e s' t' => Failed plan done a e s' t') s' t'
      else Failed plan done a e s' t' := fun e s' t' thwarted => by
    split
    · exact thwarted
    · exact thwarted.failed e
  unfold reconcile
  rw [wp_catching]
  simp only [Proc.wp_bind]
  refine wp_perform.mpr ⟨trivial, fun v => ?_, fun e => ?_⟩
  · have asked := h.ordinary (e := ⟨(s, .verifyCompleted c a record), .ok v⟩) (ordinary_of_call rfl)
    split
    · exact asked.thwarted turn unclaimed
    · rw [Proc.wp_bind]
      refine wp_perform.mpr ⟨trivial, fun _ => ?_, fun e => caught e _ _ ?_⟩
      · rw [Proc.wp_bind]
        exact Proc.wp_mono (wp_concludeReused (asked.ordinary (ordinary_of_call rfl)) turn unclaimed)
          (fun _ _ _ ended => ended) caught
      · exact (asked.ordinary (ordinary_of_call rfl)).thwarted turn unclaimed
  · exact caught e _ _ ((h.ordinary (ordinary_of_call rfl)).thwarted turn unclaimed)

theorem wp_reconcileIndeterminate {claim : IdempotencyClaim}
    (h : Prepared o plan approvals coherence done a s t) (turn : Turn plan done a)
    (unclaimed : s.claimToken = none) :
    Proc.wp (Allowed o plan approvals false coherence) (reconcileIndeterminate plan a c claim)
      (fun _ s' t' => Head plan false coherence (done ++ [a]) s' t')
      (fun e s' t' => Failed plan done a e s' t') s t := by
  have refused : ∀ {s' : RunState} {t' : Trace} {message : String},
      Thwarted plan false done a s' t' →
      Proc.wp (Allowed o plan approvals false coherence) (refuse plan false a .conflicted message)
        (fun _ s' t' => Head plan false coherence (done ++ [a]) s' t')
        (fun e s' t' => Failed plan done a e s' t') s' t' := fun thwarted =>
    Proc.wp_mono (thwarted.wp_refuse turn h.screened.coherent rfl)
      (fun _ _ _ ended => ended) fun e _ _ raised => raised.failed e
  unfold reconcileIndeterminate
  cases (indeterminateResult claim.result).filter fun _ => c.verifiesIdempotency with
  | none => exact refused (h.thwarted turn unclaimed)
  | some record =>
      simp only [Proc.wp_bind]
      refine Proc.wp_mono (wp_reconcile h turn unclaimed) ?_ fun _ _ _ raised => raised
      rintro (_ | message) s' t' ended
      · exact ended
      · exact refused ended

/-- An attempt that goes on holds the reservation it just made. -/
theorem wp_reserve (h : Prepared o plan approvals coherence done a s t) (turn : Turn plan done a)
    (unclaimed : s.claimToken = none) :
    Proc.wp (Allowed o plan approvals false coherence) (reserve plan a c)
      (fun reserved s' t' =>
        if reserved then Prepared o plan approvals coherence done a s' t' ∧ (∃ v, t' = t ++ v) ∧
          ∃ token, s'.claimToken = some token ∧ FreshClaim a token t'
        else Head plan false coherence (done ++ [a]) s' t')
      (fun e s' t' => Failed plan done a e s' t') s t := by
  have refused : ∀ {u : Trace} {message : String}, Prepared o plan approvals coherence done a s u →
      Proc.wp (Allowed o plan approvals false coherence) (refuse plan false a .conflicted message)
        (fun _ s' t' => Head plan false coherence (done ++ [a]) s' t')
        (fun e s' t' => Failed plan done a e s' t') s u := fun prepared =>
    Proc.wp_mono ((prepared.thwarted turn unclaimed).wp_refuse turn h.screened.coherent rfl)
      (fun _ _ _ ended => ended) fun e _ _ raised => raised.failed e
  unfold reserve
  rw [Proc.wp_bind]
  refine wp_perform.mpr ⟨trivial, fun claim => ?_, fun e => (h.claim turn unclaimed).failed turn e⟩
  have asked : Prepared o plan approvals coherence done a s
      (t ++ [⟨(s, .claimAction a), .ok claim⟩]) := h.claim turn unclaimed
  -- the two answers that reserve the key
  have granted : claim.state = .claimed ∨ claim.state = .failed →
      Proc.wp (Allowed o plan approvals false coherence)
        (do
          Proc.modify fun s => { s with claimToken := claim.token }
          if claim.token = none then
            Proc.throw (runtimeError "idempotency claim omitted its token")
          else return true)
        (fun reserved s' t' =>
          if reserved then Prepared o plan approvals coherence done a s' t' ∧ (∃ v, t' = t ++ v) ∧
            ∃ token, s'.claimToken = some token ∧ FreshClaim a token t'
          else Head plan false coherence (done ++ [a]) s' t')
        (fun e s' t' => Failed plan done a e s' t') s
        (t ++ [⟨(s, .claimAction a), .ok claim⟩]) := by
    intro reserves
    have held : ∀ k, claim.token = some k → holding (t ++ [⟨(s, .claimAction a), .ok claim⟩])
        a.idempotencyKey = some k := by
      intro k given
      rw [holding_concat, ← given]
      exact if_pos ⟨rfl, reserves⟩
    have mine : Prepared o plan approvals coherence done a { s with claimToken := claim.token }
        (t ++ [⟨(s, .claimAction a), .ok claim⟩]) := asked.scratch asked.egress held
    rw [Proc.wp_bind, Proc.wp_modify]
    split
    · exact mine.failed turn _
    · next given =>
        obtain ⟨token, given⟩ := Option.ne_none_iff_exists'.mp given
        exact ⟨mine, ⟨_, rfl⟩, token, given, t, _, [], rfl, ⟨rfl, reserves, given⟩,
          fun _ none => absurd none List.not_mem_nil⟩
  have ends : ∀ {p : Orchestration Unit}, Proc.wp (Allowed o plan approvals false coherence) p
        (fun _ s' t' => Head plan false coherence (done ++ [a]) s' t')
        (fun e s' t' => Failed plan done a e s' t') s (t ++ [⟨(s, .claimAction a), .ok claim⟩]) →
      Proc.wp (Allowed o plan approvals false coherence) (p >>= fun _ => return false)
        (fun reserved s' t' =>
          if reserved then Prepared o plan approvals coherence done a s' t' ∧ (∃ v, t' = t ++ v) ∧
            ∃ token, s'.claimToken = some token ∧ FreshClaim a token t'
          else Head plan false coherence (done ++ [a]) s' t')
        (fun e s' t' => Failed plan done a e s' t') s
        (t ++ [⟨(s, .claimAction a), .ok claim⟩]) := fun ended => by
    rw [Proc.wp_bind]
    exact Proc.wp_mono ended (fun _ _ _ ended => ended) fun _ _ _ raised => raised
  cases state : claim.state with
  | completed => exact ends (wp_reuseCompleted asked turn unclaimed)
  | conflict => exact ends (refused asked)
  | inProgress => exact ends (refused asked)
  | indeterminate => exact ends (wp_reconcileIndeterminate asked turn unclaimed)
  | claimed => exact granted (.inl state)
  | failed => exact granted (.inr state)

/-- What mediates the call of the provider, the claim included. -/
structure Cleared (o : WorkflowOrchestrator) (plan : ChangePlan) (approvals : List Approval)
    (coherence : Bool) (done : List AgentAction) (a : AgentAction) (c : Connector) (s : RunState)
    (t : Trace) : Prop extends Prepared o plan approvals coherence done a s t where
  connector : resolveConnector o.connectors a.target.system a.capability = .ok c
  contract : ContractAccepted o plan a c t
  claim : usesIdempotency a = true → ∃ token, s.claimToken = some token ∧ FreshClaim a token t

/-- The last steps before the provider is called: the connector's limits, the reservation and the
guard. -/
theorem wp_reservation (h : Prepared o plan approvals coherence done a s t)
    (contract : ContractAccepted o plan a c t)
    (resolved : resolveConnector o.connectors a.target.system a.capability = .ok c)
    (turn : Turn plan done a) (unclaimed : s.claimToken = none) :
    Proc.wp (Allowed o plan approvals false coherence)
      (do
        let _ ← Proc.lift (connectorHttpActionBudget c)
        if usesIdempotency a then
          if ← reserve plan a c then
            if o.preEffectGuard then perform (.preEffectGuard a)
            return some c
          else return none
        else return some c)
      (fun prepared s' t' => match prepared with
        | none => Head plan false coherence (done ++ [a]) s' t'
        | some c => Cleared o plan approvals coherence done a c s' t')
      (fun e s' t' => Failed plan done a e s' t') s t := by
  rw [Proc.wp_bind, Proc.wp_lift]
  cases connectorHttpActionBudget c with
  | error e => exact h.failed turn e
  | ok budget =>
  dsimp only
  split
  · rw [Proc.wp_bind]
    refine Proc.wp_mono (wp_reserve h turn unclaimed) ?_ fun _ _ _ raised => raised
    rintro (_ | _) s' t' ended
    · exact ended
    · obtain ⟨mine, ⟨v, rfl⟩, token, given, fresh⟩ := ended
      rw [if_pos rfl]
      split
      · rw [Proc.wp_bind]
        refine wp_perform.mpr ⟨trivial, fun _ => ?_, fun e =>
          (mine.ordinary (ordinary_of_call rfl)).failed turn e⟩
        refine ⟨mine.ordinary (ordinary_of_call rfl), resolved, (contract.append v).append _,
          fun _ => ⟨token, given, fresh.guard trivial⟩⟩
      · exact ⟨mine, resolved, contract.append v, fun _ => ⟨token, given, fresh⟩⟩
  · next silent => exact ⟨h, resolved, contract, fun uses => absurd uses silent⟩

/-- An attempt that goes on is cleared to call the provider. -/
theorem wp_prepare (h : Prepared o plan approvals coherence done a s t) (turn : Turn plan done a)
    (unclaimed : s.claimToken = none) :
    Proc.wp (Allowed o plan approvals false coherence) (prepare o plan a)
      (fun prepared s' t' => match prepared with
        | none => Head plan false coherence (done ++ [a]) s' t'
        | some c => Cleared o plan approvals coherence done a c s' t')
      (fun e s' t' => Failed plan done a e s' t') s t := by
  unfold prepare
  rw [Proc.wp_bind, Proc.wp_lift]
  cases resolved : resolveConnector o.connectors a.target.system a.capability with
  | error e => exact h.failed turn e
  | ok c =>
  have bound : Prepared o plan approvals coherence done a { s with connector := some c } t :=
    h.scratch h.egress h.held
  simp only [Proc.wp_bind, Proc.wp_modify]
  refine Proc.wp_mono quiet_validateExecutionContract ?_ ?_
  · rintro ⟨executionOk, executionReason⟩ s' t' ⟨rfl, later, contract⟩
    dsimp only
    split
    · rw [Proc.wp_bind]
      exact Proc.wp_mono (((bound.later later).thwarted turn unclaimed).wp_refuse turn
        h.screened.coherent rfl) (fun _ _ _ ended => ended) fun e _ _ raised => raised.failed e
    · next accepted =>
        rw [not_not] at accepted
        rw [Proc.wp_bind]
        refine Proc.wp_mono (wp_authorizeEgress (bound.later later) turn unclaimed) ?_
          fun _ _ _ raised => raised
        rintro (_ | egress) s' t'' ended
        · exact ended
        · obtain ⟨rfl, later', reads⟩ := ended
          have routed : Prepared o plan approvals coherence done a
              { s with connector := some c, egress := egress } t'' :=
            ((bound.later later).later later').scratch reads
              fun _ given => absurd (unclaimed.symm.trans given) (Option.some_ne_none _).symm
          have contract' : ContractAccepted o plan a c t'' := by
            obtain ⟨v, rfl, -⟩ := later'
            exact (contract accepted).append v
          rw [Proc.wp_bind, Proc.wp_modify]
          cases egress with
          | none => exact wp_reservation routed contract' resolved turn unclaimed
          | some binding =>
              dsimp only
              rw [Proc.wp_bind]
              have recorded := fun answer => routed.ordinary (e :=
                ⟨({ s with connector := some c, egress := some binding },
                  .record (.providerDataEgressAuthorized a binding)), answer⟩)
                (ordinary_of_call rfl)
              refine wp_perform.mpr ⟨trivial, fun _ => ?_, fun e => (recorded _).failed turn e⟩
              exact wp_reservation (recorded _) (contract'.append _)
                resolved turn unclaimed
  · rintro e s' t' ⟨rfl, later⟩
    exact (bound.later later).failed turn e

end

end MasterAgent
