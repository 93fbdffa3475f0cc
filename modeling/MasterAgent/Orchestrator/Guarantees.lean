import MasterAgent.Orchestrator.Settle

/-!
# What every run guarantees

Results:

1. `wp_run`: every call of a run is made as `Authorized` asks, and a run that returns is finished;
2. `complete_mediation`: what mediates every call of a provider.
-/

namespace MasterAgent
open Base

section
variable [Host] {o : WorkflowOrchestrator} {runId : Uuid} {plan : ChangePlan}
  {approvals : List Approval} {dryRun coherence : Bool} {s : RunState} {t : Trace}

/-- The plan carries the decision the gate computes, which permits it, and a gated plan was
admitted. -/
def Admitted (o : WorkflowOrchestrator) (plan : ChangePlan) (approvals : List Approval)
    (t : Trace) : Prop :=
  ∃ decision, Governed plan decision ∧ (decision.route = .gated →
    ∃ now, Occurs (reads now) t ∧ CoherenceAdmitted o.policy plan approvals now)

/-- What each call of a run relies on, the admission of its plan included. -/
def Authorized (o : WorkflowOrchestrator) (plan : ChangePlan) (approvals : List Approval)
    (dryRun : Bool) (t : Trace) (s : RunState) : Call → Prop
  | .execute c a => Admitted o plan approvals t ∧
      Mediated o plan approvals dryRun false c a s t
  | call => Allowed o plan approvals dryRun false t s call

theorem Allowed.authorized (admitted : coherence = false → dryRun = false →
      Admitted o plan approvals t) {call : Call}
    (h : Allowed o plan approvals dryRun coherence t s call) :
    Authorized o plan approvals dryRun t s call := by
  cases call with
  | execute c a =>
      have mediated : Mediated o plan approvals dryRun coherence c a s t := h
      obtain rfl := mediated.coherent
      exact ⟨admitted rfl mediated.applied, mediated⟩
  | _ => exact h

/-- Nothing happened yet. -/
theorem Head.initial : Head plan dryRun coherence [] RunState.initial [] where
  inv := {
    ledger := ⟨fun _ runs => absurd runs occurs_nil, fun pass => absurd pass occurs_nil,
      fun _ confirm => absurd confirm occurs_nil, fun _ member => absurd member List.not_mem_nil,
      List.nodup_nil, fun _ _ member => absurd member List.not_mem_nil⟩
    books := {
      reported := fun _ listed => absurd listed List.not_mem_nil
      unreported := fun _ member => absurd member List.not_mem_nil
      indexed := fun _ member => absurd member List.not_mem_nil
      accounted := fun _ => rfl
      confirmed := fun _ _ confirm => absurd confirm occurs_nil
      verified := fun _ _ at_i => nomatch at_i
      outcome := fun _ _ _ back => absurd back occurs_nil
      failing := fun _ listed => absurd listed List.not_mem_nil }
    progress := ⟨fun _ _ succeeded => absurd succeeded Bool.false_ne_true,
      fun _ _ succeeded => absurd succeeded Bool.false_ne_true⟩ }
  resting _ now := now.elim (absurd · occurs_nil) fun rolled => absurd rolled.2 occurs_nil
  settled := nofun
  pending waiting := absurd rfl waiting
  gated _ := rfl

/-- In the order of a plan, the next action has its turn. -/
theorem AfterDependencies.turn {ordered before after : List AgentAction} {a : AgentAction}
    (perm : ordered.Perm plan.actions) (sorted : AfterDependencies ordered)
    (split : ordered = before ++ a :: after) : Turn plan before a := by
  have planned : ∀ b ∈ ordered, b ∈ plan.actions := fun b => perm.mem_iff.mp
  have nodup : ordered.Nodup := perm.nodup_iff.mpr (List.Nodup.of_map _ plan.ids_nodup)
  have member : a ∈ plan.actions := planned a (by rw [split]; simp)
  have past : before ⊆ plan.actions := fun b hb => planned b (by rw [split]; simp [hb])
  rw [split] at nodup
  have fresh : a ∉ before := fun twice =>
    (List.nodup_append.mp nodup).2.2 a twice a List.mem_cons_self rfl
  refine ⟨member, past, fresh, fun b hb depends => ?_⟩
  -- what an action depends on stands before it
  obtain ⟨earlier, later, before_split⟩ := List.append_of_mem hb
  have split' : ordered = earlier ++ b :: (later ++ after) := by
    rw [split, List.append_cons, before_split]
    simp
  obtain ⟨d, hd, same⟩ := sorted earlier b _ split' _ depends
  have inside : d ∈ before ++ [a] := by rw [before_split]; simp [hd]
  obtain rfl := plan.action_inj (by
    rcases List.mem_append.mp inside with old | now
    · exact past old
    · exact List.mem_singleton.mp now ▸ member) member same
  -- the action would stand before another of the turns up to its own
  rcases List.eq_nil_or_concat later with rfl | ⟨later, last, rfl⟩
  · obtain ⟨rfl, -⟩ := List.append_inj' before_split rfl
    exact fresh hd
  · have split'' : before ++ [d] = (earlier ++ b :: later) ++ [last] := by
      rw [before_split]
      simp
    obtain ⟨rfl, -⟩ := List.append_inj' split'' rfl
    exact fresh (by simp [hd])

/-- What a run that returned leaves. -/
structure Finished (plan : ChangePlan) (dryRun : Bool) (report : RunReport) (s : RunState)
    (t : Trace) : Prop where
  reports : report.actions = s.reports
  turns : ∃ coherence ordered, topologicalOrder plan.actions = .ok ordered ∧
    ordered.Perm plan.actions ∧ Head plan dryRun coherence ordered s t

/-- Every call of a run is authorized, and a run that returns is finished. -/
theorem wp_run : Proc.wp (Authorized o plan approvals dryRun) (run o runId plan approvals dryRun)
    (fun report s t => Finished plan dryRun report s t) (fun _ _ _ => True) RunState.initial [] := by
  unfold run
  rw [Proc.wp_bind, Proc.wp_lift]
  cases snapped : plan.executionSnapshot with
  | error e => trivial
  | ok snapshot =>
  obtain rfl := ChangePlan.executionSnapshot_eq snapped
  dsimp only
  rw [Proc.wp_bind]
  refine wp_perform.mpr ⟨trivial, fun coherenceNow => ?_, fun _ => trivial⟩
  rw [Proc.wp_bind]
  refine wp_perform.mpr ⟨trivial, fun reviewNow => ?_, fun _ => trivial⟩
  rw [Proc.wp_bind, Proc.wp_lift]
  cases enforced : enforceSystemsGovernance o.policy snapshot approvals false coherenceNow
      reviewNow with
  | error e => trivial
  | ok decision =>
  have governed := enforce_ok enforced
  dsimp only
  rw [Proc.wp_bind]
  refine wp_perform.mpr ⟨trivial, fun now => ?_, fun _ => trivial⟩
  rw [Proc.wp_bind, Proc.wp_lift]
  cases required : coherenceApprovalRequired o snapshot approvals dryRun now with
  | error e => trivial
  | ok coherence =>
  dsimp only
  rw [Proc.wp_bind, Proc.wp_lift]
  obtain ⟨ordered, sorted, perm, after⟩ := snapshot.topologicalOrder_spec
  rw [sorted]
  dsimp only
  rw [Proc.wp_bind]
  refine wp_perform.mpr ⟨trivial, fun _ => ?_, fun _ => trivial⟩
  have begun : Head snapshot dryRun coherence [] RunState.initial [] := Head.initial
  have started := ((begun.call (x := .now) rfl (.ok coherenceNow)).call (x := .now) rfl
    (.ok reviewNow)).call (x := .now) rfl (.ok now) |>.call (x := .record .planStarted) rfl (.ok ())
  have loop : Proc.wp (Allowed o snapshot approvals dryRun coherence)
      (Proc.each (processAction o snapshot approvals dryRun coherence) ordered)
      (fun _ s t => Head snapshot dryRun coherence ordered s t) (fun _ _ _ => True)
      RunState.initial _ :=
    Proc.wp_each (I := fun met s t => Head snapshot dryRun coherence met s t)
      (fun before a rest s t split head => wp_processAction head (after.turn perm split)) started
  rw [Proc.wp_bind]
  refine Proc.wp_mono (Proc.wp_point_mono (Proc.wp_extends loop) ?_) ?_ fun _ _ _ raised => raised
  · rintro t s call ⟨⟨later, rfl⟩, allowed⟩
    refine allowed.authorized fun coherent applied => ⟨decision, governed, fun gated => ?_⟩
    rw [coherent, applied] at required
    unfold coherenceApprovalRequired at required
    cases authenticated : strategyCoherenceAuthenticated o.policy snapshot approvals now with
    | error e => rw [authenticated] at required; cases required
    | ok trusted =>
        rw [authenticated] at required
        obtain rfl : trusted = true := by
          cases trusted
          · cases required
          · rfl
        refine ⟨now, ?_, coherence_authenticated governed.bound gated authenticated⟩
        refine Occurs.append (p := reads now) ((occurs_concat.mpr (.inr ?_)).append _) later
        exact rfl
  · intro _ s t head
    rw [Proc.wp_bind, Proc.wp_get, Proc.wp_bind]
    refine wp_perform.mpr ⟨trivial, fun review => ?_, fun _ => trivial⟩
    rw [Proc.wp_bind]
    refine wp_perform.mpr ⟨trivial, fun _ => ?_, fun _ => trivial⟩
    exact ⟨rfl, coherence, ordered, sorted, perm, (head.call (x := .postExecutionReview _) rfl
      (.ok review)).call (x := .record (.planFinished _ _)) rfl (.ok ())⟩

end

-- a run is not to be unfolded to see what is proved of it
attribute [local irreducible] Proc.wp

/-! ## Mediation -/

section
variable [Host] {o : WorkflowOrchestrator} {runId : Uuid} {plan : ChangePlan}
  {approvals : List Approval} {dryRun coherence : Bool} {s : RunState} {t : Trace}

/-- Every action that an executed action depends on, directly or through others, succeeded. -/
theorem Mediated.transitive {c : Connector} {a : AgentAction}
    (h : Mediated o plan approvals dryRun coherence c a s t) {b : AgentAction}
    (depends : DependsOn plan a b) : Succeeded s.stateById b.actionId := by
  obtain ⟨d, direct, path⟩ := depends
  suffices general : ∀ id, Relation.ReflTransGen (Graph.Edge (dependenciesOf plan.actions)) d id →
      Succeeded s.stateById id from general b.actionId path
  intro id path
  induction path with
  | refl => exact h.dependencies d direct
  | @tail from_id id _ edge ih =>
      have edge' : id ∈ dependenciesOf plan.actions from_id := edge
      unfold dependenciesOf at edge'
      cases found : plan.actions.find? (·.actionId = from_id) with
      | none =>
          rw [found] at edge'
          cases edge'
      | some b =>
          rw [found] at edge'
          have same : b.actionId = from_id := by simpa using List.find?_some found
          exact h.closed b (List.mem_of_find?_eq_some found) (same ▸ ih) id edge'

/-- A provider is only called in an applied run of an admitted plan, for an action that passed every
check, whose dependencies all succeeded, before any compensation pass, and under a fresh claim. -/
theorem complete_mediation {c : Connector} {a : AgentAction}
    {next : (Call.execute c a).Answer → Prog (RunState × Call) (fun x => x.2.Answer)
      (Except Exn RunReport × RunState)}
    (reached : Prog.Reaches (run o runId plan approvals dryRun RunState.initial) t
      (.call (s, .execute c a) next)) :
    dryRun = false ∧ Admitted o plan approvals t ∧
      Mediated o plan approvals dryRun false c a s t ∧
      ∀ b, DependsOn plan a b → Succeeded s.stateById b.actionId := by
  have authorized := Proc.point_of_reaches wp_run reached
  obtain ⟨admitted, mediated⟩ := authorized
  exact ⟨mediated.applied, admitted, mediated, fun b depends => mediated.transitive depends⟩

end

section

attribute [local instance] plainHost

theorem Call.eq_of_executed {call : Call} {c : Connector} {a : AgentAction}
    (h : call.executed = some (c, a)) : call = .execute c a := by
  cases call with
  | execute d b =>
      obtain ⟨rfl, rfl⟩ := Prod.mk.inj (Option.some.inj h)
      rfl
  | _ => cases h

/-- A run writes the page, then calls the provider of its copy. -/
theorem sample_copy_reached : ∃ t s next,
    Prog.Reaches (run sampleOrchestrator (numbered 9) governedPlan [] false RunState.initial) t
      (.call (s, .execute sampleConnector sampleCopy) next) := by
  obtain ⟨⟨s, call⟩, awaited, executed⟩ := Option.bind_eq_some_iff.mp driven_outcomes.1
  obtain rfl := Call.eq_of_executed executed
  obtain ⟨next, stands⟩ := Prog.eq_of_awaited awaited
  exact ⟨_, s, next, stands ▸ Prog.reaches_drive _ 0 14 _⟩

theorem sample_copy_mediated : ∃ t s, Admitted sampleOrchestrator governedPlan [] t ∧
    Mediated sampleOrchestrator governedPlan [] false false sampleConnector sampleCopy s t ∧
    Succeeded s.stateById sampleWrite.actionId := by
  obtain ⟨t, s, next, reached⟩ := sample_copy_reached
  obtain ⟨-, admitted, mediated, transitive⟩ := complete_mediation reached
  exact ⟨t, s, admitted, mediated,
    transitive sampleWrite ⟨sampleWrite.actionId, by decide, .refl⟩⟩

end

section
variable [Host] {o : WorkflowOrchestrator} {runId : Uuid} {plan : ChangePlan}
  {approvals : List Approval} {dryRun coherence : Bool} {s : RunState} {t : Trace}

/-! ## Projections -/

/-- A write of a projection only reaches its provider after the write of the same value to the owner,
which it depends on, succeeded; and without such a write in the plan it is not accepted. -/
theorem projection_follows_canonical {p : AgentAction} {rule : SourceRule} (member : rule ∈ o.sources)
    (projection : resourceIdentity p ∈ rule.projectionResources) (write : p.risk ≠ .readOnly)
    (ideal : DigestDistinguishes rule plan p) :
    (∀ runId approvals dryRun t s c next,
      Prog.Reaches (run o runId plan approvals dryRun RunState.initial) t
        (.call (s, .execute c p) next) →
      ∃ owner, CanonicalValue rule plan p owner ∧ Succeeded s.stateById owner.actionId) ∧
    ((¬∃ owner, CanonicalValue rule plan p owner) →
      ∀ reason, validateSources o.sources plan p ≠ .ok (true, reason)) := by
  refine ⟨fun runId approvals dryRun t s c next reached => ?_, fun ownerless reason accepted => ?_⟩
  · obtain ⟨-, -, mediated, transitive⟩ := complete_mediation reached
    obtain ⟨reason, accepted⟩ := mediated.sources
    obtain ⟨owner, canonical⟩ := validate_accepts accepted write member projection
    exact ⟨owner, canonical.canonicalValue ideal, transitive owner canonical.dependency⟩
  · obtain ⟨owner, canonical⟩ := validate_accepts accepted write member projection
    exact ownerless ⟨owner, canonical.canonicalValue ideal⟩

end

section

attribute [local instance] plainHost

/-- The only value the sample rule compares. -/
theorem sample_exposed {c : AgentAction} (member : c ∈ governedPlan.actions) {mine theirs : List String}
    (found : selectorsFor sampleRule.projectionExtractors sampleCopy.capability = .ok mine)
    (found' : selectorsFor sampleRule.canonicalExtractors c.capability = .ok theirs) {v : String}
    (exposed : v ∈ governedValues sampleCopy mine ++ governedValues c theirs) : v = "hello" := by
  obtain rfl : ["body"] = mine := Except.ok.inj found
  have listed : c ∈ [sampleWrite, sampleCopy, sampleOther] := member
  simp only [List.mem_cons, List.not_mem_nil, or_false] at listed
  rcases listed with rfl | rfl | rfl
  · obtain rfl : ["body"] = theirs := Except.ok.inj found'
    have values : governedValues sampleCopy ["body"] ++ governedValues sampleWrite ["body"] =
        ["hello", "hello"] := by decide +kernel
    rw [values] at exposed
    simpa using exposed
  · cases found'
  · cases found'

theorem sample_copy_follows : ∃ owner, CanonicalValue sampleRule governedPlan sampleCopy owner := by
  obtain ⟨t, s, next, reached⟩ := sample_copy_reached
  have ideal : DigestDistinguishes sampleRule governedPlan sampleCopy :=
    fun c member mine theirs found found' v hv w hw _ =>
      (sample_exposed member found found' hv).trans (sample_exposed member found found' hw).symm
  have registered : sampleRule ∈ sampleOrchestrator.sources := List.mem_singleton_self _
  obtain ⟨owner, canonical, -⟩ :=
    (projection_follows_canonical registered (by decide) (by decide) ideal).1 _ _ _ _ _ _ _ reached
  exact ⟨owner, canonical⟩

end

section
variable [Host] {o : WorkflowOrchestrator} {runId : Uuid} {plan : ChangePlan}
  {approvals : List Approval} {dryRun coherence : Bool} {s : RunState} {t : Trace}

/-! ## Accounting -/

omit [Host] in
/-- Something true of no two events of a run, when it never holds of a call that it held of before. -/
theorem pairwise_of_points {p : TraceEvent → Prop} {t : Trace}
    (fresh : ∀ before e after, t = before ++ e :: after → p e → ¬Occurs p before) :
    t.Pairwise fun e e' => p e → ¬p e' := by
  induction t using List.reverseRecOn with
  | nil => exact List.Pairwise.nil
  | append_singleton t e ih =>
      refine List.pairwise_append.mpr ⟨ih fun before e' after split => ?_,
        List.pairwise_singleton _ _, fun e' member e'' last holds holds' => ?_⟩
      · exact fresh before e' (after ++ [e]) (by rw [split]; simp)
      · obtain rfl := List.mem_singleton.mp last
        exact fresh t e'' [] rfl holds' ⟨e', member, holds⟩

omit [Host] in
theorem Clean.before {before after : Trace} (h : Clean (before ++ after)) : Clean before :=
  fun ⟨e, member, dirty⟩ => h ⟨e, List.mem_append_left _ member, dirty⟩

/-- A run in which no bookkeeping raises calls each provider once, and compensates once what was
executed. -/
theorem calls_once {q : Prog (RunState × Call) (fun x => x.2.Answer) (Except Exn RunReport × RunState)}
    (reached : Prog.Reaches (run o runId plan approvals dryRun RunState.initial) t q)
    (clean : Clean t) (a : AgentAction) :
    (t.Pairwise fun e e' => executes a e → ¬executes a e') ∧
      (t.Pairwise fun e e' => compensates a e → ¬compensates a e') ∧
      (Occurs (compensates a) t → Occurs (returns a) t) := by
  have authorized : ∀ before e after, t = before ++ e :: after →
      Authorized o plan approvals dryRun before e.1.1 e.1.2 := by
    rintro before ⟨x, answer⟩ after rfl
    have point := Proc.point_of_event wp_run reached
    rwa [List.nil_append] at point
  refine ⟨pairwise_of_points fun before e after split runs => ?_,
    pairwise_of_points fun before e after split undoes => ?_, fun occurs => ?_⟩
  · obtain ⟨⟨s, call⟩, answer⟩ := e
    cases call with
    | execute c b =>
        obtain rfl : b = a := runs
        exact (authorized before _ after split).2.once
    | _ => cases runs
  · obtain ⟨⟨s, call⟩, answer⟩ := e
    cases call with
    | compensate c b r =>
        obtain rfl : b = a := undoes
        exact (authorized before _ after split).2 (split ▸ clean).before
    | _ => cases undoes
  · obtain ⟨e, member, undoes⟩ := occurs
    obtain ⟨before, after, split⟩ := List.append_of_mem member
    obtain ⟨⟨s, call⟩, answer⟩ := e
    cases call with
    | compensate c b r =>
        obtain rfl : b = a := undoes
        rw [split]
        exact (authorized before _ after split).1.append _
    | _ => cases undoes

/-- Every action of the plan is reported once, in order, each provider is called at most once, each
effect is compensated at most once, and what was compensated is reported so. -/
structure AccountsOnce (plan : ChangePlan) (report : RunReport) (t : Trace) : Prop where
  reports : ∃ ordered, topologicalOrder plan.actions = .ok ordered ∧ ordered.Perm plan.actions ∧
    report.actions.map (·.actionId) = ordered.map (·.actionId)
  calls : ∀ a, (t.Pairwise fun e e' => executes a e → ¬executes a e') ∧
    (t.Pairwise fun e e' => compensates a e → ¬compensates a e') ∧
    (Occurs (compensates a) t → Occurs (returns a) t)
  confirmed : ∀ a, Occurs (confirms a) t →
    ∃ r ∈ report.actions, r.actionId = a.actionId ∧ r.state = .compensated

/-- A run in which no bookkeeping raises accounts for everything once. -/
theorem accounts_once {report : RunReport}
    (reached : Prog.Reaches (run o runId plan approvals dryRun RunState.initial) t
      (.ret (.ok report, s))) (clean : Clean t) : AccountsOnce plan report t := by
  have finished := Proc.post_of_reaches wp_run reached
  rw [List.nil_append] at finished
  obtain ⟨same, coherence, ordered, sorted, perm, head⟩ := finished
  refine ⟨⟨ordered, sorted, perm, ?_⟩, calls_once reached clean, ?_⟩
  · rw [same]
    exact head.inv.books.accounted clean
  · rw [same]
    exact head.inv.books.confirmed clean

end

section

attribute [local instance] plainHost

/-- A driven run that returned a report with the property. -/
theorem reaches_report {answer : Nat → (c : Call) → c.Answer} {n : Nat} {p : RunReport → Bool}
    (h : returnsReport p (driven answer n).2 = true) : ∃ report s, p report = true ∧
      Prog.Reaches (run sampleOrchestrator (numbered 9) governedPlan [] false RunState.initial)
        (driven answer n).1 (.ret (.ok report, s)) := by
  unfold returnsReport at h
  cases stands : (driven answer n).2.result with
  | none =>
      rw [stands] at h
      cases h
  | some outcome =>
      rw [stands] at h
      obtain ⟨raised | report, s⟩ := outcome
      · cases h
      · exact ⟨report, s, h, Prog.eq_of_result stands ▸ Prog.reaches_drive _ 0 n _⟩

/-- Nothing raises when everything goes smoothly. -/
theorem driven_clean {A : Type} (p : Prog (RunState × Call) (fun x => x.2.Answer) A) (n : Nat) :
    Clean (Prog.drive (fun _ x => smoothly x.2) 0 n p).1 := by
  rintro ⟨⟨⟨s, call⟩, answer⟩, member, dirty⟩
  obtain ⟨i, answered⟩ := Prog.drive_answers member
  have answered : answer = smoothly call := answered
  subst answered
  cases call with
  | record r => cases r <;> cases dirty
  | verify p _ _ _ => cases p <;> cases dirty
  | _ => cases dirty

theorem sample_accounts_once : ∃ report t, AccountsOnce governedPlan report t := by
  obtain ⟨report, s, -, reached⟩ := reaches_report driven_outcomes.2.1
  exact ⟨report, _, accounts_once reached (driven_clean _ 40)⟩

/-- The handler of what the record raises reports the action again. -/
theorem refusal_reported_twice : ∃ report s t, Prog.Reaches
      (run sampleOrchestrator (numbered 9) governedPlan [] false RunState.initial) t
      (.ret (.ok report, s)) ∧
    (∀ e ∈ t, ∀ raised, e.2 = .error raised → (∃ r, e.1.2 = .record r) ∧ raised.kind = .runtime) ∧
    ¬AccountsOnce governedPlan report t := by
  obtain ⟨report, s, twice, reached⟩ := reaches_report driven_outcomes.2.2.1
  refine ⟨report, s, _, reached, ?_, fun accounts => ?_⟩
  · rintro ⟨⟨s, call⟩, answer⟩ member raised failed
    obtain ⟨i, answered⟩ := Prog.drive_answers member
    have answered : answer = refusalUnrecorded i call := answered
    subst answered
    cases call with
    | record r =>
        have failed : (if i = 6 then .error (runtimeError "the log is locked") else .ok () :
          Except Exn Unit) = .error raised := failed
        split at failed
        · cases failed
          exact ⟨⟨r, rfl⟩, rfl⟩
        · cases failed
    | _ => cases failed
  · obtain ⟨ordered, -, perm, listed⟩ := accounts.reports
    have length := congrArg List.length listed
    rw [List.length_map, List.length_map, perm.length_eq] at length
    rw [length] at twice
    cases twice

end

section
variable [Host] {o : WorkflowOrchestrator} {runId : Uuid} {plan : ChangePlan}
  {approvals : List Approval} {dryRun coherence : Bool} {s : RunState} {t : Trace}
/-! ## Rollback -/

/-- If an action failed, no reversible write is verified, and each that was executed is reported
as compensated, as not compensated or as indeterminate. -/
def RolledBack (plan : ChangePlan) (report : RunReport) (t : Trace) : Prop :=
  (∃ r ∈ report.actions, r.state.isFailure = true) →
    ∀ b ∈ plan.actions, b.risk = .reversibleWrite →
      ∀ r ∈ report.actions, r.actionId = b.actionId → r.state ≠ .verified ∧
        (Occurs (returns b) t → r.state = .compensated ∨ r.state = .compensationFailed ∨
          r.state = .indeterminate)

/-- In an applied run of a plan to be rolled back, it is rolled back if an action fails while an
executed write waits, or none fails, or no executed write ever waits. -/
theorem rolls_back {report : RunReport}
    (reached : Prog.Reaches (run o runId plan approvals false RunState.initial) t
      (.ret (.ok report, s))) (atomic : plan.compensateOnFailure = true)
    (failed_in_time : Occurs failsPending t ∨ ¬Occurs fails t ∨ ¬Occurs pending t) :
    RolledBack plan report t := by
  have finished := Proc.post_of_reaches wp_run reached
  rw [List.nil_append] at finished
  obtain ⟨same, coherence, ordered, sorted, perm, head⟩ := finished
  rintro ⟨failing, listed, failure⟩ b planned reversible r reported mine
  rw [same] at listed reported
  -- nothing waits to be rolled back once the run is over
  have settled : s.sideEffectsMayHaveOccurred = [] := by
    rcases failed_in_time with now | none | none
    · by_contra waiting
      have active : s.abortRemaining = false := by
        by_contra stopped
        exact waiting (head.settled (Bool.eq_true_of_not_eq_false stopped))
      exact head.resting active (.inr ⟨⟨atomic, rfl⟩, now⟩)
    · exact absurd (head.inv.books.failing failing listed failure) none
    · by_contra waiting
      exact none (head.pending waiting)
  have unverified : r.state ≠ .verified := by
    intro verified
    obtain ⟨i, at_i⟩ := List.mem_iff_getElem?.mp reported
    obtain ⟨item, waits, -⟩ := head.inv.books.verified i r at_i verified b
      (by simpa using perm.mem_iff.mpr planned) mine.symm reversible
    rw [settled] at waits
    cases waits
  refine ⟨unverified, fun returned => ?_⟩
  have outcome := head.inv.books.outcome b planned reversible returned r reported mine
  revert outcome unverified
  cases r.state <;> simp [ActionState.isOutcome]

end

section

attribute [local instance] plainHost

/-- A write that follows a failure and does not depend on it stays verified. -/
theorem later_write_stays : ∃ report s t, Prog.Reaches
      (run sampleOrchestrator (numbered 9) governedPlan [] false RunState.initial) t
      (.ret (.ok report, s)) ∧ governedPlan.compensateOnFailure = true ∧
    ¬RolledBack governedPlan report t := by
  obtain ⟨report, s, states, reached⟩ := reaches_report driven_outcomes.2.2.2.1
  refine ⟨report, s, _, reached, rfl, fun rolled => ?_⟩
  obtain ⟨failed, stays⟩ := (Bool.and_eq_true _ _).mp states
  obtain ⟨failing, listed, failure⟩ := List.any_eq_true.mp failed
  obtain ⟨r, reported, verified⟩ := List.any_eq_true.mp stays
  obtain ⟨mine, verified⟩ := (Bool.and_eq_true _ _).mp verified
  have planned : sampleOther ∈ governedPlan.actions :=
    List.mem_cons_of_mem _ (List.mem_cons_of_mem _ List.mem_cons_self)
  exact (rolled ⟨failing, listed, failure⟩ sampleOther planned rfl r reported
    (beq_iff_eq.mp mine)).1 (beq_iff_eq.mp verified)

theorem sample_rolls_back : ∃ report t, RolledBack governedPlan report t ∧
    ∃ r ∈ report.actions, r.state.isFailure = true := by
  obtain ⟨waiting, returned⟩ := driven_outcomes.2.2.2.2
  obtain ⟨report, s, failed, reached⟩ := reaches_report returned
  obtain ⟨⟨⟨s, call⟩, answer⟩, member, fails⟩ := List.any_eq_true.mp waiting
  have in_time : Occurs failsPending (driven (fun _ => refusing (numbered 3)) 60).1 := by
    refine ⟨_, member, ?_⟩
    unfold failsWaiting at fails
    split at fails
    · next r _ same =>
        dsimp only at same
        subst same
        obtain ⟨failure, waits⟩ := (Bool.and_eq_true _ _).mp fails
        exact ⟨failure, by simpa using waits⟩
    · cases fails
  exact ⟨report, _, rolls_back reached rfl (.inl in_time), by simpa using failed⟩

end

end MasterAgent
