import MasterAgent.Capsules.Paths
import MasterAgent.Planners.Gate

/-!
# Continuing a coordinator run

A call of `run` that nothing interferes with, from every reachable stored checkpoint of its plan:
connections are ready, the policy report asks for no approval, and the sinks are healthy.

Results:

1. `eval_move`: a transition is made when the table has it, and raises when it has not;
2. `eval_execute`: which stored states a call can go on from;
3. `continuation_iff`: when the call ends terminal with a receipt.
-/

namespace MasterAgent.CapsuleRuns
open Base

section
variable [Host]

/-! ## What is answered -/

/-- What the services answer. -/
structure Services where
  clock : World → Datetime
  authenticated : List (Approval × String)
  report : ChangePlan → List Approval → Bool → Option RunReport
  drawn : World → Uuid × Datetime
  locator : World → String

/-- The answer to what a call of `run` asks for. -/
def answer (i : Nat) (own : RunRequest) (a : Services) (x : Variables × CapsuleCall) (w : World) :
    x.2.Answer × World :=
  match x with
  | (_, .runCheckpoint runId) => (.ok (w.checkpoints runId), w)
  | (v, .checkpointRun q) =>
    match checkpointRun q w.checkpoints with
    | .error raised => (.error raised, w)
    | .ok (row, rows) => (.ok row, { w with
        checkpoints := rows
        commits := w.commits ++ [⟨i, own, row, v⟩] })
  | (_, .record runId planId eventType payload) =>
    match recordEvent ⟨a.clock w, runId, planId, none, eventType, payload⟩ w.audit with
    | .error raised => (.error raised, w)
    | .ok (hash, db) => (.ok hash, { w with audit := db })
  | (_, .sinkReady) => (.ok true, w)
  | (_, .authenticatedApprovals ..) => (.ok a.authenticated, w)
  | (_, .orchestratorStarts _ _ dryRun) =>
    (.ok (), if dryRun then w else { w with realRuns := w.realRuns ++ [i] })
  | (_, .orchestratorReturns plan approvals dryRun) =>
    match a.report plan approvals dryRun with
    | none => (.error (runtimeError "the orchestrator has stopped"), w)
    | some report => (.ok report, w)
  | (_, .draw) => (.ok (a.drawn w), w)
  | (_, .append receipt) => (.ok (a.locator w), { w with sink := w.sink ++ [(i, receipt)] })
  | (_, .emit _) => (.ok (), w)

/-- The reports are reports of the orchestrator, and the clock is in UTC. -/
structure Genuine (k : CapsuleRunCoordinator) (a : Services) : Prop where
  returns : ∀ plan approvals dryRun report, a.report plan approvals dryRun = some report →
    Returns k.orchestrator plan approvals dryRun report
  aware : ∀ w, (a.drawn w).2.offset.isSome = true

/-- The services are healthy, and the approvals satisfy the policy. -/
structure Calm (k : CapsuleRunCoordinator) (q : RunRequest) (a : Services) : Prop
    extends Genuine k a where
  policy : ∃ report, a.report q.plan q.approvals true = some report ∧
    report.actions.any (·.state == .approvalRequired) = false
  settled : ∃ report, a.report q.plan q.approvals q.dryRun = some report ∧
    ∃ payload, report.toDict = .ok payload
  locator : ∀ w, (a.locator w != "" && a.locator w == strip (a.locator w)) = true
  sink : k.requireExternalAudit = true → k.externalSink.isSome = true

variable {k : CapsuleRunCoordinator} {runId : Uuid} {q : RunRequest} {a : Services} {i : Nat}
  {v : Variables} {w : World}

/-- The answers are answers of the world. -/
theorem serve_answer (genuine : Genuine k a) (own : RunRequest) (x : Variables × CapsuleCall)
    (w : World) : serve (Returns k.orchestrator) i own x w (answer i own a x w).1
      (answer i own a x w).2 := by
  obtain ⟨v, c⟩ := x
  cases c with
  | checkpointRun request =>
    simp only [answer]
    split
    · exact .inl rfl
    · next row rows written => exact ⟨rows, written, rfl⟩
  | record _ _ _ _ =>
    simp only [answer]
    split
    · exact .inl rfl
    · next hash db recorded => exact ⟨_, db, recorded, rfl⟩
  | orchestratorReturns plan approvals dryRun =>
    simp only [answer]
    split
    · exact .inl rfl
    · next report reported => exact ⟨genuine.returns _ _ _ _ reported, rfl⟩
  | draw => exact ⟨genuine.aware w, rfl⟩
  | runCheckpoint _ => exact ⟨rfl, rfl⟩
  | orchestratorStarts _ _ _ | append _ | sinkReady | authenticatedApprovals _ _ | emit _ =>
    exact rfl

/-! ## The steps of a call -/

theorem eval_perform {c : CapsuleCall} {value : c.Value} {w' : World}
    (answered : answer i q a (v, c) w = (.ok value, w')) :
    Proc.eval (answer i q a) (perform c) v w = ((.ok value, v), w') := by
  rw [perform, Proc.eval_bind_ok Proc.eval_call, answered, Proc.eval_lift]

theorem eval_ensure {holds : Bool} {raised : Exn} (passes : holds = true) :
    Proc.eval (answer i q a) (ensure holds raised) v w = ((.ok (), v), w) := by
  rw [ensure, Proc.eval_lift, if_pos passes]

theorem eval_ensure_error {holds : Bool} {raised : Exn} (fails : holds = false) :
    Proc.eval (answer i q a) (ensure holds raised) v w = ((.error raised, v), w) := by
  rw [ensure, Proc.eval_lift, if_neg (by rw [fails]; exact Bool.false_ne_true)]

/-- The stored row of the run, and a log that can be recorded in. -/
structure Stores (runId : Uuid) (row : Option RunCheckpoint) (w : World) : Prop where
  row : w.checkpoints runId = row
  audit : ∃ columns, w.audit = .ofColumns columns

/-- A recorded event changes no checkpoint, and has a proper hash. -/
theorem eval_record (proper : ProperDigests) {row : Option RunCheckpoint}
    (stores : Stores runId row w) (owner planId : Uuid) (eventType : String) (payload : Json) :
    ∃ hash w', Proc.eval (answer i q a) (perform (.record owner planId eventType payload)) v w =
        ((.ok hash, v), w') ∧ isSha256 hash = true ∧ Stores runId row w' := by
  obtain ⟨columns, chain⟩ := stores.audit
  have answered : answer i q a (v, .record owner planId eventType payload) w =
      (.ok (HashChain.head eventLink "GENESIS" (columns ++
        [(RecordCall.mk (a.clock w) owner planId none eventType payload).columns])), { w with
        audit := .ofColumns (columns ++
          [(RecordCall.mk (a.clock w) owner planId none eventType payload).columns]) }) := by
    simp only [answer, chain, recordEvent_chain]
  refine ⟨_, _, eval_perform answered, ?_, ⟨stores.row, _, rfl⟩⟩
  rw [HashChain.head_concat]
  exact proper.sha256 _

theorem eval_recordState (proper : ProperDigests) {row : Option RunCheckpoint}
    (stores : Stores runId row w) (checkpoint : RunCheckpoint) :
    ∃ w', Proc.eval (answer i q a) (recordState checkpoint) v w = ((.ok (), v), w') ∧
      Stores runId row w' := by
  obtain ⟨hash, w', recorded, _, stores⟩ := eval_record proper stores checkpoint.runId
    checkpoint.planId "capsule_run_state" _
  exact ⟨w', (Proc.eval_bind_ok recorded).trans Proc.eval_pure, stores⟩

/-- A checkpoint of a run of the plan, in a state. -/
structure BoundTo (runId : Uuid) (plan : ChangePlan) (s : CapsuleRunState) (c : RunCheckpoint) :
    Prop where
  runId : c.runId = runId
  planId : c.planId = plan.planId
  fingerprint : c.planFingerprint = plan.fingerprint
  digest : c.capsuleBindingsSha256 = capsuleBindingsSha256 plan
  state : c.state = s.str

/-- The requests of the coordinator pass the checks of the log. -/
theorem advance_checks (proper : ProperDigests) (c : RunCheckpoint) (s t : CapsuleRunState)
    (plan : ChangePlan) {result : Option String} (hex : result.all isSha256 = true) :
    firstError (advance c s t plan result).checks = none := by
  have ascii : (t.str != "" && t.str.toList.all (·.toNat < 128)) = true := by
    cases t <;> decide
  have fingerprint : isSha256 plan.fingerprint = true := proper.sha256 _
  have digest : isSha256 (capsuleBindingsSha256 plan) = true := proper.sha256 _
  simp only [CheckpointRequest.checks, advance, fingerprint, digest, hex, ascii, firstError]

/-- A transition of the table is made. -/
theorem eval_move (proper : ProperDigests) {plan : ChangePlan} {c : RunCheckpoint}
    {s t : CapsuleRunState} (stores : Stores runId (some c) w) (bound : BoundTo runId plan s c)
    (edge : t ∈ s.transitions) (result : Option String) (hex : result.all isSha256 = true) :
    ∃ c' w', Proc.eval (answer i q a) (move c t plan result) v w =
        ((.ok c', { v with checkpoint := some c' }), w') ∧ Stores runId (some c') w' ∧
      BoundTo runId plan t c' ∧ c'.resultSha256 = result := by
  have found : w.checkpoints (advance c s t plan result).runId = some c :=
    (congrArg w.checkpoints bound.runId).trans stores.row
  have written := checkpointRun_meets (advance_checks proper c s t plan hex) found
    ⟨bound.planId, bound.fingerprint, congrArg some bound.state, bound.digest⟩
  have answered : answer i q a (v, .checkpointRun (advance c s t plan result)) w =
      (.ok ((advance c s t plan result).row (c.sequence + 1)), { w with
        checkpoints := Function.update w.checkpoints (advance c s t plan result).runId
          (some ((advance c s t plan result).row (c.sequence + 1)))
        commits := w.commits ++ [⟨i, q, (advance c s t plan result).row (c.sequence + 1), v⟩] }) := by
    simp only [answer, written]
  have kept : Stores runId (some ((advance c s t plan result).row (c.sequence + 1))) { w with
      checkpoints := Function.update w.checkpoints (advance c s t plan result).runId
        (some ((advance c s t plan result).row (c.sequence + 1)))
      commits := w.commits ++ [⟨i, q, (advance c s t plan result).row (c.sequence + 1), v⟩] } := by
    refine ⟨?_, stores.audit⟩
    rw [← bound.runId]
    exact Function.update_self ..
  obtain ⟨w', recorded, stores⟩ := eval_recordState (i := i) (a := a) (v := v) proper kept
    ((advance c s t plan result).row (c.sequence + 1))
  have allowed : s.transitions.contains t = true := List.contains_iff_mem.mpr edge
  refine ⟨_, w', ?_, stores, ⟨bound.runId, rfl, rfl, rfl, rfl⟩, rfl⟩
  unfold move
  refine (Proc.eval_bind_ok ?_).trans ((Proc.eval_bind_ok Proc.eval_modify).trans Proc.eval_pure)
  unfold transition
  rw [bound.state, CapsuleRunState.parse_str, Proc.eval_bind_ok Proc.eval_lift,
    Proc.eval_bind_ok (eval_ensure allowed), Proc.eval_bind_ok (eval_perform answered),
    Proc.eval_bind_ok recorded, Proc.eval_pure]

/-- A transition that the table has not raises. -/
theorem eval_move_error {plan : ChangePlan} {c : RunCheckpoint} {s t : CapsuleRunState}
    (state : c.state = s.str) (missing : t ∉ s.transitions) {result : Option String} :
    Proc.eval (answer i q a) (move c t plan result) v w = ((.error (configurationError
      s!"capsule run transition {s.str} -> {t.str} is not allowed"), v), w) := by
  have refused : s.transitions.contains t = false := by
    rw [← Bool.not_eq_true, List.contains_iff_mem]
    exact missing
  unfold move
  refine Proc.eval_bind_error ?_
  unfold transition
  rw [state, CapsuleRunState.parse_str, Proc.eval_bind_ok Proc.eval_lift]
  exact Proc.eval_bind_error (eval_ensure_error refused)

/-! ## The parts of a call -/

omit [Host] in
theorem bne_terminal {c : RunCheckpoint} {s : CapsuleRunState} (state : c.state = s.str)
    (live : s ≠ .terminal) : (c.state != CapsuleRunState.terminal.str) = true := by
  rw [state, bne_iff_ne]
  exact fun same => live (CapsuleRunState.str_inj same)

/-- A stored checkpoint of the plan that is not terminal is taken up. -/
theorem eval_obtain {plan : ChangePlan} {c : RunCheckpoint} {s : CapsuleRunState}
    (stores : Stores runId (some c) w) (bound : BoundTo runId plan s c) (live : s ≠ .terminal) :
    Proc.eval (answer i q a) (obtainCheckpoint runId plan) v w =
      ((.ok c, { v with checkpoint := some c }), w) := by
  have loaded : answer i q a (v, .runCheckpoint runId) w = (.ok (some c), w) := by
    simp only [answer, stores.row]
  have valid : validateResume c plan = .ok () := by
    refine if_neg ?_
    simp only [not_or, not_not]
    exact ⟨bound.planId, bound.fingerprint, bound.digest⟩
  unfold obtainCheckpoint
  rw [Proc.eval_bind_ok (eval_perform loaded)]
  dsimp only
  rw [valid, Proc.eval_bind_ok Proc.eval_lift,
    Proc.eval_bind_ok (eval_ensure (bne_terminal bound.state live)),
    Proc.eval_bind_ok Proc.eval_modify, Proc.eval_pure]

theorem eval_requireSink (calm : Calm k q a) :
    Proc.eval (answer i q a) (requireSink k) v w = ((.ok (), v), w) := by
  unfold requireSink
  by_cases required : k.requireExternalAudit = true
  · rw [if_pos required, Proc.eval_bind_ok (eval_ensure (calm.sink required)),
      Proc.eval_bind_ok (eval_perform (c := .sinkReady) rfl), eval_ensure rfl]
  · rw [if_neg required, Proc.eval_pure]

theorem eval_orchestrate {row : Option RunCheckpoint} (stores : Stores runId row w)
    {dryRun : Bool} {report : RunReport}
    (reported : a.report q.plan q.approvals dryRun = some report) :
    ∃ w', Proc.eval (answer i q a) (orchestrate q dryRun) v w = ((.ok report, v), w') ∧
      Stores runId row w' := by
  have answered (w : World) : answer i q a (v, .orchestratorReturns q.plan q.approvals dryRun) w =
      (.ok report, w) := by
    simp only [answer, reported]
  unfold orchestrate
  refine ⟨_, (Proc.eval_bind_ok (eval_perform (c := .orchestratorStarts _ _ dryRun) rfl)).trans
    (eval_perform (answered _)), ?_⟩
  cases dryRun
  · exact ⟨stores.row, stores.audit⟩
  · exact stores

/-- What a call settles on, from a state that it can go on from. -/
theorem eval_execute (proper : ProperDigests) {c : RunCheckpoint} {s : CapsuleRunState}
    (stores : Stores runId (some c) w) (bound : BoundTo runId q.plan s c) (live : s ≠ .terminal)
    (open_ : q.dryRun = true → .verifying ∈ s.transitions) {policyReport report : RunReport}
    (policy : a.report q.plan q.approvals true = some policyReport)
    (settled : a.report q.plan q.approvals q.dryRun = some report) :
    ∃ c' w' t, Proc.eval (answer i q a) (execute q c policyReport) v w =
        ((.ok (report, c'), { v with
          checkpoint := some c'
          report := some report }), w') ∧ Stores runId (some c') w' ∧
      BoundTo runId q.plan t c' ∧ .terminal ∈ t.transitions := by
  unfold execute
  by_cases dry : q.dryRun = true
  · obtain rfl : policyReport = report := by
      rw [dry, policy] at settled
      exact Option.some.inj settled
    obtain ⟨c', w', moved, stores, bound, _⟩ := eval_move (q := q) (i := i) (a := a)
      (v := { v with report := some policyReport }) proper stores bound (open_ dry) none rfl
    refine ⟨c', w', .verifying, ?_, stores, bound, by decide⟩
    rw [if_pos dry, Proc.eval_bind_ok Proc.eval_modify, Proc.eval_bind_ok moved,
      Proc.eval_pure]
  · have real : q.dryRun = false := Bool.eq_false_iff.mpr dry
    obtain ⟨c₁, w₁, executing, stores, bound, _⟩ := eval_move (i := i) (a := a) (v := v) proper
      stores bound ((CapsuleRunState.executing_iff s).mpr live) none rfl
    obtain ⟨w₂, orchestrated, stores⟩ := eval_orchestrate (q := q) (i := i) (a := a)
      (v := { v with checkpoint := some c₁ }) stores (real ▸ settled)
    obtain ⟨c₃, w₃, verifying, stores, bound, _⟩ := eval_move (i := i) (a := a)
      (v := { v with
        checkpoint := some c₁
        report := some report }) (t := .verifying) proper stores bound (by decide)
      none rfl
    by_cases compensating : compensates report = true
    · obtain ⟨c₄, w₄, moved, stores, bound, _⟩ := eval_move (i := i) (a := a)
        (v := { v with
          checkpoint := some c₃
          report := some report }) (t := .compensating) proper stores bound (by decide)
        none rfl
      refine ⟨c₄, w₄, .compensating, ?_, stores, bound, by decide⟩
      rw [if_neg dry, Proc.eval_bind_ok executing, Proc.eval_bind_ok orchestrated,
        Proc.eval_bind_ok Proc.eval_modify, Proc.eval_bind_ok verifying, if_pos compensating,
        Proc.eval_bind_ok moved, Proc.eval_pure]
    · refine ⟨c₃, w₃, .verifying, ?_, stores, bound, by decide⟩
      rw [if_neg dry, Proc.eval_bind_ok executing, Proc.eval_bind_ok orchestrated,
        Proc.eval_bind_ok Proc.eval_modify, Proc.eval_bind_ok verifying, if_neg compensating,
        Proc.eval_pure]

theorem eval_exportReceipt (calm : Calm k q a) {row : Option RunCheckpoint}
    (stores : Stores runId row w) (receipt : ExecutionReceipt) :
    ∃ locator w', Proc.eval (answer i q a) (exportReceipt k receipt) v w =
      ((.ok locator, v), w') ∧ Stores runId row w' := by
  unfold exportReceipt
  cases k.externalSink with
  | none => exact ⟨none, w, Proc.eval_pure, stores⟩
  | some sink =>
    refine ⟨some (a.locator w), { w with sink := w.sink ++ [(i, receipt.toDict)] }, ?_,
      ⟨stores.row, stores.audit⟩⟩
    dsimp only
    rw [Proc.eval_bind_ok (eval_perform (c := .sinkReady) rfl), Proc.eval_bind_ok (eval_ensure rfl),
      Proc.eval_bind_ok (eval_perform (c := .append receipt.toDict) rfl),
      Proc.eval_bind_ok (eval_ensure (calm.locator w)), Proc.eval_pure]

theorem eval_emitTelemetry (receipt : ExecutionReceipt) (digest : String) :
    Proc.eval (answer i q a) (emitTelemetry k receipt digest) v w = ((.ok (), v), w) := by
  unfold emitTelemetry
  by_cases telemetry : k.telemetrySink = true
  · rw [if_pos telemetry]
    exact eval_perform rfl
  · rw [if_neg telemetry, Proc.eval_pure]

/-- The call ended terminal, with a receipt, and the stored checkpoint names the receipt. -/
def EndsTerminal (runId : Uuid) (out : (Except Exn GovernedCapsuleRun × Variables) × World) :
    Prop :=
  ∃ ended receipt digest, out.1.1 = .ok ended ∧ ended.state = .terminal ∧
    ended.receipt = some receipt ∧ receipt.receiptSha256 = .ok digest ∧
    out.2.checkpoints runId = some ended.checkpoint ∧
    ended.checkpoint.state = CapsuleRunState.terminal.str ∧
    ended.checkpoint.resultSha256 = some digest

theorem eval_conclude (proper : ProperDigests) (calm : Calm k q a) {c : RunCheckpoint}
    {s : CapsuleRunState} (stores : Stores runId (some c) w) (bound : BoundTo runId q.plan s c)
    (edge : .terminal ∈ s.transitions) {report : RunReport}
    (settled : a.report q.plan q.approvals q.dryRun = some report) {payload : Json}
    (serialized : report.toDict = .ok payload) :
    EndsTerminal runId (Proc.eval (answer i q a)
      (conclude k runId q.plan a.authenticated report c) v w) := by
  have ⟨matches_plan, matches_fingerprint, _⟩ := returns_report (calm.returns _ _ _ _ settled)
  have digested : reportSha256 report = .ok (Host.sha256 (canonicalJson payload)) := by
    rw [reportSha256, serialized]
    rfl
  obtain ⟨anchor, w₁, anchored, hex, stores⟩ := eval_record (i := i) (a := a) (v := v) proper stores
    runId q.plan.planId "capsule_receipt_anchor" _
  obtain ⟨receipt, built, signed⟩ : ∃ receipt, buildExecutionReceipt q.plan report a.authenticated
      anchor k.receiptSigner (a.drawn w₁).1 (a.drawn w₁).2 = .ok receipt ∧ receipt.signature ≠ "" :=
    build_succeeds proper matches_plan matches_fingerprint serialized hex (calm.aware w₁)
  have named : receipt.receiptSha256 = .ok (Host.sha256 (canonicalJson receipt.toDict)) :=
    if_neg signed
  obtain ⟨locator, w₂, exported, stores⟩ := eval_exportReceipt (i := i)
    (v := { v with receipt := some receipt }) calm stores receipt
  obtain ⟨c', w₃, moved, stores, bound, result⟩ := eval_move (i := i) (a := a)
    (v := { v with receipt := some receipt }) proper stores bound edge
    (some (Host.sha256 (canonicalJson receipt.toDict))) (proper.sha256 _)
  obtain ⟨_, w₄, recorded, _, stores⟩ := eval_record (i := i) (a := a)
    (v := { v with
      checkpoint := some c'
      receipt := some receipt }) proper stores runId q.plan.planId "capsule_execution_receipt" _
  unfold conclude
  rw [digested, Proc.eval_bind_ok Proc.eval_lift, Proc.eval_bind_ok anchored,
    Proc.eval_bind_ok (eval_perform (c := .draw) rfl), built, Proc.eval_bind_ok Proc.eval_lift,
    Proc.eval_bind_ok Proc.eval_modify, Proc.eval_bind_ok exported, named,
    Proc.eval_bind_ok Proc.eval_lift, Proc.eval_bind_ok (eval_emitTelemetry receipt _),
    Proc.eval_bind_ok moved, Proc.eval_bind_ok recorded, Proc.eval_pure]
  exact ⟨_, receipt, _, rfl, rfl, rfl, named, stores.row, bound.state, result⟩

/-! ## The whole call -/

/-- A checkpoint of a run of a plan that has not ended. -/
structure Resumable (plan : ChangePlan) (c : RunCheckpoint) : Prop where
  planId : c.planId = plan.planId
  fingerprint : c.planFingerprint = plan.fingerprint
  digest : c.capsuleBindingsSha256 = capsuleBindingsSha256 plan
  live : c.state ≠ CapsuleRunState.terminal.str

/-- The call ended terminal, and the commits of the run follow the transition table. -/
def Completes (runId : Uuid) (out : (Except Exn GovernedCapsuleRun × Variables) × World) : Prop :=
  EndsTerminal runId out ∧ Path runId (out.2.commits.map Commit.checkpoint)

/-- A call goes on from a state if it is not dry, or if a dry call can verify from the state. -/
theorem eval_run_iff (proper : ProperDigests) (calm : Calm k q a) {c : RunCheckpoint}
    {s : CapsuleRunState} (capsules : q.plan.capsules ≠ []) (ready : q.connectionsReady = true)
    (stored : Stores runId (some c) w) (bound : BoundTo runId q.plan s c) (live : s ≠ .terminal) :
    EndsTerminal runId (Proc.eval (answer i q a) (run k runId q) v w) ↔
      q.dryRun = false ∨ .verifying ∈ s.transitions := by
  have bindings : (!q.plan.capsules.isEmpty) = true := by
    cases listed : q.plan.capsules with
    | nil => exact absurd listed capsules
    | cons first rest => rfl
  have waits : ¬(requiresConnection q.plan && !q.connectionsReady) = true := by
    rw [ready, Bool.not_true, Bool.and_false]
    exact Bool.false_ne_true
  obtain ⟨policyReport, policy, approved⟩ := calm.policy
  obtain ⟨report, settled, payload, serialized⟩ := calm.settled
  have permitted : ¬policyReport.actions.any (·.state == .approvalRequired) = true :=
    Bool.eq_false_iff.mp approved
  obtain ⟨w₁, reported, stores⟩ := eval_orchestrate (q := q) (i := i) (a := a)
    (v := { v with checkpoint := some c }) stored policy
  have reaches : Proc.eval (answer i q a) (run k runId q) v w =
      Proc.eval (answer i q a) (execute q c policyReport >>= fun settled =>
        conclude k runId q.plan a.authenticated settled.1 settled.2)
        { v with checkpoint := some c } w₁ := by
    unfold run
    rw [Proc.eval_bind_ok (eval_ensure bindings),
      Proc.eval_bind_ok (eval_obtain stored bound live), if_neg waits]
    unfold runReady
    rw [Proc.eval_bind_ok (eval_requireSink calm),
      Proc.eval_bind_ok (eval_perform (c := .authenticatedApprovals _ _) rfl),
      Proc.eval_bind_ok reported, if_neg permitted]
  rw [reaches]
  by_cases dead : q.dryRun = true ∧ .verifying ∉ s.transitions
  · refine iff_of_false ?_ ?_
    · have refused : Proc.eval (answer i q a) (execute q c policyReport)
          { v with checkpoint := some c } w₁ = ((.error (configurationError
            s!"capsule run transition {s.str} -> {CapsuleRunState.verifying.str} is not allowed"),
            { v with
              checkpoint := some c
              report := some policyReport }), w₁) := by
        unfold execute
        rw [if_pos dead.1, Proc.eval_bind_ok Proc.eval_modify,
          Proc.eval_bind_error (eval_move_error bound.state dead.2)]
      rw [Proc.eval_bind_error refused]
      rintro ⟨_, _, _, ended, _⟩
      cases ended
    · rintro (real | edge)
      · exact Bool.false_ne_true (real.symm.trans dead.1)
      · exact dead.2 edge
  · have open_ : q.dryRun = true → .verifying ∈ s.transitions :=
      fun dry => not_not.mp fun missing => dead ⟨dry, missing⟩
    refine iff_of_true ?_ ?_
    · obtain ⟨c', w', t, executed, stores, bound, edge⟩ := eval_execute (i := i) (a := a)
        (v := { v with checkpoint := some c }) proper stores bound live open_ policy settled
      rw [Proc.eval_bind_ok executed]
      exact eval_conclude proper calm stores bound edge settled serialized
    · cases dry : q.dryRun
      · exact .inl rfl
      · exact .inr (open_ dry)

/-- From every reachable checkpoint of its plan that is not terminal, a call that nothing
interferes with passes only transitions of the table and ends terminal with a receipt, exactly if
it is not dry or the checkpoint is one that a dry call can verify from: planned, or executing,
which dry calls never write. -/
theorem continuation_iff (proper : ProperDigests) {w₀ : World} (start : Initial runId w₀)
    {t : List CallEvent} {p : Calls} (reached : Run (Step k runId) ⟨w₀, []⟩ t p) {c : RunCheckpoint}
    (stored : p.world.checkpoints runId = some c) (resumable : Resumable q.plan c)
    (capsules : q.plan.capsules ≠ []) (ready : q.connectionsReady = true) (calm : Calm k q a)
    (i : Nat) :
    Completes runId (Proc.eval (answer i q a) (run k runId q) .initial p.world) ↔
      q.dryRun = false ∨ c.state = CapsuleRunState.planned.str ∨
        c.state = CapsuleRunState.executing.str := by
  have sound := reached_sound start reached
  have last := sound.row.symm.trans stored
  obtain ⟨_, owner, s, state⟩ := sound.path.last last
  have bound : BoundTo runId q.plan s c :=
    ⟨owner, resumable.planId, resumable.fingerprint, resumable.digest, state⟩
  have live : s ≠ .terminal := fun ended => resumable.live (ended ▸ state)
  have ends := eval_run_iff (i := i) (v := .initial) proper calm capsules ready
    ⟨stored, sound.audit⟩ bound live
  have kept := Prog.keeps_eval (keeps_run (k := k) q .initial p.world sound)
    (serve_answer (i := i) calm.toGenuine q)
  have edges : (q.dryRun = false ∨ .verifying ∈ s.transitions) ↔
      q.dryRun = false ∨ c.state = CapsuleRunState.planned.str ∨
        c.state = CapsuleRunState.executing.str := by
    rw [CapsuleRunState.verifying_iff, state]
    exact or_congr_right (or_congr ⟨congrArg _, CapsuleRunState.str_inj⟩
      ⟨congrArg _, CapsuleRunState.str_inj⟩)
  rw [← edges, ← ends]
  refine ⟨And.left, fun ended => ⟨ended, ?_⟩⟩
  obtain ⟨_, _, _, returned, _⟩ := ended
  revert kept returned
  unfold Proc.eval
  generalize Prog.eval _ _ _ = out
  intro kept returned
  obtain ⟨⟨value, v⟩, w⟩ := out
  obtain rfl := returned
  exact kept.1.path

/-- A call that nothing interferes with is a run of the system. -/
theorem call_runs (genuine : Genuine k a) (q : RunRequest) (p : Calls) :
    ∃ t, Run (Step k runId) p t
      ⟨(Prog.eval (answer p.threads.length q a) (run k runId q .initial) p.world).2,
        p.threads ++
          [(q, .ret (Prog.eval (answer p.threads.length q a) (run k runId q .initial) p.world).1)]⟩ := by
  let serve_ := answer p.threads.length q a
  obtain ⟨n, advanced⟩ : ∃ n, (run k runId q .initial).advance serve_ n p.world = _ :=
    Prog.advance_eval _ _
  have added : (p.threads ++ [(q, run k runId q .initial)])[p.threads.length]? =
      some (q, run k runId q .initial) := List.getElem?_concat_length
  obtain ⟨t, later⟩ : ∃ t, Run (Step k runId) ⟨p.world, p.threads ++ [(q, run k runId q .initial)]⟩ t
      ⟨_, _⟩ := Pool.run_advance (fun x w => serve_answer genuine q x w) n added
  rw [advanced, List.set_append_right _ _ le_rfl, Nat.sub_self] at later
  exact ⟨_, .cons (.started p q) later⟩

end

/-! ## Sample runs -/

namespace Samples

attribute [local instance] plainHost

def digest : String := (numeral 0).val

def capsule : CapabilityCapsuleExecutionBinding where
  fields := {
    capabilityId := "wiki.read"
    version := "1.0.0"
    risk := .readOnly
    manifestSha256 := digest
    sourceSha256 := digest
    artifactSha256 := digest
    dependencyLockSha256 := digest
    sbomSha256 := digest
    testSuiteSha256 := digest
    validationResultSha256 := digest
    sandboxValidationSha256 := digest
    verificationContractSha256 := digest
    compensationContractSha256 := digest
    policyContractSha256 := digest
    workerSha256 := digest
    publisher := "p"
    reviewer := "r"
    signerKeyId := "k"
    authenticatedPrincipal := "a"
    agentIdentity := "i"
    tenantId := "t"
    providerAccountId := "c"
    credentialProviderId := "v"
    allowedOrigins := []
    allowedMethods := []
    allowedPathPrefixes := []
    credentialNames := ["token"]
    credentialScopes := []
    dataClassification := .internal
    retentionClass := "s"
    maxInputBytes := 1
    maxOutputBytes := 1
    timeoutSeconds := 1
    cpuSeconds := 1
    memoryBytes := 33554432
    maxProcesses := 1
    state := "enabled" }
  valid := by decide +kernel

def context : ExecutionContext where
  fields := {
    integrationsSha256 := digest
    connectors := []
    plugins := []
    capsules := [capsule]
    runtime := none
    schema := "master-agent/execution-context@2" }
  normal := by decide +kernel
  valid := by decide +kernel

/-- A governed plan of one write, with a capsule that needs a credential. -/
def plan : ChangePlan where
  toChangePlanFields := { governedFields [sampleWrite] with
    executionContext := some context }
  valid := by decide +kernel
  trustedStrategyCoherenceAdmission := true

theorem proper : ProperDigests := ⟨fun _ => numeral_hex 0, fun _ _ => numeral_hex _⟩

theorem snapshot : plan.executionSnapshot = .ok plan := by
  have small : jsonNodes plan.toDict ≤ MAX_JSON_COLLECTION_ITEMS ∧
      jsonBytes plan.toDict ≤ MAX_JSON_STRING_CHARACTERS := by decide +kernel
  exact snapshot_of_small (by decide +kernel) small.1 small.2

/-- The sample orchestrator on the plan, when everything that it calls does what it is asked for. -/
def orchestrated :=
  Prog.drive (fun _ (x : RunState × Call) => smoothly x.2) 0 20
    (MasterAgent.run sampleOrchestrator (numbered 9) plan [] true RunState.initial)

/-- The report of a dry run of the plan. -/
def dryReport : RunReport where
  runId := numbered 9
  planId := plan.planId
  planFingerprint := plan.fingerprint
  dryRun := true
  actions := [⟨sampleWrite.actionId, "wiki.update", .planned,
    "permitted dry run: risk tier is auto-permitted: reversible_write", none, none, none⟩]
  systemsReview := .null

theorem orchestrated_reports : returnsReport (fun report => report.runId == dryReport.runId &&
    report.actions == dryReport.actions && report.systemsReview == .null) orchestrated.2 = true := by
  unfold orchestrated MasterAgent.run
  rw [snapshot]
  decide +kernel

theorem returns_dryReport : Returns sampleOrchestrator plan [] true dryReport := by
  have returned := orchestrated_reports
  unfold returnsReport at returned
  cases ended : orchestrated.2.result with
  | none =>
    rw [ended] at returned
    cases returned
  | some out =>
    obtain ⟨_ | report, s⟩ := out
    · rw [ended] at returned
      cases returned
    · have reached : Returns sampleOrchestrator plan [] true report := by
        refine ⟨numbered 9, orchestrated.1, s, ?_⟩
        rw [← Prog.eq_of_result ended]
        exact Prog.reaches_drive _ 0 20 _
      have ⟨planId, fingerprint, dryRun⟩ := returns_report reached
      rw [ended] at returned
      have same : ((report.runId == dryReport.runId) && (report.actions == dryReport.actions) &&
          (report.systemsReview == .null)) = true := returned
      simp only [Bool.and_eq_true, beq_iff_eq] at same
      obtain ⟨⟨runId, actions⟩, review⟩ := same
      have literal : report = dryReport := by
        obtain ⟨_, _, _, _, _, _⟩ := report
        obtain rfl := runId
        obtain rfl := planId
        obtain rfl := fingerprint
        obtain rfl := dryRun
        obtain rfl := actions
        obtain rfl := review
        rfl
      exact literal ▸ reached

def coordinator : CapsuleRunCoordinator where
  orchestrator := sampleOrchestrator
  receiptSigner := ⟨"k", List.replicate 32 0, by decide, by decide⟩
  externalSink := some "sink"
  telemetrySink := false
  requireExternalAudit := true

def time : Datetime := ⟨2026, 1, 2, 3, 4, 8, 0, some 0, by decide⟩

/-- Two plans with the same fields and the same admission are the same. -/
instance : DecidableEq ChangePlan := fun p q =>
  decidable_of_iff (p.toChangePlanFields = q.toChangePlanFields ∧
    p.trustedStrategyCoherenceAdmission = q.trustedStrategyCoherenceAdmission)
    ⟨fun ⟨fields, trusted⟩ => by
      obtain ⟨_, _, _⟩ := p
      obtain ⟨_, _, _⟩ := q
      obtain rfl := fields
      obtain rfl := trusted
      rfl, fun same => same ▸ ⟨rfl, rfl⟩⟩

/-- The orchestrator answers dry runs of the plan only. -/
def services : Services where
  clock _ := time
  authenticated := []
  report asked approvals dryRun :=
    if asked = plan ∧ approvals = [] ∧ dryRun = true then some dryReport else none
  drawn _ := (numbered 7, time)
  locator _ := "entry"

/-- A dry call for the plan. -/
def request (connectionsReady : Bool) : RunRequest := ⟨plan, [], true, connectionsReady⟩

theorem serializes : ∃ payload, dryReport.toDict = .ok payload := ⟨_, rfl⟩

theorem located : ("entry" != "" && "entry" == strip "entry") = true := by decide +kernel

theorem genuine : Genuine coordinator services where
  returns asked approvals dryRun report reported := by
    obtain ⟨own, same⟩ := Option.ite_none_right_eq_some.mp reported
    obtain ⟨rfl, rfl, rfl⟩ := own
    exact Option.some.inj same ▸ returns_dryReport
  aware _ := rfl

theorem reported : services.report plan [] true = some dryReport := by
  show (if plan = plan ∧ ([] : List Approval) = [] ∧ true = true then some dryReport else none) = _
  exact if_pos ⟨rfl, rfl, rfl⟩

theorem calm (connectionsReady : Bool) : Calm coordinator (request connectionsReady) services where
  toGenuine := genuine
  policy := ⟨dryReport, reported, rfl⟩
  settled := ⟨dryReport, reported, serializes⟩
  locator _ := located
  sink _ := rfl

def fresh : World := ⟨fun _ => none, .fresh, [], [], []⟩

theorem initial : Initial (numbered 5) fresh := ⟨rfl, ⟨[], rfl⟩, rfl, rfl, rfl⟩

/-- A row of the sample run. -/
def row (state : CapsuleRunState) (sequence : Nat) : RunCheckpoint :=
  ⟨numbered 5, plan.planId, plan.fingerprint, state.str, sequence, capsuleBindingsSha256 plan, none⟩

theorem waited_row : (Prog.eval (answer 0 (request false) services)
    (run coordinator (numbered 5) (request false) .initial) fresh).2.checkpoints (numbered 5) =
      some (row .awaitingConnection 1) := by
  decide +kernel

theorem resumable {s : CapsuleRunState} {n : Nat} (live : s ≠ .terminal) :
    Resumable plan (row s n) :=
  ⟨rfl, rfl, rfl, fun same => live (CapsuleRunState.str_inj same)⟩

theorem capsules : plan.capsules ≠ [] := List.cons_ne_nil _ _

/-- A dry call has waited for a connection, and no dry call goes on from there. -/
theorem dry_wait_stuck : ∃ t p c, Run (Step coordinator (numbered 5)) ⟨fresh, []⟩ t p ∧
    (∀ x ∈ p.threads, x.1.plan = plan ∧ x.1.dryRun = true) ∧
    p.world.checkpoints (numbered 5) = some c ∧
    c.state = CapsuleRunState.awaitingConnection.str ∧ Resumable plan c ∧
    Calm coordinator (request true) services ∧
    ∀ i, ¬Completes (numbered 5) (Proc.eval (answer i (request true) services)
      (run coordinator (numbered 5) (request true)) .initial p.world) := by
  obtain ⟨t, reached⟩ : ∃ t, Run (Step coordinator (numbered 5)) ⟨fresh, []⟩ t _ :=
    call_runs genuine (request false) _
  refine ⟨t, _, row .awaitingConnection 1, reached, ?_, waited_row, rfl,
    resumable (by decide), calm true, fun i completes => ?_⟩
  · intro x member
    obtain rfl := List.mem_singleton.mp member
    exact ⟨rfl, rfl⟩
  · have sound := reached_sound initial reached
    have ends := (eval_run_iff (v := .initial) (s := .awaitingConnection)
      proper (calm true) capsules rfl ⟨waited_row, sound.audit⟩
      ⟨rfl, rfl, rfl, rfl, rfl⟩ (by decide)).mp completes.1
    revert ends
    decide

theorem crashed_row : ((run coordinator (numbered 5) (request true) .initial).advance
    (answer 0 (request true) services) 2 fresh).2.checkpoints (numbered 5) =
      some (row .planned 0) := by
  decide +kernel

/-- A call has crashed once its checkpoint was created, and the next one ends terminal. -/
theorem planned_continues : ∃ t p c, Run (Step coordinator (numbered 5)) ⟨fresh, []⟩ t p ∧
    p.world.checkpoints (numbered 5) = some c ∧ c.state = CapsuleRunState.planned.str ∧
    Completes (numbered 5) (Proc.eval (answer 1 (request true) services)
      (run coordinator (numbered 5) (request true)) .initial p.world) := by
  let thread := (request true, run coordinator (numbered 5) (request true) .initial)
  obtain ⟨t, crashed⟩ : ∃ t, Run (Step coordinator (numbered 5)) ⟨fresh, [thread]⟩ t _ :=
    Pool.run_advance (i := 0) (fun x w => serve_answer genuine (request true) x w) 2 rfl
  have reached := Run.cons (.started ⟨fresh, []⟩ (request true)) crashed
  exact ⟨_, _, row .planned 0, reached, crashed_row, rfl,
    (continuation_iff proper initial reached crashed_row
      (resumable (by decide)) capsules rfl (calm true) 1).mpr (.inr (.inl rfl))⟩

end Samples

end MasterAgent.CapsuleRuns
