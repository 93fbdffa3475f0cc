import MasterAgent.Audit.Chain
import MasterAgent.Base.Threads
import MasterAgent.Capsules.Receipts

/-!
# The capsule run coordinator

`CapsuleRunCoordinator.run` over the audit log, the orchestrator and the sinks it calls. A call of
`run` keeps its variables in a state of its own, and everything else it does is a call to the world
that all calls share. The orchestrator's run is two calls, its start and its return, so that
anything may happen in between.

Results:

1. `checkpointRun_ok`, `checkpointRun_meets`: what `checkpoint_run` writes, and over what;
2. `returns_report`: what a report of the orchestrator says of its plan.
-/

namespace MasterAgent.CapsuleRuns
open Base

/-! ## States -/

inductive CapsuleRunState where
  | planned | awaitingConnection | awaitingApproval | executing | verifying | compensating
  | terminal
deriving DecidableEq, Repr

namespace CapsuleRunState

def str : CapsuleRunState → String
  | planned => "planned"
  | awaitingConnection => "awaiting_connection"
  | awaitingApproval => "awaiting_approval"
  | executing => "executing"
  | verifying => "verifying"
  | compensating => "compensating"
  | terminal => "terminal"

def all : List CapsuleRunState :=
  [planned, awaitingConnection, awaitingApproval, executing, verifying, compensating, terminal]

/-- `CapsuleRunState(text)`. -/
def parse (text : String) : Except Exn CapsuleRunState :=
  match all.find? (·.str == text) with
  | some state => .ok state
  | none => .error (valueError s!"'{text}' is not a valid CapsuleRunState")

theorem parse_str (state : CapsuleRunState) : parse state.str = .ok state := by
  cases state <;> decide

theorem str_inj {s t : CapsuleRunState} (same : s.str = t.str) : s = t := by
  have parsed := congrArg parse same
  rw [parse_str, parse_str] at parsed
  exact Except.ok.inj parsed

/-- `_TRANSITIONS`. -/
def transitions : CapsuleRunState → List CapsuleRunState
  | planned => [awaitingConnection, awaitingApproval, executing, verifying]
  | awaitingConnection => [awaitingConnection, awaitingApproval, executing]
  | awaitingApproval => [awaitingApproval, executing]
  -- An exact crash-recovery attempt stays in its state.
  | executing => [executing, verifying]
  | verifying => [executing, compensating, terminal]
  | compensating => [executing, compensating, terminal]
  | terminal => []

/-- The states that a dry call can verify from. -/
theorem verifying_iff (s : CapsuleRunState) :
    .verifying ∈ s.transitions ↔ s = .planned ∨ s = .executing := by
  cases s <;> decide

/-- Every state but the last can be executed from. -/
theorem executing_iff (s : CapsuleRunState) : .executing ∈ s.transitions ↔ s ≠ .terminal := by
  cases s <;> decide

end CapsuleRunState

/-! ## Checkpoints -/

structure RunCheckpoint where
  runId : Uuid
  planId : Uuid
  planFingerprint : String
  state : String
  sequence : Nat
  capsuleBindingsSha256 : String
  resultSha256 : Option String
deriving DecidableEq

/-- The rows of `run_checkpoints`, by their primary key. -/
abbrev Checkpoints := Uuid → Option RunCheckpoint

/-- The arguments of `AuditLog.checkpoint_run`. -/
structure CheckpointRequest where
  runId : Uuid
  planId : Uuid
  planFingerprint : String
  state : String
  capsuleBindingsSha256 : String
  expectedState : Option String
  resultSha256 : Option String
deriving DecidableEq

/-- What `AuditLog.checkpoint_run` requires before it opens the database. -/
def CheckpointRequest.checks (q : CheckpointRequest) : List Check :=
  [(isSha256 q.planFingerprint,
      configurationError "run checkpoint plan_fingerprint is malformed"),
    (isSha256 q.capsuleBindingsSha256,
      configurationError "run checkpoint capsule_bindings_sha256 is malformed"),
    (q.resultSha256.all isSha256, configurationError "run checkpoint result digest is malformed"),
    (q.state != "" && q.state.toList.all (·.toNat < 128),
      configurationError "run checkpoint state is malformed")]

/-- The row that a request asks for. -/
def CheckpointRequest.row (q : CheckpointRequest) (sequence : Nat) : RunCheckpoint :=
  ⟨q.runId, q.planId, q.planFingerprint, q.state, sequence, q.capsuleBindingsSha256,
    q.resultSha256⟩

/-- `AuditLog.checkpoint_run`: a transaction, so that the guarded update always finds the row that
was read. -/
def checkpointRun (q : CheckpointRequest) (rows : Checkpoints) :
    Except Exn (RunCheckpoint × Checkpoints) :=
  match firstError q.checks with
  | some raised => .error raised
  | none =>
    match rows q.runId with
    | none =>
      if q.expectedState.isSome then .error (runtimeError "capsule run checkpoint is missing")
      else .ok (q.row 0, Function.update rows q.runId (some (q.row 0)))
    | some existing =>
      if existing.planId ≠ q.planId ∨ existing.planFingerprint ≠ q.planFingerprint ∨
          some existing.state ≠ q.expectedState ∨
          existing.capsuleBindingsSha256 ≠ q.capsuleBindingsSha256 then
        .error (runtimeError "capsule run checkpoint differs from the exact resume request")
      else .ok (q.row (existing.sequence + 1),
        Function.update rows q.runId (some (q.row (existing.sequence + 1))))

/-- A row that a request may be written over. -/
structure Meets (existing : RunCheckpoint) (q : CheckpointRequest) : Prop where
  planId : existing.planId = q.planId
  fingerprint : existing.planFingerprint = q.planFingerprint
  state : some existing.state = q.expectedState
  digest : existing.capsuleBindingsSha256 = q.capsuleBindingsSha256

/-- What is written, and over what. -/
theorem checkpointRun_ok {q : CheckpointRequest} {rows rows' : Checkpoints} {row : RunCheckpoint}
    (written : checkpointRun q rows = .ok (row, rows')) :
    rows' = Function.update rows q.runId (some row) ∧
      ((rows q.runId = none ∧ q.expectedState = none ∧ row = q.row 0) ∨
        ∃ existing, rows q.runId = some existing ∧ Meets existing q ∧
          row = q.row (existing.sequence + 1)) := by
  unfold checkpointRun at written
  split at written
  · cases written
  split at written
  · next missing =>
    split at written
    · cases written
    · next unexpected =>
      cases written
      exact ⟨rfl, .inl ⟨missing, by simpa using unexpected, rfl⟩⟩
  · next existing found =>
    split at written
    · cases written
    · next same =>
      cases written
      simp only [not_or, not_not] at same
      exact ⟨rfl, .inr ⟨existing, found, ⟨same.1, same.2.1, same.2.2.1, same.2.2.2⟩, rfl⟩⟩

/-- A request that passes its checks is written over a row that it meets. -/
theorem checkpointRun_meets {q : CheckpointRequest} {rows : Checkpoints} {existing : RunCheckpoint}
    (passes : firstError q.checks = none) (found : rows q.runId = some existing)
    (same : Meets existing q) : checkpointRun q rows = .ok (q.row (existing.sequence + 1),
      Function.update rows q.runId (some (q.row (existing.sequence + 1)))) := by
  unfold checkpointRun
  rw [passes]
  dsimp only
  rw [found]
  dsimp only
  rw [if_neg]
  simp only [not_or, not_not]
  exact ⟨same.planId, same.fingerprint, same.state, same.digest⟩

/-! ## Calls -/

variable [Host]

inductive CapsuleCall where
  | runCheckpoint (runId : Uuid)
  | checkpointRun (request : CheckpointRequest)
  | record (runId planId : Uuid) (eventType : String) (payload : Json)
  /-- The sink is external, tamper resistant and healthy. -/
  | sinkReady
  | authenticatedApprovals (plan : ChangePlan) (approvals : List Approval)
  | orchestratorStarts (plan : ChangePlan) (approvals : List Approval) (dryRun : Bool)
  | orchestratorReturns (plan : ChangePlan) (approvals : List Approval) (dryRun : Bool)
  /-- `uuid4()` and `datetime.now(UTC)`, for a receipt. -/
  | draw
  | append (receipt : Json)
  | emit (event : Json)

namespace CapsuleCall

@[reducible]
def Value : CapsuleCall → Type
  | runCheckpoint _ => Option RunCheckpoint
  | checkpointRun _ => RunCheckpoint
  | record .. => String
  | sinkReady => Bool
  | authenticatedApprovals .. => List (Approval × String)
  | orchestratorStarts .. => Unit
  | orchestratorReturns .. => RunReport
  | draw => Uuid × Datetime
  | append _ => String
  | emit _ => Unit

abbrev Answer (c : CapsuleCall) : Type := Except Exn c.Value

end CapsuleCall

/-- The variables of `run`. -/
structure Variables where
  checkpoint : Option RunCheckpoint
  report : Option RunReport
  receipt : Option ExecutionReceipt

def Variables.initial : Variables := ⟨none, none, none⟩

abbrev Coordination (A : Type) : Type := Proc Variables CapsuleCall CapsuleCall.Answer Exn A

/-- Make a call, and raise what it raises. -/
def perform (c : CapsuleCall) : Coordination c.Value :=
  Proc.call c >>= fun answer => Proc.lift answer

/-- `if not holds: raise raised` -/
def ensure (holds : Bool) (raised : Exn) : Coordination Unit :=
  Proc.lift (if holds then .ok () else .error raised)

/-! ## The coordinator -/

structure CapsuleRunCoordinator where
  orchestrator : WorkflowOrchestrator
  receiptSigner : ReceiptSigner
  /-- The `sink_id` of the external sink. -/
  externalSink : Option String
  telemetrySink : Bool
  requireExternalAudit : Bool

/-- The arguments of `run` other than the coordinator run's identifier. -/
structure RunRequest where
  plan : ChangePlan
  approvals : List Approval
  dryRun : Bool
  connectionsReady : Bool

structure GovernedCapsuleRun where
  coordinatorRunId : Uuid
  state : CapsuleRunState
  checkpoint : RunCheckpoint
  report : Option RunReport
  receipt : Option ExecutionReceipt
  externalReceiptLocator : Option String

/-- `_capsule_bindings_sha256`. -/
def capsuleBindingsSha256 (plan : ChangePlan) : String :=
  Host.sha256 (canonicalJson (.arr (plan.capsules.map CapabilityCapsuleExecutionBinding.toDict)))

/-- `_report_sha256`. -/
def reportSha256 (report : RunReport) : Except Exn String := do
  let payload ← report.toDict
  return Host.sha256 (canonicalJson payload)

/-- `_validate_resume`. -/
def validateResume (checkpoint : RunCheckpoint) (plan : ChangePlan) : Except Exn Unit :=
  if checkpoint.planId ≠ plan.planId ∨ checkpoint.planFingerprint ≠ plan.fingerprint ∨
      checkpoint.capsuleBindingsSha256 ≠ capsuleBindingsSha256 plan then
    .error (configurationError
      "capsule run resume requires the exact captured plan and capsule bindings")
  else .ok ()

/-- `CapsuleRunCoordinator._record_state`. -/
def recordState (checkpoint : RunCheckpoint) : Coordination Unit := do
  let _ ← perform (.record checkpoint.runId checkpoint.planId "capsule_run_state" (.mkObj [
    ("state", .str checkpoint.state),
    ("sequence", .int checkpoint.sequence),
    ("plan_fingerprint", .str checkpoint.planFingerprint),
    ("capsule_bindings_sha256", .str checkpoint.capsuleBindingsSha256),
    ("result_sha256", optStr checkpoint.resultSha256)]))

/-- The request that creates a checkpoint. -/
def creation (runId : Uuid) (plan : ChangePlan) : CheckpointRequest where
  runId := runId
  planId := plan.planId
  planFingerprint := plan.fingerprint
  state := CapsuleRunState.planned.str
  capsuleBindingsSha256 := capsuleBindingsSha256 plan
  expectedState := none
  resultSha256 := none

/-- The request that advances a checkpoint. -/
def advance (checkpoint : RunCheckpoint) (current target : CapsuleRunState) (plan : ChangePlan)
    (resultSha256 : Option String) : CheckpointRequest where
  runId := checkpoint.runId
  planId := plan.planId
  planFingerprint := plan.fingerprint
  state := target.str
  capsuleBindingsSha256 := capsuleBindingsSha256 plan
  expectedState := some current.str
  resultSha256 := resultSha256

/-- `CapsuleRunCoordinator._transition`. -/
def transition (checkpoint : RunCheckpoint) (target : CapsuleRunState) (plan : ChangePlan)
    (resultSha256 : Option String) : Coordination RunCheckpoint := do
  let current ← Proc.lift (CapsuleRunState.parse checkpoint.state)
  ensure (current.transitions.contains target) (configurationError
    s!"capsule run transition {current.str} -> {target.str} is not allowed")
  let updated ← perform (.checkpointRun (advance checkpoint current target plan resultSha256))
  recordState updated
  return updated

/-- `checkpoint = self._transition(checkpoint, …)` -/
def move (checkpoint : RunCheckpoint) (target : CapsuleRunState) (plan : ChangePlan)
    (resultSha256 : Option String) : Coordination RunCheckpoint := do
  let updated ← transition checkpoint target plan resultSha256
  Proc.modify fun v => { v with checkpoint := some updated }
  return updated

/-- Load the checkpoint of a run or create it. -/
def obtainCheckpoint (runId : Uuid) (plan : ChangePlan) : Coordination RunCheckpoint := do
  match ← perform (.runCheckpoint runId) with
  | none =>
    let checkpoint ← perform (.checkpointRun (creation runId plan))
    recordState checkpoint
    Proc.modify fun v => { v with checkpoint := some checkpoint }
    return checkpoint
  | some checkpoint =>
    Proc.lift (validateResume checkpoint plan)
    ensure (checkpoint.state != CapsuleRunState.terminal.str)
      (configurationError "capsule run is already terminal; replay is refused")
    Proc.modify fun v => { v with checkpoint := some checkpoint }
    return checkpoint

/-- Write a state that the run waits in. -/
def awaiting (runId : Uuid) (checkpoint : RunCheckpoint) (target : CapsuleRunState)
    (plan : ChangePlan) (report : Option RunReport) : Coordination GovernedCapsuleRun := do
  let checkpoint ← move checkpoint target plan none
  return ⟨runId, target, checkpoint, report, none, none⟩

/-- `WorkflowOrchestrator.run`, as the coordinator calls it. -/
def orchestrate (q : RunRequest) (dryRun : Bool) : Coordination RunReport := do
  perform (.orchestratorStarts q.plan q.approvals dryRun)
  perform (.orchestratorReturns q.plan q.approvals dryRun)

/-- The report asks for a compensating state. -/
def compensates (report : RunReport) : Bool :=
  report.compensated ||
    report.actions.any fun item => item.state == .compensating || item.state == .compensationFailed

/-- What a run that needs no approval does: the report it settles on, and the checkpoint it is
written under. -/
def execute (q : RunRequest) (checkpoint : RunCheckpoint) (policyReport : RunReport) :
    Coordination (RunReport × RunCheckpoint) :=
  if q.dryRun then do
    Proc.modify fun v => { v with report := some policyReport }
    let checkpoint ← move checkpoint .verifying q.plan none
    return (policyReport, checkpoint)
  else do
    let checkpoint ← move checkpoint .executing q.plan none
    let report ← orchestrate q false
    Proc.modify fun v => { v with report := some report }
    let checkpoint ← move checkpoint .verifying q.plan none
    if compensates report then do
      let checkpoint ← move checkpoint .compensating q.plan none
      return (report, checkpoint)
    else return (report, checkpoint)

/-- `export_execution_receipt`, where a sink is configured. -/
def exportReceipt (k : CapsuleRunCoordinator) (receipt : ExecutionReceipt) :
    Coordination (Option String) :=
  match k.externalSink with
  | none => return none
  | some _ => do
    let ready ← perform .sinkReady
    ensure ready (configurationError "external tamper-resistant audit sink is not healthy")
    let locator : String ← perform (.append receipt.toDict)
    ensure (locator != "" && locator == strip locator)
      (configurationError "external audit sink returned an invalid locator")
    return some locator

/-- The event of `emit_receipt_telemetry`. Every outcome and every binding has the members that
are read. -/
def telemetryEvent (receipt : ExecutionReceipt) (receiptSha256 : String) : Json :=
  .mkObj [("event", .str "master_agent.execution_receipt"),
    ("receipt_id", .str receipt.receiptId.str),
    ("receipt_sha256", .str receiptSha256),
    ("plan_fingerprint", .str receipt.planFingerprint),
    ("successful", .bool receipt.successful),
    ("dry_run", .bool receipt.dryRun),
    ("action_states", .arr (receipt.actionOutcomes.map fun item => .mkObj [
      ("capability", (item.get? "capability").getD .null),
      ("state", (item.get? "state").getD .null)])),
    ("capsule_manifest_sha256", .arr (receipt.capsuleBindings.map fun item =>
      (item.get? "manifest_sha256").getD .null)),
    ("audit_anchor_sha256", .str receipt.auditAnchorSha256)]

/-- `emit_receipt_telemetry`, where a sink is configured. -/
def emitTelemetry (k : CapsuleRunCoordinator) (receipt : ExecutionReceipt)
    (receiptSha256 : String) : Coordination Unit :=
  if k.telemetrySink then perform (.emit (telemetryEvent receipt receiptSha256)) else return ()

/-- Anchor a report, sign and export its receipt, and end the run. -/
def conclude (k : CapsuleRunCoordinator) (runId : Uuid) (plan : ChangePlan)
    (authenticated : List (Approval × String)) (report : RunReport) (checkpoint : RunCheckpoint) :
    Coordination GovernedCapsuleRun := do
  let resultSha256 ← Proc.lift (reportSha256 report)
  let anchor ← perform (.record runId plan.planId "capsule_receipt_anchor" (.mkObj [
    ("plan_fingerprint", .str plan.fingerprint),
    ("capsule_bindings_sha256", .str (capsuleBindingsSha256 plan)),
    ("result_sha256", .str resultSha256)]))
  let drawn ← perform .draw
  let receipt ← Proc.lift (buildExecutionReceipt plan report authenticated anchor k.receiptSigner
    drawn.1 drawn.2)
  Proc.modify fun v => { v with receipt := some receipt }
  let locator ← exportReceipt k receipt
  let receiptSha256 ← Proc.lift receipt.receiptSha256
  emitTelemetry k receipt receiptSha256
  let checkpoint ← move checkpoint .terminal plan (some receiptSha256)
  let _ ← perform (.record runId plan.planId "capsule_execution_receipt" (.mkObj [
    ("receipt_id", .str receipt.receiptId.str),
    ("receipt_sha256", .str receiptSha256),
    ("signer_key_id", .str receipt.signerKeyId),
    ("external_sink", optStr k.externalSink),
    ("external_locator_sha256", optStr (locator.map Host.sha256))]))
  return ⟨runId, .terminal, checkpoint, some report, some receipt, locator⟩

/-- A production run needs a healthy external sink before anything else. -/
def requireSink (k : CapsuleRunCoordinator) : Coordination Unit :=
  if k.requireExternalAudit then do
    let refusal := configurationError
      "production capsule run requires a healthy external tamper-resistant audit sink"
    ensure k.externalSink.isSome refusal
    let ready ← perform .sinkReady
    ensure ready refusal
  else return ()

/-- Run what is ready to run. -/
def runReady (k : CapsuleRunCoordinator) (runId : Uuid) (q : RunRequest)
    (checkpoint : RunCheckpoint) : Coordination GovernedCapsuleRun := do
  requireSink k
  let authenticated ← perform (.authenticatedApprovals q.plan q.approvals)
  let policyReport ← orchestrate q true
  if policyReport.actions.any (·.state == .approvalRequired) then
    awaiting runId checkpoint .awaitingApproval q.plan (some policyReport)
  else do
    let settled ← execute q checkpoint policyReport
    conclude k runId q.plan authenticated settled.1 settled.2

/-- `any(binding.credential_names for binding in context.capsules)` -/
def requiresConnection (plan : ChangePlan) : Bool :=
  plan.capsules.any fun binding => !binding.fields.credentialNames.isEmpty

/-- `CapsuleRunCoordinator.run`. -/
def run (k : CapsuleRunCoordinator) (runId : Uuid) (q : RunRequest) :
    Coordination GovernedCapsuleRun := do
  ensure (!q.plan.capsules.isEmpty) (configurationError
    "capsule run requires exact capsule bindings in execution context")
  let checkpoint ← obtainCheckpoint runId q.plan
  if requiresConnection q.plan && !q.connectionsReady then
    awaiting runId checkpoint .awaitingConnection q.plan none
  else runReady k runId q checkpoint

/-! ## The world -/

/-- A written row, with the number of the call that wrote it, its arguments and its variables. -/
structure Commit where
  call : Nat
  request : RunRequest
  checkpoint : RunCheckpoint
  held : Variables

/-- What all calls share. The commits and the real runs are kept for the statements only. -/
structure World where
  checkpoints : Checkpoints
  audit : AuditDb
  /-- The receipts that the external sink holds, with the calls that appended them. -/
  sink : List (Nat × Json)
  commits : List Commit
  /-- The calls that started an orchestrator run with `dry_run = False`. -/
  realRuns : List Nat

/-- `AuditLog.record`, which returns the hash it has made the head of the chain. -/
def recordEvent (c : RecordCall) (db : AuditDb) : Except Exn (String × AuditDb) := do
  let recorded ← MasterAgent.record c db
  return (recorded.state.elim "" (·.headHash), recorded)

/-- A report that a run of the orchestrator returns. -/
def Returns (o : WorkflowOrchestrator) (plan : ChangePlan) (approvals : List Approval)
    (dryRun : Bool) (report : RunReport) : Prop :=
  ∃ reportId t s, Prog.Reaches (MasterAgent.run o reportId plan approvals dryRun RunState.initial) t
    (.ret (.ok report, s))

/-- Which reports the orchestrator returns. -/
abbrev Reports : Type := ChangePlan → List Approval → Bool → RunReport → Prop

/-- What a call of `run` gets from the world, and what it does to it. -/
def Served (reports : Reports) (i : Nat) (own : RunRequest) (v : Variables) :
    (c : CapsuleCall) → World → c.Value → World → Prop
  | .runCheckpoint runId, w, row, w' => row = w.checkpoints runId ∧ w' = w
  | .checkpointRun q, w, row, w' => ∃ rows, CapsuleRuns.checkpointRun q w.checkpoints = .ok (row, rows) ∧
      w' = { w with
        checkpoints := rows
        commits := w.commits ++ [⟨i, own, row, v⟩] }
  | .record runId planId eventType payload, w, hash, w' => ∃ now db,
      recordEvent ⟨now, runId, planId, none, eventType, payload⟩ w.audit = .ok (hash, db) ∧
      w' = { w with audit := db }
  | .orchestratorStarts _ _ dryRun, w, _, w' =>
      w' = if dryRun then w else { w with realRuns := w.realRuns ++ [i] }
  | .orchestratorReturns plan approvals dryRun, w, report, w' =>
      reports plan approvals dryRun report ∧ w' = w
  | .draw, w, drawn, w' => drawn.2.offset.isSome = true ∧ w' = w
  | .append receipt, w, _, w' => w' = { w with sink := w.sink ++ [(i, receipt)] }
  | .sinkReady, w, _, w' | .authenticatedApprovals .., w, _, w' | .emit _, w, _, w' => w' = w

/-- What a call that raises does: a sink may have taken the receipt. -/
def Raised (i : Nat) (c : CapsuleCall) (w w' : World) : Prop :=
  w' = w ∨ ∃ receipt, c = .append receipt ∧ w' = { w with sink := w.sink ++ [(i, receipt)] }

def serve (reports : Reports) (i : Nat) (own : RunRequest) (x : Variables × CapsuleCall)
    (w : World) (r : x.2.Answer) (w' : World) : Prop :=
  match r with
  | .ok value => Served reports i own x.1 x.2 w value w'
  | .error _ => Raised i x.2 w w'

/-- What happens elsewhere: others record events, and write the checkpoints of other runs. -/
def Elsewhere (runId : Uuid) (w w' : World) : Prop :=
  ∃ rows calls db, rows runId = w.checkpoints runId ∧ recordAll calls w.audit = .ok db ∧
    w' = { w with
      checkpoints := rows
      audit := db }

/-- Before the first call for a run. -/
structure Initial (runId : Uuid) (w : World) : Prop where
  checkpoints : w.checkpoints runId = none
  audit : ∃ columns, w.audit = .ofColumns columns
  sink : w.sink = []
  commits : w.commits = []
  realRuns : w.realRuns = []

/-- The calls of `run` for one coordinator run, and the world they share. -/
abbrev Calls : Type :=
  Pool RunRequest (Variables × CapsuleCall) (fun x => x.2.Answer)
    (Except Exn GovernedCapsuleRun × Variables) World

abbrev CallEvent : Type := PoolEvent RunRequest (Variables × CapsuleCall) fun x => x.2.Answer

/-- A call is made, goes on by one step, or something happens elsewhere. -/
abbrev Step (k : CapsuleRunCoordinator) (runId : Uuid) : Calls → CallEvent → Calls → Prop :=
  Pool.Step (serve (Returns k.orchestrator)) (Elsewhere runId)
    fun q => run k runId q .initial

/-! ## What the calls answer -/

omit [Host] in
/-- What holds of the rest, however it is begun, holds of the whole. -/
theorem wp_rest {S C E A B : Type} {R : C → Type} {p : Proc S C R E B} {f : B → Proc S C R E A}
    {Q : A → S → Proc.History S R → Prop} {s : S} {h : Proc.History S R}
    (rest : ∀ b s h, Proc.wp (fun _ _ _ => True) (f b) Q (fun _ _ _ => True) s h) :
    Proc.wp (fun _ _ _ => True) (p >>= f) Q (fun _ _ _ => True) s h := by
  rw [Proc.wp_bind]
  exact Proc.wp_always (fun _ _ _ => trivial) rest fun _ _ _ => trivial

/-- A report of the orchestrator is about the plan it was given. -/
theorem returns_report {o : WorkflowOrchestrator} {plan : ChangePlan} {approvals : List Approval}
    {dryRun : Bool} {report : RunReport} (returned : Returns o plan approvals dryRun report) :
    report.planId = plan.planId ∧ report.planFingerprint = plan.fingerprint ∧
      report.dryRun = dryRun := by
  obtain ⟨reportId, t, s, reached⟩ := returned
  refine @Proc.post_of_reaches _ _ _ _ _ (fun _ _ _ => True) (fun report _ _ =>
    report.planId = plan.planId ∧ report.planFingerprint = plan.fingerprint ∧
      report.dryRun = dryRun) (fun _ _ _ => True) _ [] _ _ _ _ ?_ reached
  unfold MasterAgent.run
  rw [Proc.wp_bind, Proc.wp_lift]
  cases snapped : plan.executionSnapshot with
  | error e => trivial
  | ok snapshot =>
  obtain rfl := ChangePlan.executionSnapshot_eq snapped
  -- Whatever the run asks for, it reports on its own plan.
  iterate 11 refine wp_rest fun _ _ _ => ?_
  exact ⟨rfl, rfl, rfl⟩

end MasterAgent.CapsuleRuns
