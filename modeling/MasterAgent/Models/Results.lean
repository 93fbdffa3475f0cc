import MasterAgent.Models.Action

/-!
# Results

What connectors return, and the states and reports of actions. A result keeps digests of the two
snapshots it was built with, so that a later change of a snapshot shows.

Results: a result that has not changed is copied as it is (`copyExecutionResult_ok`).
-/

namespace MasterAgent
open Base

inductive ActionState where
  | planned | permitted | approvalRequired | prohibited | skipped | succeeded | failed | verified
  | conflicted | compensating | compensated | compensationFailed | reused | indeterminate
deriving DecidableEq, Repr

namespace ActionState

def str : ActionState → String
  | planned => "planned"
  | permitted => "permitted"
  | approvalRequired => "approval_required"
  | prohibited => "prohibited"
  | skipped => "skipped"
  | succeeded => "succeeded"
  | failed => "failed"
  | verified => "verified"
  | conflicted => "conflicted"
  | compensating => "compensating"
  | compensated => "compensated"
  | compensationFailed => "compensation_failed"
  | reused => "reused"
  | indeterminate => "indeterminate"

/-- The states after which the orchestrator compensates an atomic plan. -/
def isFailure : ActionState → Bool
  | failed | conflicted | prohibited | approvalRequired | indeterminate => true
  | _ => false

/-- The states a dependency must reach in an applied run. -/
def isDone : ActionState → Bool
  | verified | reused => true
  | _ => false

end ActionState

inductive CompensationMode where
  | plan | inProcess | manual
deriving DecidableEq, Repr

namespace CompensationMode

def str : CompensationMode → String
  | plan => "plan"
  | inProcess => "in_process"
  | manual => "manual"

end CompensationMode

structure CompensationDescriptorFields where
  kind : String
  mode : CompensationMode
  capability : Option String
  parameters : Fields
  expectedVersion : Option String
  targetResourceId : Option String
  reason : Option String
  schema : String
deriving DecidableEq

/-- What `CompensationDescriptor.__post_init__` requires. -/
def CompensationDescriptorFields.checks (x : CompensationDescriptorFields) : List Check :=
  [require (x.schema == "master-agent/compensation@1")
      "unsupported compensation descriptor schema",
    require (!isBlank x.kind) "compensation kind must not be empty",
    require (x.mode != .plan || x.capability.any (!isBlank ·))
      "plan compensation requires an executable capability",
    require (x.mode == .plan || x.reason.any (!isBlank ·))
      "non-plan compensation requires an operator-facing reason"]

/-- Description of an available rollback operation. -/
structure CompensationDescriptor extends CompensationDescriptorFields where
  valid : firstError toCompensationDescriptorFields.checks = none
deriving DecidableEq

structure ExecutionResult where
  actionId : Uuid
  state : ActionState
  before : Option Fields
  after : Option Fields
  connectorReference : Option String
  message : String
  compensation : Option CompensationDescriptor
  beforeDigest : String
  afterDigest : String
deriving DecidableEq

structure VerificationResult where
  actionId : Uuid
  verified : Bool
  observed : Option Fields
  message : String
deriving DecidableEq

section
variable [Host]

/-- `_result_state_digest`. -/
def resultStateDigest (value : Option Fields) : String :=
  stableSha256 (value.elim .null .obj)

namespace ExecutionResult

/-- `ExecutionResult.validate_integrity`. -/
def validateIntegrity (r : ExecutionResult) : Except Exn Unit :=
  if resultStateDigest r.before ≠ r.beforeDigest then
    .error (validationError "execution result before-state changed after return")
  else if resultStateDigest r.after ≠ r.afterDigest then
    .error (validationError "execution result after-state changed after return")
  else .ok ()

end ExecutionResult

/-- `_copy_execution_result`. -/
def copyExecutionResult (r : ExecutionResult) : Except Exn ExecutionResult := do
  r.validateIntegrity
  return { r with
    beforeDigest := resultStateDigest r.before
    afterDigest := resultStateDigest r.after }

theorem validateIntegrity_ok {r : ExecutionResult} (h : r.validateIntegrity = .ok ()) :
    resultStateDigest r.before = r.beforeDigest ∧ resultStateDigest r.after = r.afterDigest := by
  unfold ExecutionResult.validateIntegrity at h
  split at h
  · cases h
  · next before =>
      split at h
      · cases h
      · next after => exact ⟨not_not.mp before, not_not.mp after⟩

/-- A result that has not changed can be copied. -/
theorem copyExecutionResult_ok {r : ExecutionResult} (h : r.validateIntegrity = .ok ()) :
    copyExecutionResult r = .ok r := by
  obtain ⟨before, after⟩ := validateIntegrity_ok h
  unfold copyExecutionResult
  rw [h, before, after]
  rfl

theorem copyExecutionResult_error {r : ExecutionResult} {e : Exn}
    (h : copyExecutionResult r = .error e) : e.kind = .validation := by
  unfold copyExecutionResult ExecutionResult.validateIntegrity at h
  split at h
  · cases h
    rfl
  · split at h
    · cases h
      rfl
    · cases h

/-- `_validate_execution_result`. -/
def validateExecutionResult (action : AgentAction) (r : ExecutionResult) : Except Exn Unit :=
  if r.actionId ≠ action.actionId then
    .error (connectorError "connector result action ID did not match the action")
  else do
    r.validateIntegrity
    if r.state ≠ .succeeded then
      .error (connectorError "connector result must report succeeded before verification")
    else if action.risk = .reversibleWrite ∧ r.compensation.isNone then
      .error (connectorError ("reversible connector result omitted a typed compensation " ++
        "descriptor"))
    else return ()

end

end MasterAgent
