import MasterAgent.Audit.Idempotency
import MasterAgent.Base.Program
import MasterAgent.Models.Results
import MasterAgent.Planners.Gate
import MasterAgent.Policy.Sources

/-!
# What a run is made of

The collaborators of a `WorkflowOrchestrator`, the calls it makes on them, and the mutable state of
one `run`. Connectors, the audit log, the clock and the checks that look at a connector answer
calls, and may answer anything or raise anything. The catalog and the governance profile are
immutable, so their checks are functions.
-/

namespace MasterAgent
open Base

/-! ## Collaborators -/

/-- What the orchestrator sees of a connector. -/
structure Connector where
  name : String
  capabilities : List String
  /-- `type(connector) is MockConnector`. -/
  isMock : Bool
  verifiesIdempotency : Bool
  recordsIdempotency : Bool
  compensates : Bool
  /-- `max_pages` and `max_response_bytes` of a live connector's configuration. -/
  httpLimits : Option (Int × Int)
deriving DecidableEq

/-- `connector_http_action_budget`. -/
def connectorHttpActionBudget (c : Connector) : Except Exn (Option (Int × Int)) :=
  match c.httpLimits with
  | none => .ok none
  | some (requests, bytes) =>
      if requests ≤ 0 ∨ bytes ≤ 0 then
        .error (configurationError "live connector HTTP action budgets must be positive integers")
      else .ok (some (requests, bytes))

/-- The connectors registered for each system. -/
abbrev ConnectorRegistry := List (String × List Connector)

/-- `ConnectorRegistry.resolve` with a capability. -/
def resolveConnector (registry : ConnectorRegistry) (system capability : String) :
    Except Exn Connector :=
  match registry.lookup system with
  | none | some [] => .error (connectorError s!"no connector registered for system: {system}")
  | some candidates =>
      match candidates.filter (·.capabilities.contains capability) with
      | [connector] => .ok connector
      | [] =>
          match candidates.filter (·.capabilities.isEmpty) with
          | [wildcard] => .ok wildcard
          | _ => .error (connectorError
              s!"no connector registered for capability {capability} on system {system}")
      | _ => .error (connectorError
          s!"multiple connectors registered for capability {capability} on system {system}")

/-- What the orchestrator reads of a capability definition. -/
structure CapabilityDefinition where
  authentication : String
  usesExternalModel : Bool
deriving DecidableEq

structure CapabilityCatalog where
  validateAction : AgentAction → Bool × String
  definition : String → Except Exn CapabilityDefinition

structure GovernanceProfile where
  validateAction : AgentAction → Bool × String
  validateExternalModel : AgentAction → CapabilityDefinition → Bool × String
  minimumApprovers : String → Except Exn Int
  /-- A model-context policy is configured. -/
  modelContext : Bool

/-- A `ProviderDataEgressBinding`, by its fingerprint and payload. -/
structure EgressBinding where
  fingerprint : String
  payload : Json
deriving DecidableEq

section
variable [Host]

structure WorkflowOrchestrator where
  policy : PolicyEngine
  sources : List SourceRule
  connectors : ConnectorRegistry
  capabilities : Option CapabilityCatalog
  governance : Option GovernanceProfile
  preEffectGuard : Bool
  /-- `audit_message_metadata`: a reason code and a digest of a message. -/
  messageMetadata : String → String → Json

end

/-! ## Reports -/

/-- What `connector.execute` returned: an `ExecutionResult` or something else. -/
inductive ExecutionOutcome where
  | result (r : ExecutionResult)
  | invalid
deriving DecidableEq

structure ActionReport where
  actionId : Uuid
  capability : String
  state : ActionState
  message : String
  result : Option ExecutionOutcome
  compensation : Option ExecutionResult
  egress : Option EgressBinding
deriving DecidableEq

/-- The events of a run in the audit log. -/
inductive AuditRecord where
  | planStarted
  | providerDataEgressAuthorized (a : AgentAction) (egress : EgressBinding)
  | sideEffectMayHaveOccurred (a : AgentAction) (r : ExecutionResult)
  | actionState (a : AgentAction) (report : ActionReport) (priorResult : Option Fields)
  | compensationStarted (actionCount : Nat)
  | compensationFinished (states : List (Uuid × ActionState))
  | planFinished (states : List (Uuid × ActionState)) (review : Json)

/-! ## Calls -/

inductive TransportPhase where
  | execution | verification | compensation | reconciliation
deriving DecidableEq, Repr

/-- What a run calls. -/
inductive Call where
  | now
  | record (e : AuditRecord)
  | claimAction (a : AgentAction)
  | completeAction (a : AgentAction) (token : String) (result : Json)
  | failAction (a : AgentAction) (token : String) (outcome : Json)
  | markActionIndeterminate (a : AgentAction) (token : String) (outcome : Json)
  | resolveIndeterminateAction (a : AgentAction) (expected completed : Json)
  | clearCompleted (a : AgentAction)
  | validateExecution (a : AgentAction) (c : Connector)
  | bindProviderDataEgress (a : AgentAction) (c : Connector)
  | sanitizeProviderResult (a : AgentAction) (r : ExecutionResult) (egress : EgressBinding)
  | preEffectGuard (a : AgentAction)
  | execute (c : Connector) (a : AgentAction)
  | verify (phase : TransportPhase) (c : Connector) (a : AgentAction) (r : ExecutionResult)
  | verifyCompleted (c : Connector) (a : AgentAction) (prior : Fields)
  | compensate (c : Connector) (a : AgentAction) (r : ExecutionResult)
  | verifyCompensation (c : Connector) (a : AgentAction) (original compensation : ExecutionResult)
  | idempotencyRecord (c : Connector) (a : AgentAction) (r : ExecutionOutcome)
  | resultAuditSummary (r : ExecutionOutcome)
  | postExecutionReview (states : List ActionState)

/-- What a call that does not raise answers. -/
abbrev Call.Value : Call → Type
  | now => Int
  | record _ | completeAction .. | failAction .. | markActionIndeterminate .. => Unit
  | resolveIndeterminateAction .. | clearCompleted _ | preEffectGuard _ => Unit
  | claimAction _ => IdempotencyClaim
  | validateExecution .. => Bool × String
  | bindProviderDataEgress .. => EgressBinding
  | sanitizeProviderResult .. => ExecutionResult
  | execute .. => ExecutionOutcome
  | verify .. | verifyCompleted .. | verifyCompensation .. => VerificationResult
  | compensate .. => ExecutionResult
  | idempotencyRecord .. => Fields
  | resultAuditSummary _ => Json
  | postExecutionReview _ => Json

/-- A call answers or raises. -/
abbrev Call.Answer (c : Call) : Type := Except Exn c.Value

/-! ## The state of a run -/

/-- `_ExecutedAction`. -/
structure ExecutedAction where
  action : AgentAction
  connector : Connector
  result : ExecutionResult
  reportIndex : Nat

/-- The local variables of `_run_internal`. -/
structure RunState where
  reports : List ActionReport
  stateById : Uuid → Option ActionState
  sideEffectsMayHaveOccurred : List ExecutedAction
  abortRemaining : Bool
  connector : Option Connector
  result : Option ExecutionOutcome
  claimToken : Option String
  egress : Option EgressBinding

/-- The state a run starts in. -/
def RunState.initial : RunState := ⟨[], fun _ => none, [], false, none, none, none, none⟩

/-- A procedure of a run. -/
abbrev Orchestration (A : Type) : Type := Proc RunState Call Call.Answer Exn A

/-- The events of a run. -/
abbrev Trace : Type := Proc.History RunState Call.Answer

/-- Make a call, and raise what it raises. -/
def perform (c : Call) : Orchestration c.Value :=
  Proc.call c >>= fun answer => Proc.lift answer

theorem wp_perform {point : Trace → RunState → Call → Prop} {c : Call}
    {Q : c.Value → RunState → Trace → Prop} {X : Exn → RunState → Trace → Prop} {s : RunState}
    {t : Trace} :
    Proc.wp point (perform c) Q X s t ↔ point t s c ∧
      (∀ v, Q v s (t ++ [⟨(s, c), .ok v⟩])) ∧ ∀ e, X e s (t ++ [⟨(s, c), .error e⟩]) := by
  unfold perform
  rw [Proc.wp_bind, Proc.wp_call]
  refine and_congr_right fun _ => ⟨fun h => ⟨fun v => h (.ok v), fun e => h (.error e)⟩, ?_⟩
  rintro ⟨returns, raises⟩ (e | v)
  · exact raises e
  · exact returns v

namespace RunState

/-- Append an action's report and note its state. -/
def report (s : RunState) (r : ActionReport) : RunState :=
  { s with
    reports := s.reports ++ [r]
    stateById := Function.update s.stateById r.actionId (some r.state) }

/-- Replace the report of an executed action. -/
def amend (s : RunState) (index : Nat) (r : ActionReport) : RunState :=
  { s with reports := s.reports.set index r }

/-- The variables of the next attempt. -/
def nextAttempt (s : RunState) : RunState :=
  { s with
    connector := none
    result := none
    claimToken := none
    egress := none }

variable (s : RunState) (r : ActionReport) (i : Nat)

@[simp] theorem stateById_report :
    (s.report r).stateById = Function.update s.stateById r.actionId (some r.state) := rfl
@[simp] theorem reports_amend : (s.amend i r).reports = s.reports.set i r := rfl

end RunState

end MasterAgent
