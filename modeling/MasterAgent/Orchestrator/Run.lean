import MasterAgent.Models.Limits
import MasterAgent.Orchestrator.Runtime

/-!
# A run of the orchestrator

`_run_internal` and the methods it calls, in their order of steps. Performance recording has no
effect on a run and is left out. Appending a report, recording it and compensating stand inside
or outside the `try` exactly as they do in the source, since it makes a difference who catches
what they raise.
-/

namespace MasterAgent
open Base

/-- `_uses_idempotency`. -/
def usesIdempotency (a : AgentAction) : Bool := isEffect a.risk

/-! ## Exception classes -/

namespace ExnKind

/-- `except (ConnectorError, KeyError, OSError, RuntimeError, TypeError, ValueError)`. -/
def reverificationCatches (k : ExnKind) : Bool :=
  k.isConnectorError || k.isTypeError || k.isValueError ||
    k == .keyError || k == .osError || k == .runtime

/-- The handler of `_maybe_compensate`: the same classes and `ValidationError`. -/
def compensationCatches (k : ExnKind) : Bool := k.reverificationCatches || k == .validation

/-- The last handler of the action loop: `KeyError`, `MasterAgentError`, `OSError`,
`OverflowError`, `RuntimeError`, `TypeError` and `ValueError`. -/
def actionLoopCatches (k : ExnKind) : Bool :=
  k.isMasterAgentError || k.isTypeError || k.isValueError ||
    k == .keyError || k == .osError || k == .overflow || k == .runtime

/-- `except (ConnectorError, KeyError, TypeError, ValueError)`. -/
def recordingCatches (k : ExnKind) : Bool :=
  k.isConnectorError || k.isTypeError || k.isValueError || k == .keyError

/-- `except (OSError, RuntimeError, sqlite3.Error, ConfigurationError)`. -/
def persistenceCatches (k : ExnKind) : Bool :=
  k == .osError || k == .runtime || k == .sqlite || k == .configuration

end ExnKind

/-- `f"{type(error).__name__}: {error}"`. -/
def Exn.render (e : Exn) : String := e.className ++ ": " ++ e.message

/-- Run a handler on the exceptions of some classes. -/
def catching {A : Type} (catches : ExnKind → Bool) (body : Orchestration A)
    (handler : Exn → Orchestration A) : Orchestration A :=
  Proc.tryCatch body fun e => if catches e.kind then handler e else Proc.throw e

theorem wp_catching {A : Type} {point : Trace → RunState → Call → Prop}
    {catches : ExnKind → Bool} {body : Orchestration A} {handler : Exn → Orchestration A}
    {Q : A → RunState → Trace → Prop} {X : Exn → RunState → Trace → Prop} {s : RunState}
    {t : Trace} :
    Proc.wp point (catching catches body handler) Q X s t ↔
      Proc.wp point body Q (fun e s t => if catches e.kind then
        Proc.wp point (handler e) Q X s t else X e s t) s t := by
  unfold catching
  rw [Proc.wp_tryCatch]
  apply iff_of_eq
  congr 1
  funext e s t
  split <;> rfl

/-! ## Reporting -/

/-- A report without a result. -/
def plainReport (a : AgentAction) (state : ActionState) (message : String) : ActionReport :=
  ⟨a.actionId, a.capability, state, message, none, none, none⟩

/-- `_record_action`. Building the payload is part of the call. -/
def recordAction (a : AgentAction) (r : ActionReport) (priorResult : Option Fields) :
    Orchestration Unit :=
  perform (.record (.actionState a r priorResult))

section
variable [Host] (o : WorkflowOrchestrator) (plan : ChangePlan)

/-! ## Compensation -/

/-- Why an executed action cannot be compensated automatically. -/
def compensationRefusal (item : ExecutedAction) : Option String :=
  match item.result.validateIntegrity with
  | .error e => some s!"compensation refused: {e.message}"
  | .ok _ =>
      match item.result.compensation with
      | none => some "reversible result omitted its compensation descriptor"
      | some descriptor =>
          if descriptor.mode = .manual then
            some ("automatic compensation is unavailable: " ++
              match descriptor.reason with
              | some reason => if reason = "" then descriptor.kind else reason
              | none => descriptor.kind)
          else if ¬item.connector.compensates then
            some "connector does not implement verified compensation"
          else none

omit [Host] in
/-- The report of an action that could not be compensated. -/
def compensationFailedReport (item : ExecutedAction) (message : String) : ActionReport :=
  ⟨item.action.actionId, item.action.capability, .compensationFailed, message,
    some (.result item.result), none, none⟩

/-- Verify the post-state, compensate, verify the compensation and clear the claim. -/
def attemptCompensation (item : ExecutedAction) : Orchestration Unit := do
  let a := item.action
  let c := item.connector
  let snapshot ← Proc.lift (copyExecutionResult item.result)
  let postcondition ← perform (.verify .compensation c a snapshot)
  if ¬postcondition.verified then
    Proc.throw (versionConflictError ("automatic compensation refused because the target no " ++
      "longer matches the agent's verified post-state"))
  else
    let snapshot ← Proc.lift (copyExecutionResult item.result)
    let compensation ← perform (.compensate c a snapshot)
    let snapshot ← Proc.lift (copyExecutionResult item.result)
    let copied ← Proc.lift (copyExecutionResult compensation)
    let verification ← perform (.verifyCompensation c a snapshot copied)
    if ¬verification.verified then
      Proc.throw (runtimeError s!"compensation verification failed: {verification.message}")
    else
      Proc.modify (·.amend item.reportIndex ⟨a.actionId, a.capability, .compensated,
        s!"compensated and verified: {verification.message}", some (.result item.result),
        some compensation, none⟩)
      perform (.clearCompleted a)

omit [Host] in
/-- Record what the report of an executed action says now. -/
def recordAmended (item : ExecutedAction) : Orchestration Unit := do
  let s ← Proc.get
  match s.reports[item.reportIndex]? with
  | some r => recordAction item.action r none
  | none => Proc.throw ⟨.other, "IndexError", "list index out of range"⟩

/-- One round of the compensation loop. -/
def compensateItem (item : ExecutedAction) : Orchestration Unit := do
  match compensationRefusal item with
  | some message =>
      Proc.modify (·.amend item.reportIndex (compensationFailedReport item message))
  | none =>
      catching ExnKind.compensationCatches (attemptCompensation item) fun e =>
        Proc.modify (·.amend item.reportIndex
          (compensationFailedReport item s!"compensation failed: {e.render}"))
  recordAmended item

omit [Host] in
/-- The states of the reports of the executed actions. -/
def executedStates (s : RunState) : List (Uuid × ActionState) :=
  s.sideEffectsMayHaveOccurred.filterMap fun item =>
    s.reports[item.reportIndex]?.map fun r => (item.action.actionId, r.state)

/-- `_maybe_compensate`. -/
def maybeCompensate (dryRun : Bool) : Orchestration Bool := do
  let s ← Proc.get
  if dryRun ∨ ¬plan.compensateOnFailure ∨ s.sideEffectsMayHaveOccurred = [] then return false
  else
    perform (.record (.compensationStarted s.sideEffectsMayHaveOccurred.length))
    Proc.each compensateItem s.sideEffectsMayHaveOccurred.reverse
    let s ← Proc.get
    perform (.record (.compensationFinished (executedStates s)))
    Proc.modify fun s => { s with sideEffectsMayHaveOccurred := [] }
    return true

/-- Report an action, record it and, if asked to, compensate. -/
def conclude (dryRun compensates : Bool) (a : AgentAction) (r : ActionReport)
    (priorResult : Option Fields) : Orchestration Unit := do
  Proc.modify (·.report r)
  recordAction a r priorResult
  if compensates then
    let abort ← maybeCompensate plan dryRun
    Proc.modify fun s => { s with abortRemaining := abort }

/-- Conclude with a state and a message, and compensate. -/
def refuse (dryRun : Bool) (a : AgentAction) (state : ActionState) (message : String) :
    Orchestration Unit :=
  conclude plan dryRun true a (plainReport a state message) none

/-! ## Checks before the attempt -/

/-- `_validate_capability`. -/
def validateCapability (a : AgentAction) : Except Exn (Bool × String) :=
  let catalog := match o.capabilities with
    | none => (true, "")
    | some catalog => catalog.validateAction a
  if ¬catalog.1 then .ok catalog
  else match o.governance with
    | none => .ok (true, "capability passed catalog and governance checks")
    | some governance =>
        if ¬(governance.validateAction a).1 then .ok (governance.validateAction a)
        else match o.capabilities with
          | none => .ok (true, "capability passed catalog and governance checks")
          | some catalog => do
              let definition ← catalog.definition a.capability
              if ¬(governance.validateExternalModel a definition).1 then
                return governance.validateExternalModel a definition
              else return (true, "capability passed catalog and governance checks")

/-- `_minimum_approvers`. -/
def minimumApprovers (a : AgentAction) : Except Exn Int :=
  match o.governance with
  | none => .ok 0
  | some governance =>
      match governance.minimumApprovers a.capability with
      | .ok minimum => .ok minimum
      | .error e => if e.kind = .configuration then .ok 1 else .error e

omit [Host] in
/-- `_dependency_succeeded`. -/
def dependencySucceeded (dryRun : Bool) : Option ActionState → Bool
  | some .verified | some .reused => true
  | some .planned => dryRun
  | _ => false

variable (approvals : List Approval)

/-- The checks of an action before its attempt. `true` when it may be attempted; otherwise it has
been concluded. -/
def screen (dryRun coherenceApprovalRequired : Bool) (a : AgentAction) : Orchestration Bool := do
  let (catalogOk, catalogReason) ← Proc.lift (validateCapability o a)
  if ¬catalogOk then
    refuse plan dryRun a .prohibited catalogReason
    return false
  else if coherenceApprovalRequired then
    let (sourceOk, sourceReason) ← Proc.lift (validateSources o.sources plan a)
    conclude plan dryRun false a
      (if sourceOk then plainReport a .approvalRequired
          "authenticated whole-plan strategy coherence review is required"
        else plainReport a .prohibited sourceReason) none
    return false
  else
    let s ← Proc.get
    let failed := a.dependencies.filter fun d => !dependencySucceeded dryRun (s.stateById d)
    if failed ≠ [] then
      conclude plan dryRun false a (plainReport a .skipped ("dependencies did not succeed: [" ++
        ", ".intercalate (failed.map fun d => "UUID('" ++ d.str ++ "')") ++ "]")) none
      return false
    else
      let (sourceOk, sourceReason) ← Proc.lift (validateSources o.sources plan a)
      if ¬sourceOk then
        refuse plan dryRun a .prohibited sourceReason
        return false
      else
        let minimum ← Proc.lift (minimumApprovers o a)
        let now ← perform .now
        let decision ← Proc.lift (o.policy.evaluate plan a approvals now minimum)
        if ¬decision.permitted then
          refuse plan dryRun a
            (if decision.approvalRequired then .approvalRequired else .prohibited) decision.reason
          return false
        else if dryRun then
          conclude plan dryRun false a
            (plainReport a .planned s!"permitted dry run: {decision.reason}") none
          return false
        else return true

/-! ## The attempt -/

/-- `_execution_connector_binding`. -/
def executionConnectorBinding (a : AgentAction) : Option ConnectorExecutionBinding :=
  let system := if ["microsoft", "sharepoint", "outlook", "teams", "onenote"].contains
      a.target.system then "microsoft" else a.target.system
  (plan.executionContext.elim [] (·.fields.connectors)).find? (·.fields.system == system)

/-- The connector mode of the plan's execution context. -/
def connectorMode : String :=
  ((plan.executionContext.bind (·.fields.runtime)).map (·.fields.connectorMode)).getD "live"

/-- `_validate_execution_contract`. The catalog's check reads the connector. -/
def validateExecutionContract (a : AgentAction) (c : Connector) : Orchestration (Bool × String) :=
  match o.capabilities with
  | none => return (true, "no capability catalog was configured")
  | some catalog => do
      let definition ← Proc.lift (catalog.definition a.capability)
      let providerBacked := definition.authentication ≠ "local"
      if providerBacked ∧ connectorMode plan = "mock" ∧ ¬c.isMock then
        return (false, "mock execution context requires a MockConnector")
      else if providerBacked ∧ connectorMode plan = "live" ∧ c.isMock then
        return (false, "live execution context cannot use a MockConnector")
      else perform (.validateExecution a c)

/-- `_provider_data_egress_binding`. -/
def providerDataEgressBinding (a : AgentAction) (c : Connector) :
    Orchestration (Option EgressBinding) :=
  if a.risk ≠ .readOnly then return none
  else match o.capabilities with
    | none =>
        if c.isMock then return none
        else Proc.throw (configurationError
          "provider reads require capability and governance policy")
    | some catalog => do
        let definition ← Proc.lift (catalog.definition a.capability)
        if definition.authentication = "local" then return none
        else match o.governance with
          | none => Proc.throw (configurationError
              "provider reads require capability and governance policy")
          | some governance =>
              if ¬governance.modelContext then
                Proc.throw (configurationError
                  "provider reads require configured model-context policy")
              else some <$> perform (.bindProviderDataEgress a c)

omit [Host] in
/-- What `_validate_idempotency_record` accepts of a member. -/
def idempotencyMemberChecks (member : String × Json) : List Check :=
  [(member.1 == "schema" || ["_accepted", "_count", "_digest", "_id", "_reference", "_status",
        "_version"].any fun suffix => suffix.toList.isSuffixOf member.1.toList,
      structuredDataTypeError "idempotency record contains content-bearing metadata"),
    (match member.2 with
      | .str _ | .bool _ | .int _ | .null => true
      | _ => false,
      structuredDataTypeError "idempotency record values must be scalar metadata"),
    (match member.2 with
      | .str s => s.utf8ByteSize ≤ 2048
      | _ => true,
      structuredDataTypeError "idempotency record value is too large")]

omit [Host] in
/-- `_validate_idempotency_record`. -/
def validateIdempotencyRecord (record : Fields) : Except Exn Json :=
  build (record.flatMap idempotencyMemberChecks ++
    [(decide (record.length ≤ 32), structuredDataTypeError "idempotency record has too many fields")])
    fun _ => .obj record

omit [Host] in
/-- The connector's own reconciliation record, if it gives a valid one. -/
def connectorRecord (c : Connector) (a : AgentAction) (r : ExecutionOutcome) :
    Orchestration (Option Json) :=
  catching ExnKind.recordingCatches
    (do
      let record ← perform (.idempotencyRecord c a r)
      let valid ← Proc.lift (validateIdempotencyRecord record)
      return some valid)
    (fun _ => return none)

omit [Host] in
/-- `_idempotency_record`. -/
def idempotencyRecord (c : Option Connector) (a : AgentAction) (r : ExecutionOutcome) :
    Orchestration Json := do
  let recorded ← match c.filter (·.recordsIdempotency) with
    | none => pure none
    | some connector => connectorRecord connector a r
  match recorded with
  | some record => return record
  | none => perform (.resultAuditSummary r)

/-- `_persist_idempotency_outcome` of the current attempt: whether its claim is settled. -/
def persistIdempotencyOutcome (a : AgentAction) (preEffect : Bool) (message : String) :
    Orchestration Bool := do
  let s ← Proc.get
  match s.claimToken with
  | none => return true
  | some token =>
      let error := ("error", o.messageMetadata message
        (if preEffect then "action_failed" else "action_indeterminate"))
      let outcome ← match s.result with
        | none => pure (Json.mkObj [error])
        | some r => do
            let record ← idempotencyRecord s.connector a r
            pure (Json.mkObj [error, ("result", record)])
      catching ExnKind.persistenceCatches
        (do
          if preEffect then perform (.failAction a token outcome)
          else perform (.markActionIndeterminate a token outcome)
          return true)
        (fun _ => return false)

/-- Report the reuse of a completed action. -/
def concludeReused (a : AgentAction) (message : String) (prior : Fields) : Orchestration Unit :=
  conclude plan false false a (plainReport a .reused message) (some prior)

/-- `connector.verify_completed`: its verdict, or what it raised. -/
def reverify (a : AgentAction) (c : Connector) (prior : Fields) :
    Orchestration (Except Exn VerificationResult) :=
  catching ExnKind.reverificationCatches
    (do
      let verification ← perform (.verifyCompleted c a prior)
      return .ok verification)
    (fun e => return .error e)

/-- A claim on a key that was completed before: reverify and reuse the effect. -/
def reuseCompleted (a : AgentAction) (c : Connector) (claim : IdempotencyClaim) :
    Orchestration Unit := do
  if ¬c.verifiesIdempotency then
    refuse plan false a .conflicted
      "prior idempotent completion cannot be independently reverified by this connector"
  else
    match ← reverify a c (claim.result.getD []) with
    | .error e =>
        refuse plan false a .conflicted
          s!"prior idempotent completion could not be independently reverified: {e.className}"
    | .ok verification =>
        if ¬verification.verified then
          refuse plan false a .conflicted
            s!"prior idempotent effect no longer verifies: {verification.message}"
        else
          concludeReused plan a
            "the same idempotent action already completed; verified result metadata reused"
            (claim.result.getD [])

/-- `_indeterminate_result`. -/
def indeterminateResult (outcome : Option Fields) : Option Fields :=
  match outcome.bind (List.lookup "result") with
  | some (.obj record) => some record
  | _ => none

/-- Reconcile a recorded effect against the provider: `none` when the action was concluded as
reused, otherwise why it was not. -/
def reconcile (a : AgentAction) (c : Connector) (claim : IdempotencyClaim) (record : Fields) :
    Orchestration (Option String) :=
  catching ExnKind.reverificationCatches
    (do
      let reconciliation ← perform (.verifyCompleted c a record)
      if ¬reconciliation.verified then
        return some s!"; reconciliation did not verify: {reconciliation.message}"
      else
        perform (.resolveIndeterminateAction a (.obj (claim.result.getD [])) (.obj record))
        concludeReused plan a ("durable indeterminate outcome was independently reconciled " ++
          "against provider state") record
        return none)
    (fun e => return some s!"; reconciliation did not verify: {e.className}")

/-- A claim on a key with an indeterminate outcome. -/
def reconcileIndeterminate (a : AgentAction) (c : Connector) (claim : IdempotencyClaim) :
    Orchestration Unit := do
  let pending ← match (indeterminateResult claim.result).filter fun _ => c.verifiesIdempotency with
    | none => pure (some "")
    | some record => reconcile plan a c claim record
  match pending with
  | none => return ()
  | some message =>
      refuse plan false a .conflicted ("idempotent action has a durable indeterminate outcome; " ++
        "provider reconciliation or operator resolution is required before retry" ++ message)

/-- Reserve the action's key. `true` when the attempt holds the reservation; otherwise the action
has been concluded. -/
def reserve (a : AgentAction) (c : Connector) : Orchestration Bool := do
  let claim ← perform (.claimAction a)
  match claim.state with
  | .completed => do
      reuseCompleted plan a c claim
      return false
  | .conflict => do
      refuse plan false a .conflicted "idempotency key is bound to a different action effect"
      return false
  | .inProgress => do
      refuse plan false a .conflicted "idempotent action is already in progress"
      return false
  | .indeterminate => do
      reconcileIndeterminate plan a c claim
      return false
  | .claimed | .failed => do
      Proc.modify fun s => { s with claimToken := claim.token }
      if claim.token = none then
        Proc.throw (runtimeError "idempotency claim omitted its token")
      else return true

/-- Bind a provider read to its egress route. `none` when the action has been concluded. -/
def authorizeEgress (a : AgentAction) (c : Connector) :
    Orchestration (Option (Option EgressBinding)) :=
  catching (· == .configuration)
    (do
      let egress ← providerDataEgressBinding o a c
      return some egress)
    (fun e => do
      refuse plan false a .prohibited e.str
      return none)

/-- Everything that precedes the call of the provider. `none` when the action has been
concluded. -/
def prepare (a : AgentAction) : Orchestration (Option Connector) := do
  let c ← Proc.lift (resolveConnector o.connectors a.target.system a.capability)
  Proc.modify fun s => { s with connector := some c }
  let (executionOk, executionReason) ← validateExecutionContract o plan a c
  if ¬executionOk then
    refuse plan false a .prohibited executionReason
    return none
  else
    match ← authorizeEgress o plan a c with
    | none => return none
    | some egress =>
        Proc.modify fun s => { s with egress := egress }
        match egress with
        | none => pure ()
        | some binding => perform (.record (.providerDataEgressAuthorized a binding))
        let _ ← Proc.lift (connectorHttpActionBudget c)
        if usesIdempotency a then
          if ← reserve plan a c then
            if o.preEffectGuard then perform (.preEffectGuard a)
            return some c
          else return none
        else return some c

omit [Host] in
/-- Note that an executed action may have to be compensated. -/
def noteExecuted (a : AgentAction) (c : Connector) (r : ExecutionResult) (s : RunState) :
    RunState :=
  { s with sideEffectsMayHaveOccurred := s.sideEffectsMayHaveOccurred ++
      [⟨a, c, r, s.reports.length⟩] }

/-- Call the provider and keep a private copy of what it returned. -/
def dispatch (a : AgentAction) (c : Connector) : Orchestration ExecutionResult := do
  let outcome ← perform (.execute c a)
  Proc.modify fun s => { s with result := some outcome }
  match outcome with
  | .invalid => Proc.throw (connectorError "connector returned an invalid execution result")
  | .result r =>
      if usesIdempotency a then perform (.record (.sideEffectMayHaveOccurred a r))
      let copied ← Proc.lift (copyExecutionResult r)
      Proc.modify fun s => { s with result := some (.result copied) }
      if a.risk = .reversibleWrite then Proc.modify (noteExecuted a c copied)
      Proc.lift (validateExecutionResult a copied)
      return copied

/-- Check again, before a provider read is returned, that its egress binding still holds, and
sanitize the result. What it raises is why the result is withheld. -/
def recheckEgress (a : AgentAction) (c : Connector) (r : ExecutionResult)
    (egress : EgressBinding) : Orchestration (Option Exn) :=
  catching (· == .configuration)
    (do
      let (executionOk, executionReason) ← validateExecutionContract o plan a c
      if ¬executionOk then Proc.throw (configurationError executionReason)
      let rechecked ← providerDataEgressBinding o a c
      if rechecked.map EgressBinding.fingerprint ≠ some egress.fingerprint then
        Proc.throw (configurationError
          "provider-data egress binding changed before result return")
      let sanitized ← perform (.sanitizeProviderResult a r egress)
      Proc.modify fun s => { s with result := some (.result sanitized) }
      return none)
    (fun e => return some e)

/-- The report of an action whose effect was verified. -/
def concludeVerified (a : AgentAction) (c : Connector) (r : ExecutionResult)
    (verification : VerificationResult) : Orchestration ActionReport := do
  let s ← Proc.get
  let withheld ← match s.egress with
    | none => pure none
    | some egress => recheckEgress o plan a c r egress
  let s ← Proc.get
  let report : ActionReport := {
    actionId := a.actionId
    capability := a.capability
    state := if withheld.isSome then .failed else .verified
    message := if withheld.isSome then
        "provider-data egress binding changed before result return"
      else if s.egress.isSome then "provider read independently verified"
      else verification.message
    result := if withheld.isSome then none else s.result
    compensation := none
    egress := s.egress }
  if usesIdempotency a then
    let record ← idempotencyRecord (some c) a (s.result.getD .invalid)
    perform (.completeAction a (s.claimToken.getD "") record)
  return report

/-- The body of the `try`. `none` when the action has been concluded. -/
def attempt (a : AgentAction) : Orchestration (Option ActionReport) := do
  match ← prepare o plan a with
  | none => return none
  | some c =>
      let r ← dispatch a c
      let snapshot ← Proc.lift (copyExecutionResult r)
      let verification ← perform (.verify .verification c a snapshot)
      if ¬verification.verified then
        let persisted ← persistIdempotencyOutcome o a false verification.message
        return some ⟨a.actionId, a.capability, .indeterminate,
          "connector may have produced a side effect but verification failed: " ++
            verification.message ++
            (if persisted then "" else "; durable outcome could not be finalized"),
          some (.result r), none, none⟩
      else
        let report ← concludeVerified o plan a c r verification
        return some report

/-! ### Handlers -/

/-- The handlers of `VersionConflictError` and `PreEffectError`: an error certified to precede the
effect fails the claim, unless the connector had already returned. -/
def handlePreEffect (a : AgentAction) (state : ActionState) (message after : String) :
    Orchestration ActionReport := do
  let s ← Proc.get
  let persisted ← if s.claimToken.isNone then pure s.result.isNone
    else do
      let persisted ← persistIdempotencyOutcome o a s.result.isNone message
      pure (s.result.isNone && persisted)
  return ⟨a.actionId, a.capability, if persisted then state else .indeterminate,
    message ++ (if persisted then "" else if s.result.isSome then after
      else "; durable failure outcome could not be recorded"), s.result, none, none⟩

/-- The handler of every other exception the action loop catches. -/
def handleUncertain (a : AgentAction) (e : Exn) : Orchestration ActionReport := do
  let persisted ← persistIdempotencyOutcome o a false e.render
  let s ← Proc.get
  return ⟨a.actionId, a.capability,
    if s.result.isSome ∨ s.claimToken.isSome then .indeterminate else .failed,
    e.render ++ (if persisted then "" else "; durable outcome could not be finalized"),
    s.result, none, none⟩

/-- The handlers of the `try`. -/
def handle (a : AgentAction) (e : Exn) : Orchestration (Option ActionReport) :=
  if e.kind = .versionConflict then
    some <$> handlePreEffect o a .conflicted e.str "; conflict occurred after connector execution"
  else if e.kind = .preEffect then
    some <$> handlePreEffect o a .failed e.render "; exception occurred after connector execution"
  else if e.kind.actionLoopCatches then some <$> handleUncertain o a e
  else Proc.throw e

omit [Host] in
/-- A failed provider read reports neither its result nor its message. -/
def withheldReport (egress : Option EgressBinding) (r : ActionReport) : ActionReport :=
  if egress.isSome ∧ r.state ≠ .verified then
    { r with
      message := s!"provider read failed after egress authorization: {r.state.str}"
      result := none
      compensation := none
      egress := egress }
  else r

/-! ## The loop -/

/-- Attempt an action that passed its checks, and conclude it. -/
def settle (a : AgentAction) : Orchestration Unit := do
  Proc.modify RunState.nextAttempt
  match ← Proc.tryCatch (attempt o plan a) (handle o a) with
  | none => return ()
  | some r =>
      let s ← Proc.get
      let r := withheldReport s.egress r
      conclude plan false r.state.isFailure a r none

/-- One round of the action loop. -/
def processAction (dryRun coherenceApprovalRequired : Bool) (a : AgentAction) :
    Orchestration Unit := do
  let s ← Proc.get
  if s.abortRemaining then
    conclude plan dryRun false a
      (plainReport a .skipped "plan stopped after a failure and compensation attempt") none
  else if ← screen o plan approvals dryRun coherenceApprovalRequired a then settle o plan a

omit [Host] in
/-- `_topological_order`. The search of a cyclic graph would exceed the recursion limit. -/
def topologicalOrder (actions : List AgentAction) : Except Exn (List AgentAction) :=
  match Graph.order (dependenciesOf actions) (actions.map (·.actionId)) with
  | some ids => .ok (ids.filterMap fun id => actions.find? (·.actionId = id))
  | none => .error ⟨.runtime, "RecursionError", "maximum recursion depth exceeded"⟩

/-- Whether a strategy coherence review is still missing. -/
def coherenceApprovalRequired (dryRun : Bool) (now : Int) : Except Exn Bool :=
  if dryRun then .ok false
  else (strategyCoherenceAuthenticated o.policy plan approvals now).map fun ok => !ok

end

structure RunReport where
  runId : Uuid
  planId : Uuid
  planFingerprint : String
  dryRun : Bool
  actions : List ActionReport
  systemsReview : Json

/-- `WorkflowOrchestrator.run`. -/
def run [Host] (o : WorkflowOrchestrator) (runId : Uuid) (plan : ChangePlan)
    (approvals : List Approval) (dryRun : Bool) : Orchestration RunReport := do
  let plan ← Proc.lift plan.executionSnapshot
  let coherenceNow ← perform .now
  let reviewNow ← perform .now
  let _ ← Proc.lift
    (enforceSystemsGovernance o.policy plan approvals false coherenceNow reviewNow)
  let now ← perform .now
  let coherenceRequired ← Proc.lift (coherenceApprovalRequired o plan approvals dryRun now)
  let ordered ← Proc.lift (topologicalOrder plan.actions)
  perform (.record .planStarted)
  Proc.each (processAction o plan approvals dryRun coherenceRequired) ordered
  let s ← Proc.get
  let review ← perform (.postExecutionReview (s.reports.map ActionReport.state))
  perform (.record (.planFinished (s.reports.map fun r => (r.actionId, r.state)) review))
  return {
    runId := runId
    planId := plan.planId
    planFingerprint := plan.fingerprint
    dryRun := dryRun
    actions := s.reports
    systemsReview := review }

/-! ## Sample runs -/

section

attribute [local instance] plainHost

def sampleConnector : Connector where
  name := "wiki"
  capabilities := []
  isMock := false
  verifiesIdempotency := true
  recordsIdempotency := false
  compensates := true
  httpLimits := none

/-- The page owns its body, and the copy projects it. -/
def sampleRule : SourceRule where
  field := "body"
  canonicalResource := ("wiki", "page", "7")
  projectionResources := [("wiki", "page", "8")]
  direction := "one_way"
  canonicalCapabilities := ["wiki.update"]
  projectionCapabilities := ["wiki.copy"]
  canonicalExtractors := [("wiki.update", ["body"])]
  projectionExtractors := [("wiki.copy", ["body"])]

def sampleOrchestrator : WorkflowOrchestrator where
  policy := ⟨⟨[.readOnly, .reversibleWrite], [], [], [], []⟩, none, none⟩
  sources := [sampleRule]
  connectors := [("wiki", [sampleConnector])]
  capabilities := none
  governance := none
  preEffectGuard := false
  messageMetadata := fun _ _ => .null

def sampleResult (a : AgentAction) : ExecutionResult where
  actionId := a.actionId
  state := .succeeded
  before := none
  after := none
  connectorReference := none
  message := "done"
  compensation := some ⟨⟨"undo", .inProcess, none, [], none, none, some "r",
    "master-agent/compensation@1"⟩, by decide⟩
  beforeDigest := resultStateDigest none
  afterDigest := resultStateDigest none

def sampleVerification (a : AgentAction) : VerificationResult := ⟨a.actionId, true, none, "ok"⟩

/-- Everything that is called does what it is asked for. -/
def smoothly : (c : Call) → c.Answer
  | .now => .ok 0
  | .record _ | .completeAction .. | .failAction .. | .markActionIndeterminate .. => .ok ()
  | .resolveIndeterminateAction .. | .clearCompleted _ | .preEffectGuard _ => .ok ()
  | .claimAction _ => .ok ⟨.claimed, some "t", none, none⟩
  | .validateExecution .. => .ok (true, "")
  | .bindProviderDataEgress .. => .ok ⟨"", .null⟩
  | .sanitizeProviderResult _ r _ => .ok r
  | .execute _ a => .ok (.result (sampleResult a))
  | .verify _ _ a _ | .verifyCompleted _ a _ | .verifyCompensation _ a _ _ =>
      .ok (sampleVerification a)
  | .compensate _ a _ => .ok (sampleResult a)
  | .idempotencyRecord .. => .ok []
  | .resultAuditSummary _ => .ok .null
  | .postExecutionReview _ => .ok .null

/-- The plan is small, so that a run begins with the plan itself. -/
theorem governedPlan_snapshot : governedPlan.executionSnapshot = .ok governedPlan := by
  have small : jsonNodes governedPlan.toDict ≤ MAX_JSON_COLLECTION_ITEMS ∧
      jsonBytes governedPlan.toDict ≤ MAX_JSON_STRING_CHARACTERS := by decide +kernel
  exact snapshot_of_small (by decide +kernel) small.1 small.2

/-- The first steps of a run of the sample plan, under given answers. -/
def driven (answer : Nat → (c : Call) → c.Answer) (n : Nat) :=
  Prog.drive (fun i (x : RunState × Call) => answer i x.2) 0 n
    (run sampleOrchestrator (numbered 9) governedPlan [] false RunState.initial)

/-- The key is bound to another effect, and the record of the first refusal raises. -/
def refusalUnrecorded (i : Nat) : (c : Call) → c.Answer
  | .claimAction _ => .ok ⟨.conflict, none, none, none⟩
  | .record _ => if i = 6 then .error (runtimeError "the log is locked") else .ok ()
  | call => smoothly call

/-- The provider refuses one action before it has an effect. -/
def refusing (id : Uuid) : (c : Call) → c.Answer
  | .execute _ a =>
      if a.actionId = id then .error ⟨.preEffect, "PreEffectError", "refused"⟩
      else .ok (.result (sampleResult a))
  | call => smoothly call

/-- The action a call of a provider is made for. -/
def Call.executed : Call → Option (Connector × AgentAction)
  | .execute c a => some (c, a)
  | _ => none

/-- A failure is recorded while executed writes wait to be rolled back. -/
def failsWaiting (x : RunState × Call) : Bool :=
  match x.2 with
  | .record (.actionState _ r _) => r.state.isFailure && !x.1.sideEffectsMayHaveOccurred.isEmpty
  | _ => false

/-- The returned report has the property. -/
def returnsReport (p : RunReport → Bool)
    (program : Prog (RunState × Call) (fun x => x.2.Answer) (Except Exn RunReport × RunState)) :
    Bool :=
  program.result.any fun x => x.1.toOption.any p

/-- What becomes of the sample plan: under smooth answers it reaches the copy and returns; a
refusal that cannot be recorded adds a report; and it depends on which write is refused whether
the others are rolled back. -/
theorem driven_outcomes :
    (driven (fun _ => smoothly) 14).2.awaited.bind (·.2.executed) =
      some (sampleConnector, sampleCopy) ∧
    returnsReport (fun _ => true) (driven (fun _ => smoothly) 40).2 = true ∧
    returnsReport (fun report => !(report.actions.length == 3)) (driven refusalUnrecorded 40).2 =
      true ∧
    returnsReport (fun report => report.actions.any (·.state.isFailure) &&
      report.actions.any fun r => r.actionId == numbered 3 && r.state == .verified)
      (driven (fun _ => refusing (numbered 1)) 40).2 = true ∧
    (driven (fun _ => refusing (numbered 3)) 60).1.any (fun e => failsWaiting e.1) = true ∧
    returnsReport (fun report => report.actions.any (·.state.isFailure))
      (driven (fun _ => refusing (numbered 3)) 60).2 = true := by
  unfold driven run
  rw [governedPlan_snapshot]
  decide +kernel

end

end MasterAgent
