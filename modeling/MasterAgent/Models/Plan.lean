import MasterAgent.Base.Graph
import MasterAgent.Models.ExecutionContext

/-!
# Change plans

An immutable set of actions with its execution context and systems governance.

Results:

1. `fromDict_toDict`: what decoding a serialized plan yields, if it yields anything, is the plan
   itself without in-process admission;
2. `toDict_inj`: the serialized form determines every compared field;
3. `plan_codec_fidelity`: both, with the fingerprints that follow.
-/

namespace MasterAgent
open Base

section
variable [Host]

structure ChangePlanFields where
  goal : String
  actions : List AgentAction
  createdBy : String
  planId : Uuid
  createdAt : Datetime
  schemaVersion : String
  workflowId : Option String
  workflowFingerprint : Option String
  compensateOnFailure : Bool
  executionContext : Option ExecutionContext
  systemsAssessment : Option SystemsAssessment
  systemsDecision : Option SystemsGateDecision
  strategyTraces : List StrategyActionTrace
  strategyCoherenceReview : Option StrategyCoherenceReview
deriving DecidableEq

/-! ## Dependencies -/

omit [Host] in
/-- The dependencies of the action with an identifier. -/
def dependenciesOf (actions : List AgentAction) (id : Uuid) : List Uuid :=
  (actions.find? (·.actionId = id)).elim [] (·.dependencies)

/-- `_validate_acyclic`. The successors of a node are walked in the order they are listed; the
result does not depend on the order. -/
def validateAcyclic (actions : List AgentAction) : Check :=
  require (match Graph.search (dependenciesOf actions) (actions.map (·.actionId)) with
    | .ok _ => true
    | .error _ => false) "action dependency graph contains a cycle"

/-! ## Checks -/

namespace ChangePlanFields

/-- What binds a gate decision to an assessment and a review. -/
def bindingChecks (x : ChangePlanFields) : List Check :=
  require (x.systemsAssessment.isNone == x.systemsDecision.isNone)
    "systems assessment and gate decision must be supplied together" ::
  match x.systemsAssessment, x.systemsDecision with
  | some assessment, some decision =>
      [require decision.permitted "a denied systems decision cannot bind a plan",
        require (decision.assessmentFingerprint == assessment.fingerprint)
          "systems gate decision is not bound to the plan assessment",
        require (decision.complexityScore == assessment.complexityScore)
          "systems gate decision complexity does not match the assessment",
        require (decision.strategyCoherenceReviewFingerprint ==
            x.strategyCoherenceReview.map StrategyCoherenceReview.fingerprint)
          "systems gate decision does not match the strategy coherence review"]
  | _, _ => []

/-- The requirements on the plan's own texts. -/
def textChecks (x : ChangePlanFields) : List Check :=
  [require (!isBlank x.goal) "goal must not be empty",
    validateBoundedString x.goal "goal",
    rejectControlCharacters x.goal "goal",
    require (!isBlank x.createdBy) "created_by must not be empty",
    validateBoundedString x.createdBy "created_by",
    require (x.workflowId.all (!isBlank ·)) "workflow_id must not be empty when supplied",
    require (x.workflowFingerprint.all (!isBlank ·))
      "workflow_fingerprint must not be empty when supplied",
    require (!(x.workflowFingerprint.isSome && x.workflowId.isNone))
      "workflow_fingerprint requires workflow_id"] ++
  x.workflowId.toList.map (validateBoundedString · "workflow_id") ++
  x.workflowFingerprint.toList.map (validateBoundedString · "workflow_fingerprint")

/-- The aggregate parameter bytes stay within the plan's budget at every action. -/
def parameterChecks : Nat → List AgentAction → List Check
  | _, [] => []
  | bytes, action :: rest =>
      match measureJsonResources "action parameters" MAX_ACTION_PARAMETER_BYTES
          (.obj action.parameters) with
      | .error e => [(false, e)]
      | .ok usage =>
          require (bytes + usage.scalarBytes ≤ MAX_PLAN_PARAMETER_BYTES)
            "change plan exceeds the aggregate parameter-byte limit" ::
          parameterChecks (bytes + usage.scalarBytes) rest

/-- Every dependency is an action of the plan. -/
def dependencyChecks (actions : List AgentAction) : List Check :=
  actions.map fun action =>
    let unknown := action.dependencies.filter fun d => !(actions.map (·.actionId)).contains d
    require (unknown = []) (s!"action {action.actionId.str} has unknown dependencies: " ++
      ", ".intercalate (unknown.map Uuid.str))

/-- The governance binding fits the plan's byte budget. -/
def governanceFits (x : ChangePlanFields) : List Check :=
  match x.systemsAssessment with
  | none => []
  | some assessment =>
      fits "systems governance binding" MAX_PLAN_BYTES (.mkObj [
        ("systems_assessment", assessment.toDict),
        ("systems_decision", x.systemsDecision.elim .null SystemsGateDecision.toDict),
        ("strategy_coherence_review",
          x.strategyCoherenceReview.elim .null StrategyCoherenceReview.toDict)])

/-- What `ChangePlan.__post_init__` requires. -/
def checks (x : ChangePlanFields) : List Check :=
  x.bindingChecks ++ x.textChecks ++
  [require (x.actions.length ≤ MAX_PLAN_ACTIONS)
      s!"change plan exceeds the {MAX_PLAN_ACTIONS}-action limit",
    require (x.strategyTraces.length ≤ MAX_PLAN_ACTIONS)
      s!"change plan exceeds the {MAX_PLAN_ACTIONS}-strategy-trace limit",
    require (x.actions ≠ []) "a change plan must contain at least one action"] ++
  parameterChecks 0 x.actions ++
  [require (x.actions.map (·.actionId)).Nodup "action IDs must be unique",
    require (x.actions.map (·.idempotencyKey)).Nodup
      "idempotency keys must be unique within a plan"] ++
  dependencyChecks x.actions ++ [validateAcyclic x.actions] ++ x.governanceFits

end ChangePlanFields

/-- A plan. The admission mark is set in process by a trusted binder; it is neither serialized
nor compared. -/
structure ChangePlan extends ChangePlanFields where
  valid : firstError toChangePlanFields.checks = none
  trustedStrategyCoherenceAdmission : Bool

namespace ChangePlan

def make (x : ChangePlanFields) : Except Exn ChangePlan :=
  build x.checks fun valid => ⟨x, valid, false⟩

/-! ## Codec -/

def toDict (p : ChangePlan) : Json :=
  .mkObj ([("schema_version", .str p.schemaVersion),
    ("plan_id", .str p.planId.str),
    ("goal", .str p.goal),
    ("created_by", .str p.createdBy),
    ("created_at", .str p.createdAt.isoformat),
    ("workflow_id", optStr p.workflowId),
    ("workflow_fingerprint", optStr p.workflowFingerprint),
    ("compensate_on_failure", .bool p.compensateOnFailure),
    ("actions", .arr (p.actions.map AgentAction.toDict))] ++
    optField "execution_context" (p.executionContext.map ExecutionContext.toDict) ++
    optField "strategy_traces" (if p.strategyTraces = [] then none
      else some (.arr (p.strategyTraces.map StrategyActionTrace.toDict))) ++
    optField "strategy_coherence_review"
      (p.strategyCoherenceReview.map StrategyCoherenceReview.toDict) ++
    optField "systems_assessment" (p.systemsAssessment.map SystemsAssessment.toDict) ++
    optField "systems_decision"
      (p.systemsAssessment.bind fun _ => p.systemsDecision.map SystemsGateDecision.toDict))

/-- `ChangePlan.fingerprint`. -/
def fingerprint (p : ChangePlan) : String := stableSha256 p.toDict

/-- `datetime.fromisoformat(text)`. -/
def parseDatetime (text : String) : Except Exn Datetime :=
  match Datetime.fromIsoformat text with
  | some d => .ok d
  | none => .error (valueError ("Invalid isoformat string: '" ++ text ++ "'"))

/-- A nested record that is decoded only when it is present. -/
def optionalRecord {R : Type} (fromDict : Json → Except Exn R) (data : Json) (key : String) :
    Except Exn (Option R) :=
  if (present data key).isSome then do
    let value ← expectMapping data key
    (fromDict value).map some
  else .ok none

/-- The actions of a plan payload. -/
def decodeActions (data : Json) : Except Exn (List Json) :=
  match data.get? "actions" with
  | some (.arr items) =>
      if items.length > MAX_PLAN_ACTIONS then
        .error (validationError s!"change plan exceeds the {MAX_PLAN_ACTIONS}-action limit")
      else if items.all isObject then .ok items
      else .error (validationError "actions must contain objects")
  | _ => .error (validationError "actions must be a list")

/-- `ChangePlan.from_dict` after the resource limits. -/
def decode (data : Json) : Except Exn ChangePlan := do
  let actionsData ← decodeActions data
  let tracesData ← objectList (some ((data.get? "strategy_traces").getD (.arr [])))
    (validationError "strategy_traces must contain objects")
  let planId ← parseUuid (← itemStr data "plan_id")
  let goal ← itemStr data "goal"
  let createdBy ← itemStr data "created_by"
  let createdAt ← parseDatetime (← itemStr data "created_at")
  let compensateOnFailure ← strictBool
    (some ((data.get? "compensate_on_failure").getD (.bool false))) "compensate_on_failure"
  let executionContext ← optionalRecord ExecutionContext.fromDict data "execution_context"
  let systemsAssessment ← optionalRecord SystemsAssessment.fromDict data "systems_assessment"
  let systemsDecision ← optionalRecord SystemsGateDecision.fromDict data "systems_decision"
  let strategyTraces ← tracesData.mapM StrategyActionTrace.fromDict
  let strategyCoherenceReview ← optionalRecord StrategyCoherenceReview.fromDict data
    "strategy_coherence_review"
  let actions ← actionsData.mapM AgentAction.fromDict
  make {
    schemaVersion := getStr data "schema_version" "1.0"
    workflowId := getOptStr data "workflow_id"
    workflowFingerprint := getOptStr data "workflow_fingerprint"
    planId, goal, createdBy, createdAt, compensateOnFailure, executionContext,
    systemsAssessment, systemsDecision, strategyTraces, strategyCoherenceReview, actions }

/-- `ChangePlan.from_dict`. -/
def fromDict (data : Json) : Except Exn ChangePlan := do
  let _ ← measureJsonResources "change plan" MAX_PLAN_BYTES data
  decode data

/-- `ChangePlan.execution_snapshot`. -/
def executionSnapshot (p : ChangePlan) : Except Exn ChangePlan := do
  let snapshot ← fromDict p.toDict
  return if p.trustedStrategyCoherenceAdmission
    then { snapshot with trustedStrategyCoherenceAdmission := true } else snapshot

/-! ## Fidelity -/

omit [Host] in
/-- A nested record is read back from the member it was written to. -/
theorem optionalRecord_read {R : Type} {toDict : R → Json} {fromDict : Json → Except Exn R}
    (decode : ∀ x, fromDict (toDict x) = .ok x) (object : ∀ x, isObject (toDict x) = true)
    {data : Json} {key : String} {value : Option R}
    (member : data.get? key = value.map toDict) :
    optionalRecord fromDict data key = .ok value := by
  unfold optionalRecord present expectMapping
  rw [member]
  cases value with
  | none => rfl
  | some x =>
      simp only [Option.map_some, Option.filter_some, object_not_null (object x), Bool.not_false,
        reduceIte, Option.isSome_some, object, ok_bind, decode, Except.map]

/-- The checks a constructed plan has passed. -/
theorem check_holds (p : ChangePlan) {c : Check} (h : c ∈ p.checks) : c.1 = true :=
  firstError_none.mp p.valid c h

/-- A plan carries a decision exactly when it carries an assessment. -/
theorem governed_iff (p : ChangePlan) :
    p.systemsAssessment.isNone = p.systemsDecision.isNone := by
  have check := p.check_holds (c := require (p.systemsAssessment.isNone ==
    p.systemsDecision.isNone) "systems assessment and gate decision must be supplied together")
    (by simp [ChangePlanFields.checks, ChangePlanFields.bindingChecks])
  simpa [require] using check

/-- So the decision is always written. -/
theorem decision_written (p : ChangePlan) :
    (p.systemsAssessment.bind fun _ => p.systemsDecision.map SystemsGateDecision.toDict) =
      p.systemsDecision.map SystemsGateDecision.toDict := by
  have paired := p.governed_iff
  cases assessment : p.systemsAssessment with
  | some _ => rfl
  | none =>
      rw [assessment, Option.isNone_none, eq_comm, Option.isNone_iff_eq_none] at paired
      rw [paired]
      rfl

theorem actions_bounded (p : ChangePlan) : p.actions.length ≤ MAX_PLAN_ACTIONS := by
  have check := p.check_holds (c := require (p.actions.length ≤ MAX_PLAN_ACTIONS)
    s!"change plan exceeds the {MAX_PLAN_ACTIONS}-action limit")
    (by simp [ChangePlanFields.checks])
  simpa [require] using check

theorem decodeActions_toDict (p : ChangePlan) :
    decodeActions p.toDict = .ok (p.actions.map AgentAction.toDict) := by
  have objects : (p.actions.map AgentAction.toDict).all isObject = true := by
    simp [AgentAction.toDict]
  simp only [decodeActions, toDict, Json.get?_mkObj, List.lookup_append, Json.lookup_cons,
    String.reduceEq, reduceIte, Option.some_or, List.length_map, not_lt.mpr p.actions_bounded,
    objects]

theorem get?_traces (p : ChangePlan) : (p.toDict.get? "strategy_traces").getD (.arr []) =
    .arr (p.strategyTraces.map StrategyActionTrace.toDict) := by
  simp only [toDict, Json.get?_mkObj, List.lookup_append, Json.lookup_cons, String.reduceEq,
    reduceIte, List.lookup_nil, lookup_optField, Option.none_or, Option.or_none]
  split
  · next empty => rw [empty]; rfl
  · rfl

theorem decode_toDict (p : ChangePlan) :
    decode p.toDict = .ok { p with trustedStrategyCoherenceAdmission := false } := by
  have context : optionalRecord ExecutionContext.fromDict p.toDict "execution_context" =
      .ok p.executionContext :=
    optionalRecord_read ExecutionContext.fromDict_toDict (fun _ => rfl) (by
      simp only [toDict, Json.get?_mkObj, List.lookup_append, Json.lookup_cons, String.reduceEq,
        reduceIte, List.lookup_nil, lookup_optField, Option.none_or, Option.or_none])
  have assessment : optionalRecord SystemsAssessment.fromDict p.toDict "systems_assessment" =
      .ok p.systemsAssessment :=
    optionalRecord_read SystemsAssessment.fromDict_toDict (fun _ => rfl) (by
      simp only [toDict, Json.get?_mkObj, List.lookup_append, Json.lookup_cons, String.reduceEq,
        reduceIte, List.lookup_nil, lookup_optField, Option.none_or, Option.or_none])
  have decision : optionalRecord SystemsGateDecision.fromDict p.toDict "systems_decision" =
      .ok p.systemsDecision :=
    optionalRecord_read SystemsGateDecision.fromDict_toDict (fun _ => rfl) (by
      simp only [toDict, Json.get?_mkObj, List.lookup_append, Json.lookup_cons, String.reduceEq,
        reduceIte, List.lookup_nil, lookup_optField, Option.none_or, p.decision_written])
  have review : optionalRecord StrategyCoherenceReview.fromDict p.toDict
      "strategy_coherence_review" = .ok p.strategyCoherenceReview :=
    optionalRecord_read StrategyCoherenceReview.fromDict_toDict (fun _ => rfl) (by
      simp only [toDict, Json.get?_mkObj, List.lookup_append, Json.lookup_cons, String.reduceEq,
        reduceIte, List.lookup_nil, lookup_optField, Option.none_or, Option.or_none])
  have traces := mapM_decode StrategyActionTrace.fromDict_toDict p.strategyTraces
  have actions := mapM_decode AgentAction.fromDict_toDict p.actions
  unfold decode
  rw [decodeActions_toDict, get?_traces, context, assessment, decision, review]
  simp only [toDict, itemStr, item, getStr, getOptStr, present, strictBool, Json.get?_mkObj,
    List.lookup_append, Json.lookup_cons, String.reduceEq, reduceIte, Option.some_or,
    Except.map, pyStr_str, ok_bind, Option.getD_some, Option.elim_some, map_optStr,
    parseUuid_str, parseDatetime, Datetime.fromIsoformat_isoformat]
  rw [objectList_map fun _ => rfl, ok_bind, traces, ok_bind, actions, ok_bind]
  exact build_ok p.valid

/-- What decoding a serialized plan yields, if it yields anything. Only the resource limits of
the whole payload can refuse it. -/
theorem fromDict_toDict {p q : ChangePlan} (h : fromDict p.toDict = .ok q) :
    q = { p with trustedStrategyCoherenceAdmission := false } := by
  unfold fromDict at h
  cases limits : measureJsonResources "change plan" MAX_PLAN_BYTES p.toDict with
  | error e => rw [limits] at h; cases h
  | ok usage =>
      rw [limits, ok_bind, decode_toDict] at h
      exact (Except.ok.inj h).symm

/-- A plan within the limits is decoded. -/
theorem fromDict_fits {p : ChangePlan}
    (h : (measureJsonResources "change plan" MAX_PLAN_BYTES p.toDict).isOk = true) :
    fromDict p.toDict = .ok { p with trustedStrategyCoherenceAdmission := false } := by
  unfold fromDict
  cases limits : measureJsonResources "change plan" MAX_PLAN_BYTES p.toDict with
  | error e => rw [limits] at h; cases h
  | ok usage => rw [ok_bind, decode_toDict]

/-- The serialized form determines every compared field. -/
theorem toDict_inj {p q : ChangePlan} (h : p.toDict = q.toDict) :
    p.toChangePlanFields = q.toChangePlanFields := by
  have back := decode_toDict p
  rw [h, decode_toDict q] at back
  have same := congrArg ChangePlan.toChangePlanFields (Except.ok.inj back)
  exact same.symm

/-- An approved snapshot is the plan itself. -/
theorem executionSnapshot_eq {p q : ChangePlan} (h : p.executionSnapshot = .ok q) : q = p := by
  unfold executionSnapshot at h
  cases decoded : fromDict p.toDict with
  | error e => rw [decoded] at h; cases h
  | ok snapshot =>
      rw [decoded, ok_bind, pure_ok] at h
      rw [← Except.ok.inj h, fromDict_toDict decoded]
      cases p with
      | mk fields valid trusted => cases trusted <;> rfl

/-- The two texts are not a collision of the digest. -/
def NoCollision (s t : String) : Prop := Host.sha256 s = Host.sha256 t → s = t

/-- Two plans with one fingerprint agree in every compared field. -/
theorem fingerprint_inj {p q : ChangePlan} (ideal : NoCollision p.toDict.dumps q.toDict.dumps)
    (h : p.fingerprint = q.fingerprint) : p.toChangePlanFields = q.toChangePlanFields :=
  toDict_inj (Json.dumps_inj (ideal h))

end ChangePlan

end

/-! ### A plan of one action -/

/-- An identifier whose last digit is `n`. -/
def numbered (n : Nat) : Uuid := Uuid.endingIn n

def samplePage : ResourceRef := ⟨"wiki", "page", "7", some "3", by decide⟩

def sampleWrite : AgentAction where
  capability := "wiki.update"
  target := samplePage
  parameters := [("body", .str "hello"), ("tags", .arr [.str "a", .int 1])]
  risk := .reversibleWrite
  authoritySource := .directUser
  requiresApproval := false
  idempotencyKey := "k"
  justification := "sync"
  dataClassification := .internal
  dependencies := []
  actionId := numbered 1
  valid := by decide

def samplePlan [Host] (actions : List AgentAction) : ChangePlanFields where
  goal := "sync"
  actions := actions
  createdBy := "me"
  planId := numbered 0
  createdAt := ⟨2026, 1, 2, 3, 4, 7, 0, some 0, by decide⟩
  schemaVersion := "2.0"
  workflowId := none
  workflowFingerprint := none
  compensateOnFailure := false
  executionContext := none
  systemsAssessment := none
  systemsDecision := none
  strategyTraces := []
  strategyCoherenceReview := none

/-- The plan that writes one page. -/
def samplePlanOne : @ChangePlan spellingHost :=
  let := spellingHost
  { toChangePlanFields := samplePlan [sampleWrite]
    valid := by decide
    trustedStrategyCoherenceAdmission := true }

end MasterAgent
