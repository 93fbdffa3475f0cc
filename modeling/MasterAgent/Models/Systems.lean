import MasterAgent.Models.Resources

/-!
# Systems governance records

The assessment, strategy, coherence review and gate decision a plan may carry, with the checks
of their constructors and their JSON codecs. Result: for each record, decoding what was
encoded gives the record back (`fromDict_toDict`).
-/

namespace MasterAgent
open Base

/-! ## Enumerations -/

/-- Look a serialized member of an enumeration up (`Enum(value)`). -/
def parseEnum {E : Type} (members : List E) (str : E → String) (name value : String) :
    Except Exn E :=
  match members.find? fun m => str m == value with
  | some m => .ok m
  | none => .error (valueError ("'" ++ value ++ "' is not a valid " ++ name))

inductive RiskLevel where
  | readOnly | localGeneration | reversibleWrite | externalCommunication | highImpact
  | destructive
deriving DecidableEq, Repr

namespace RiskLevel

def str : RiskLevel → String
  | readOnly => "read_only"
  | localGeneration => "local_generation"
  | reversibleWrite => "reversible_write"
  | externalCommunication => "external_communication"
  | highImpact => "high_impact"
  | destructive => "destructive"

def parse : String → Except Exn RiskLevel :=
  parseEnum [readOnly, localGeneration, reversibleWrite, externalCommunication, highImpact,
    destructive] str "RiskLevel"

@[simp]
theorem parse_str (r : RiskLevel) : parse r.str = .ok r := by cases r <;> rfl

end RiskLevel

inductive SystemsGateRoute where
  | fastPath | gated
deriving DecidableEq, Repr

namespace SystemsGateRoute

def str : SystemsGateRoute → String
  | fastPath => "fast_path"
  | gated => "gated"

def parse : String → Except Exn SystemsGateRoute :=
  parseEnum [fastPath, gated] str "SystemsGateRoute"

@[simp]
theorem parse_str (r : SystemsGateRoute) : parse r.str = .ok r := by cases r <;> rfl

end SystemsGateRoute

inductive ComplexityKind where
  | dependency | persistentService | agent | configurationSurface | authoritativeDocument
  | stateStore | connector | userWorkflow
deriving DecidableEq, Repr

namespace ComplexityKind

def str : ComplexityKind → String
  | dependency => "dependency"
  | persistentService => "persistent_service"
  | agent => "agent"
  | configurationSurface => "configuration_surface"
  | authoritativeDocument => "authoritative_document"
  | stateStore => "state_store"
  | connector => "connector"
  | userWorkflow => "user_workflow"

def parse : String → Except Exn ComplexityKind :=
  parseEnum [dependency, persistentService, agent, configurationSurface, authoritativeDocument,
    stateStore, connector, userWorkflow] str "ComplexityKind"

@[simp]
theorem parse_str (k : ComplexityKind) : parse k.str = .ok k := by cases k <;> rfl

/-- `_COMPLEXITY_WEIGHTS`. -/
def weight : ComplexityKind → Int
  | persistentService | agent | stateStore => 2
  | _ => 1

end ComplexityKind

/-! ## Complexity items -/

def complexityItemChecks (description : String) : List Check :=
  requireSystemsText description "complexity item description"

structure ComplexityItem where
  kind : ComplexityKind
  description : String
  valid : firstError (complexityItemChecks description) = none
deriving DecidableEq

namespace ComplexityItem

def make (kind : ComplexityKind) (description : String) : Except Exn ComplexityItem :=
  build (complexityItemChecks description) fun valid => ⟨kind, description, valid⟩

def weight (x : ComplexityItem) : Int := x.kind.weight

def toDict (x : ComplexityItem) : Json :=
  .mkObj [("kind", .str x.kind.str), ("description", .str x.description),
    ("weight", .int x.weight)]

def fromDict [Host] (data : Json) : Except Exn ComplexityItem := do
  let kind ← ComplexityKind.parse (getStr data "kind" "")
  let item ← make kind (getStr data "description" "")
  let suppliedWeight ← strictInt (data.get? "weight") "complexity item weight"
  if suppliedWeight ≠ item.weight then
    .error (validationError "complexity item weight does not match its kind")
  else .ok item

theorem make_self (x : ComplexityItem) : make x.kind x.description = .ok x :=
  build_ok x.valid

theorem fromDict_toDict [Host] (x : ComplexityItem) : fromDict x.toDict = .ok x := by
  simp [fromDict, toDict, getStr, List.lookup_cons, strictInt, make_self]

end ComplexityItem

/-! ## Strategy -/

def strategyActionIntentChecks (schema intentId description expectedEffect : String) :
    List Check :=
  [require (schema == "master-agent/strategy-action-intent@1")
      "unsupported strategy action intent schema",
    require (isIdentifier intentId) "strategy action intent ID is invalid"] ++
    requireSystemsText description "strategy action description" ++
    requireSystemsText expectedEffect "strategy expected effect"

structure StrategyActionIntent where
  intentId : String
  description : String
  expectedEffect : String
  schema : String
  valid : firstError (strategyActionIntentChecks schema intentId description expectedEffect) = none
deriving DecidableEq

namespace StrategyActionIntent

def make (schema intentId description expectedEffect : String) :
    Except Exn StrategyActionIntent :=
  build (strategyActionIntentChecks schema intentId description expectedEffect) fun valid =>
    ⟨intentId, description, expectedEffect, schema, valid⟩

def toDict (x : StrategyActionIntent) : Json :=
  .mkObj [("schema", .str x.schema), ("intent_id", .str x.intentId),
    ("description", .str x.description), ("expected_effect", .str x.expectedEffect)]

def fromDict [Host] (data : Json) : Except Exn StrategyActionIntent :=
  make (getStr data "schema" "") (getStr data "intent_id" "") (getStr data "description" "")
    (getStr data "expected_effect" "")

theorem fromDict_toDict [Host] (x : StrategyActionIntent) : fromDict x.toDict = .ok x := by
  simp only [fromDict, toDict, getStr, Json.get?_mkObj, Json.lookup_cons]
  exact build_ok x.valid

end StrategyActionIntent

def strategyKernelChecks (schema diagnosis guidingPolicy proximateObjective : String)
    (tradeoffs : List String) (coherentActions : List StrategyActionIntent) : List Check :=
  [require (schema == "master-agent/strategy-kernel@1") "unsupported strategy kernel schema"] ++
    requireSystemsText diagnosis "strategy diagnosis" ++
    requireSystemsText guidingPolicy "strategy guiding_policy" ++
    requireSystemsText proximateObjective "strategy proximate_objective" ++
    [require (tradeoffs.length ≤ MAX_PLAN_ACTIONS)
      s!"strategy kernel exceeds the {MAX_PLAN_ACTIONS}-tradeoff limit"] ++
    tradeoffs.flatMap (requireSystemsText · "strategy tradeoffs") ++
    [require (tradeoffs ≠ []) "strategy kernel must state at least one tradeoff",
      require (coherentActions.length ≤ MAX_PLAN_ACTIONS)
        s!"strategy kernel exceeds the {MAX_PLAN_ACTIONS}-intent limit",
      require (coherentActions ≠ [])
        "strategy kernel must contain coherent StrategyActionIntent values",
      require (coherentActions.map StrategyActionIntent.intentId).Nodup
        "strategy coherent action IDs must be unique"]

structure StrategyKernel where
  diagnosis : String
  guidingPolicy : String
  proximateObjective : String
  tradeoffs : List String
  coherentActions : List StrategyActionIntent
  schema : String
  valid : firstError (strategyKernelChecks schema diagnosis guidingPolicy proximateObjective
    tradeoffs coherentActions) = none
deriving DecidableEq

/-- `_stable_sha256`. -/
def stableSha256 [Host] (value : Json) : String := Host.sha256 value.dumps

/-- `_systems_text_list`. -/
def systemsTextList (data : Json) (key : String) : Except Exn (List String) :=
  stringList (data.get? key) (validationError s!"systems {key} must be a string list")

def textArray (xs : List String) : Json := .arr (xs.map .str)

namespace StrategyKernel

def make (schema diagnosis guidingPolicy proximateObjective : String) (tradeoffs : List String)
    (coherentActions : List StrategyActionIntent) : Except Exn StrategyKernel :=
  build (strategyKernelChecks schema diagnosis guidingPolicy proximateObjective tradeoffs
    coherentActions) fun valid =>
      ⟨diagnosis, guidingPolicy, proximateObjective, tradeoffs, coherentActions, schema, valid⟩

def toDict (x : StrategyKernel) : Json :=
  .mkObj [("schema", .str x.schema), ("diagnosis", .str x.diagnosis),
    ("guiding_policy", .str x.guidingPolicy),
    ("proximate_objective", .str x.proximateObjective),
    ("tradeoffs", textArray x.tradeoffs),
    ("coherent_actions", .arr (x.coherentActions.map StrategyActionIntent.toDict))]

def fingerprint [Host] (x : StrategyKernel) : String := stableSha256 x.toDict

def fromDict [Host] (data : Json) : Except Exn StrategyKernel := do
  let rawActions ← objectList (data.get? "coherent_actions")
    (validationError "strategy coherent_actions must be a list")
  let tradeoffs ← systemsTextList data "tradeoffs"
  let coherentActions ← rawActions.mapM StrategyActionIntent.fromDict
  make (getStr data "schema" "") (getStr data "diagnosis" "") (getStr data "guiding_policy" "")
    (getStr data "proximate_objective" "") tradeoffs coherentActions

theorem fromDict_toDict [Host] (x : StrategyKernel) : fromDict x.toDict = .ok x := by
  simp only [fromDict, toDict, getStr, systemsTextList, textArray, Json.get?_mkObj,
    Json.lookup_cons, String.reduceEq, reduceIte, stringList_map, ok_bind]
  rw [objectList_map fun _ => rfl, ok_bind, mapM_decode StrategyActionIntent.fromDict_toDict]
  exact build_ok x.valid

end StrategyKernel

def strategyActionTraceChecks (schema intentId : String) : List Check :=
  [require (schema == "master-agent/strategy-action-trace@1")
      "unsupported strategy action trace schema",
    require (isIdentifier intentId) "strategy action trace intent_id is invalid"]

structure StrategyActionTrace where
  actionId : Uuid
  intentId : String
  schema : String
  valid : firstError (strategyActionTraceChecks schema intentId) = none
deriving DecidableEq

/-- `UUID(text)`. -/
def parseUuid (text : String) : Except Exn Uuid :=
  match Uuid.fromStr text with
  | some u => .ok u
  | none => .error (valueError "badly formed hexadecimal UUID string")

@[simp]
theorem parseUuid_str {u : Uuid} : parseUuid u.str = .ok u := by
  simp [parseUuid, Uuid.fromStr_str]

namespace StrategyActionTrace

def make (schema : String) (actionId : Uuid) (intentId : String) :
    Except Exn StrategyActionTrace :=
  build (strategyActionTraceChecks schema intentId) fun valid =>
    ⟨actionId, intentId, schema, valid⟩

def toDict (x : StrategyActionTrace) : Json :=
  .mkObj [("schema", .str x.schema), ("action_id", .str x.actionId.str),
    ("intent_id", .str x.intentId)]

def fromDict [Host] (data : Json) : Except Exn StrategyActionTrace := do
  let actionId ← parseUuid (getStr data "action_id" "")
  make (getStr data "schema" "") actionId (getStr data "intent_id" "")

theorem fromDict_toDict [Host] (x : StrategyActionTrace) : fromDict x.toDict = .ok x := by
  simp only [fromDict, toDict, getStr, Json.get?_mkObj, Json.lookup_cons, String.reduceEq,
    reduceIte, Option.elim_some, pyStr_str, parseUuid_str, ok_bind]
  exact build_ok x.valid

end StrategyActionTrace

/-! ## Assessment -/

/-- The diagnosis texts of an assessment, with the names its errors use. -/
def assessmentTexts (desiredOutcome currentBehavior constraint leveragePoint
    simplestIntervention successMetric failureCondition : String) : List Check :=
  [(desiredOutcome, "desired_outcome"), (currentBehavior, "current_behavior"),
    (constraint, "constraint"), (leveragePoint, "leverage_point"),
    (simplestIntervention, "simplest_intervention"), (successMetric, "success_metric"),
    (failureCondition, "failure_condition")].flatMap fun (value, name) =>
      requireSystemsText value s!"systems assessment {name}"

structure SystemsAssessmentFields where
  desiredOutcome : String
  currentBehavior : String
  constraint : String
  leveragePoint : String
  simplestIntervention : String
  successMetric : String
  failureCondition : String
  lowRisk : Bool
  reversible : Bool
  wellUnderstood : Bool
  stocks : List String
  flows : List String
  feedbackLoops : List String
  delays : List String
  unintendedConsequences : List String
  removableComplexity : List String
  alternativesConsidered : List String
  addedComplexity : List ComplexityItem
  existingMechanismsInsufficientBecause : String
  reversibilityStrategy : String
  strategyKernel : Option StrategyKernel
  schema : String
deriving DecidableEq

/-- What `SystemsAssessment.__post_init__` requires. -/
def SystemsAssessmentFields.checks (x : SystemsAssessmentFields) : List Check :=
  [require (x.schema == "master-agent/systems-assessment@1")
    "unsupported systems assessment schema"] ++
    assessmentTexts x.desiredOutcome x.currentBehavior x.constraint x.leveragePoint
      x.simplestIntervention x.successMetric x.failureCondition ++
    [(x.stocks, "stocks"), (x.flows, "flows"), (x.feedbackLoops, "feedback_loops"),
      (x.delays, "delays"), (x.unintendedConsequences, "unintended_consequences"),
      (x.removableComplexity, "removable_complexity"),
      (x.alternativesConsidered, "alternatives_considered")].flatMap (fun (values, name) =>
        values.flatMap (requireSystemsText · s!"systems assessment {name}")) ++
    [(x.existingMechanismsInsufficientBecause, "existing_mechanisms_insufficient_because"),
      (x.reversibilityStrategy, "reversibility_strategy")].flatMap fun (value, name) =>
        if value = "" then [] else requireSystemsText value s!"systems assessment {name}"

structure SystemsAssessment extends SystemsAssessmentFields where
  valid : firstError toSystemsAssessmentFields.checks = none
deriving DecidableEq

namespace SystemsAssessment

def make (x : SystemsAssessmentFields) : Except Exn SystemsAssessment :=
  build x.checks fun valid => ⟨x, valid⟩

def fastPathRequested (x : SystemsAssessment) : Bool :=
  x.lowRisk && x.reversible && x.wellUnderstood

def complexityScore (x : SystemsAssessment) : Int :=
  (x.addedComplexity.map ComplexityItem.weight).sum

def toDict (x : SystemsAssessment) : Json :=
  .mkObj ([("schema", .str x.schema),
    ("desired_outcome", .str x.desiredOutcome),
    ("current_behavior", .str x.currentBehavior),
    ("constraint", .str x.constraint),
    ("stocks", textArray x.stocks),
    ("flows", textArray x.flows),
    ("feedback_loops", textArray x.feedbackLoops),
    ("delays", textArray x.delays),
    ("leverage_point", .str x.leveragePoint),
    ("simplest_intervention", .str x.simplestIntervention),
    ("success_metric", .str x.successMetric),
    ("failure_condition", .str x.failureCondition),
    ("unintended_consequences", textArray x.unintendedConsequences),
    ("removable_complexity", textArray x.removableComplexity),
    ("alternatives_considered", textArray x.alternativesConsidered),
    ("added_complexity", .arr (x.addedComplexity.map ComplexityItem.toDict)),
    ("existing_mechanisms_insufficient_because", .str x.existingMechanismsInsufficientBecause),
    ("reversibility_strategy", .str x.reversibilityStrategy),
    ("low_risk", .bool x.lowRisk),
    ("reversible", .bool x.reversible),
    ("well_understood", .bool x.wellUnderstood),
    ("complexity_score", .int x.complexityScore)] ++
    match x.strategyKernel with
    | none => []
    | some kernel => [("strategy_kernel", kernel.toDict)])

def fingerprint [Host] (x : SystemsAssessment) : String := stableSha256 x.toDict

/-- `value == n` for a decoded value: a boolean equals 0 or 1, and a whole float its integer. -/
def equalsInt (value : Option Json) (n : Int) : Bool :=
  match value with
  | some (.int m) => m == n
  | some (.bool b) => n == if b then 1 else 0
  | some (.float f) => f.text == toString n ++ ".0"
  | _ => false

/-- The optional strategy kernel of an assessment payload. -/
def decodeKernel [Host] (data : Json) : Except Exn (Option StrategyKernel) :=
  match present data "strategy_kernel" with
  | none => .ok none
  | some value =>
      if isObject value then (StrategyKernel.fromDict value).map some
      else .error (validationError "systems assessment strategy_kernel must be an object")

def fromDict [Host] (data : Json) : Except Exn SystemsAssessment := do
  let rawComplexity ← objectList (some ((data.get? "added_complexity").getD (.arr [])))
    (validationError "systems assessment added_complexity must be a list")
  let stocks ← systemsTextList data "stocks"
  let flows ← systemsTextList data "flows"
  let feedbackLoops ← systemsTextList data "feedback_loops"
  let delays ← systemsTextList data "delays"
  let unintendedConsequences ← systemsTextList data "unintended_consequences"
  let removableComplexity ← systemsTextList data "removable_complexity"
  let alternativesConsidered ← systemsTextList data "alternatives_considered"
  let addedComplexity ← rawComplexity.mapM ComplexityItem.fromDict
  let lowRisk ← strictBool (data.get? "low_risk") "systems assessment low_risk"
  let reversible ← strictBool (data.get? "reversible") "systems assessment reversible"
  let wellUnderstood ← strictBool (data.get? "well_understood")
    "systems assessment well_understood"
  let strategyKernel ← decodeKernel data
  let assessment ← make {
    schema := getStr data "schema" ""
    desiredOutcome := getStr data "desired_outcome" ""
    currentBehavior := getStr data "current_behavior" ""
    constraint := getStr data "constraint" ""
    leveragePoint := getStr data "leverage_point" ""
    simplestIntervention := getStr data "simplest_intervention" ""
    successMetric := getStr data "success_metric" ""
    failureCondition := getStr data "failure_condition" ""
    existingMechanismsInsufficientBecause :=
      getStr data "existing_mechanisms_insufficient_because" ""
    reversibilityStrategy := getStr data "reversibility_strategy" ""
    stocks, flows, feedbackLoops, delays, unintendedConsequences, removableComplexity,
    alternativesConsidered, addedComplexity, lowRisk, reversible, wellUnderstood,
    strategyKernel }
  if equalsInt (data.get? "complexity_score") assessment.complexityScore then .ok assessment
  else .error (validationError "systems assessment complexity score does not match its items")

theorem make_self (x : SystemsAssessment) : make x.toSystemsAssessmentFields = .ok x :=
  build_ok x.valid

theorem decodeKernel_toDict [Host] (x : SystemsAssessment) :
    decodeKernel x.toDict = .ok x.strategyKernel := by
  cases kernel : x.strategyKernel with
  | none =>
      simp only [decodeKernel, toDict, present, kernel, List.append_nil, Json.get?_mkObj,
        Json.lookup_cons, String.reduceEq, reduceIte, List.lookup_nil, Option.filter_none]
  | some k =>
      have object : isObject k.toDict = true := rfl
      simp only [decodeKernel, toDict, present, kernel, List.cons_append, List.nil_append,
        Json.get?_mkObj, Json.lookup_cons, String.reduceEq, reduceIte, Option.filter_some,
        object_not_null object, object, Bool.not_false, k.fromDict_toDict, Except.map]

theorem fromDict_toDict [Host] (x : SystemsAssessment) : fromDict x.toDict = .ok x := by
  unfold fromDict
  rw [decodeKernel_toDict]
  simp only [toDict, getStr, systemsTextList, textArray, Json.get?_mkObj, List.cons_append,
    Json.lookup_cons, String.reduceEq, reduceIte, stringList_map, ok_bind, Option.elim_some,
    pyStr_str, strictBool, Option.getD_some]
  rw [objectList_map fun _ => rfl, ok_bind, mapM_decode ComplexityItem.fromDict_toDict, ok_bind,
    make_self, ok_bind]
  simp [equalsInt]

end SystemsAssessment

/-! ## Coherence review -/

structure StrategyCoherenceReviewFields where
  assessmentFingerprint : String
  strategyKernelFingerprint : String
  diagnosisAddressesConstraint : Bool
  guidingPolicyTargetsLeveragePoint : Bool
  proximateObjectiveAdvancesOutcome : Bool
  coherentActionsSupportSuccessMetric : Bool
  tradeoffsCoverAlternatives : Bool
  reasonCodes : List String
  schema : String
deriving DecidableEq

namespace StrategyCoherenceReviewFields

/-- `_STRATEGY_COHERENCE_FINDINGS` with their values. -/
def findings (x : StrategyCoherenceReviewFields) : List (String × Bool) :=
  [("diagnosis_addresses_constraint", x.diagnosisAddressesConstraint),
    ("guiding_policy_targets_leverage_point", x.guidingPolicyTargetsLeveragePoint),
    ("proximate_objective_advances_outcome", x.proximateObjectiveAdvancesOutcome),
    ("coherent_actions_support_success_metric", x.coherentActionsSupportSuccessMetric),
    ("tradeoffs_cover_alternatives", x.tradeoffsCoverAlternatives)]

/-- Positive findings whose name is not among the reason codes. -/
def missing (x : StrategyCoherenceReviewFields) : List String :=
  (x.findings.filter fun (name, value) => value && !x.reasonCodes.contains name).map Prod.fst

/-- What `StrategyCoherenceReview.__post_init__` requires. -/
def checks (x : StrategyCoherenceReviewFields) : List Check :=
  [require (x.schema == "master-agent/strategy-coherence-review@1")
      "unsupported strategy coherence review schema",
    require (isSha256 x.assessmentFingerprint)
      "strategy coherence assessment_fingerprint must be a SHA-256 digest",
    require (isSha256 x.strategyKernelFingerprint)
      "strategy coherence strategy_kernel_fingerprint must be a SHA-256 digest",
    require (x.reasonCodes.length ≤ MAX_PLAN_ACTIONS)
      s!"strategy coherence exceeds the {MAX_PLAN_ACTIONS}-reason limit",
    require (x.reasonCodes.all isIdentifier) "strategy coherence reason codes are invalid",
    require x.reasonCodes.Nodup "strategy coherence reason codes must be unique",
    require (x.missing = [])
      ("positive strategy coherence findings require matching reason codes: " ++
        ", ".intercalate (sortBy id x.missing))]

end StrategyCoherenceReviewFields

structure StrategyCoherenceReview extends StrategyCoherenceReviewFields where
  valid : firstError toStrategyCoherenceReviewFields.checks = none
deriving DecidableEq

namespace StrategyCoherenceReview

def make (x : StrategyCoherenceReviewFields) : Except Exn StrategyCoherenceReview :=
  build x.checks fun valid => ⟨x, valid⟩

def allFindingsConfirmed (x : StrategyCoherenceReview) : Bool := x.findings.all Prod.snd

def toDict (x : StrategyCoherenceReview) : Json :=
  .mkObj [("schema", .str x.schema),
    ("assessment_fingerprint", .str x.assessmentFingerprint),
    ("strategy_kernel_fingerprint", .str x.strategyKernelFingerprint),
    ("diagnosis_addresses_constraint", .bool x.diagnosisAddressesConstraint),
    ("guiding_policy_targets_leverage_point", .bool x.guidingPolicyTargetsLeveragePoint),
    ("proximate_objective_advances_outcome", .bool x.proximateObjectiveAdvancesOutcome),
    ("coherent_actions_support_success_metric", .bool x.coherentActionsSupportSuccessMetric),
    ("tradeoffs_cover_alternatives", .bool x.tradeoffsCoverAlternatives),
    ("reason_codes", textArray x.reasonCodes)]

def fingerprint [Host] (x : StrategyCoherenceReview) : String := stableSha256 x.toDict

/-- One finding of a review payload. -/
def finding (data : Json) (name : String) : Except Exn Bool :=
  strictBool (data.get? name) s!"strategy coherence {name}"

def fromDict [Host] (data : Json) : Except Exn StrategyCoherenceReview := do
  let diagnosisAddressesConstraint ← finding data "diagnosis_addresses_constraint"
  let guidingPolicyTargetsLeveragePoint ← finding data "guiding_policy_targets_leverage_point"
  let proximateObjectiveAdvancesOutcome ← finding data "proximate_objective_advances_outcome"
  let coherentActionsSupportSuccessMetric ←
    finding data "coherent_actions_support_success_metric"
  let tradeoffsCoverAlternatives ← finding data "tradeoffs_cover_alternatives"
  let reasonCodes ← systemsTextList data "reason_codes"
  make {
    schema := getStr data "schema" ""
    assessmentFingerprint := getStr data "assessment_fingerprint" ""
    strategyKernelFingerprint := getStr data "strategy_kernel_fingerprint" ""
    diagnosisAddressesConstraint, guidingPolicyTargetsLeveragePoint,
    proximateObjectiveAdvancesOutcome, coherentActionsSupportSuccessMetric,
    tradeoffsCoverAlternatives, reasonCodes }

theorem fromDict_toDict [Host] (x : StrategyCoherenceReview) : fromDict x.toDict = .ok x := by
  simp only [fromDict, toDict, finding, getStr, systemsTextList, textArray, Json.get?_mkObj,
    Json.lookup_cons, String.reduceEq, reduceIte, stringList_map, ok_bind, Option.elim_some,
    pyStr_str, strictBool]
  exact build_ok x.valid

end StrategyCoherenceReview

/-! ## Gate decision -/

structure SystemsGateDecisionFields where
  route : SystemsGateRoute
  permitted : Bool
  reasons : List String
  complexityScore : Int
  assessmentFingerprint : String
  requiresHumanReview : Bool
  strategyCoherenceReviewFingerprint : Option String
  schema : String
deriving DecidableEq

/-- What `SystemsGateDecision.__post_init__` requires. -/
def SystemsGateDecisionFields.checks (x : SystemsGateDecisionFields) : List Check :=
  [require (x.schema == "master-agent/systems-gate-decision@1")
    "unsupported systems gate decision schema"] ++
    x.reasons.flatMap (requireSystemsText · "systems gate reasons") ++
    [require (x.reasons ≠ []) "systems gate decision must include a reason",
      require (0 ≤ x.complexityScore) "systems gate complexity score cannot be negative",
      require (isSha256 x.assessmentFingerprint)
        "systems gate assessment fingerprint must be a SHA-256 digest",
      require (x.strategyCoherenceReviewFingerprint.all isSha256)
        "systems gate strategy coherence fingerprint must be a SHA-256 digest"]

structure SystemsGateDecision extends SystemsGateDecisionFields where
  valid : firstError toSystemsGateDecisionFields.checks = none
deriving DecidableEq

namespace SystemsGateDecision

def make (x : SystemsGateDecisionFields) : Except Exn SystemsGateDecision :=
  build x.checks fun valid => ⟨x, valid⟩

def toDict (x : SystemsGateDecision) : Json :=
  .mkObj ([("schema", .str x.schema),
    ("route", .str x.route.str),
    ("permitted", .bool x.permitted),
    ("reasons", textArray x.reasons),
    ("complexity_score", .int x.complexityScore),
    ("assessment_fingerprint", .str x.assessmentFingerprint),
    ("requires_human_review", .bool x.requiresHumanReview)] ++
    match x.strategyCoherenceReviewFingerprint with
    | none => []
    | some fingerprint => [("strategy_coherence_review_fingerprint", .str fingerprint)])

def fromDict [Host] (data : Json) : Except Exn SystemsGateDecision := do
  let route ← SystemsGateRoute.parse (getStr data "route" "")
  let permitted ← strictBool (data.get? "permitted") "systems gate decision permitted"
  let reasons ← systemsTextList data "reasons"
  let complexityScore ← strictInt (data.get? "complexity_score")
    "systems gate decision complexity_score"
  let requiresHumanReview ← strictBool
    (some ((data.get? "requires_human_review").getD (.bool false)))
    "systems gate decision requires_human_review"
  make {
    schema := getStr data "schema" ""
    assessmentFingerprint := getStr data "assessment_fingerprint" ""
    strategyCoherenceReviewFingerprint := getOptStr data "strategy_coherence_review_fingerprint"
    route, permitted, reasons, complexityScore, requiresHumanReview }

theorem fromDict_toDict [Host] (x : SystemsGateDecision) : fromDict x.toDict = .ok x := by
  obtain ⟨fields, valid⟩ := x
  cases review : fields.strategyCoherenceReviewFingerprint <;>
  · simp only [fromDict, toDict, getStr, getOptStr, present, systemsTextList, textArray, review,
      List.append_nil, List.cons_append, List.nil_append, Json.get?_mkObj, Json.lookup_cons,
      String.reduceEq, reduceIte, List.lookup_nil, stringList_map, ok_bind, Option.elim_some,
      pyStr_str, SystemsGateRoute.parse_str, strictBool, strictInt, Option.getD_some,
      Option.filter_none, map_str, Option.map_none]
    rw [← review]
    exact build_ok valid

end SystemsGateDecision

end MasterAgent
