import MasterAgent.Policy.Engine

/-!
# The systems-governance gate

The gate recomputes, from a plan and its assessment, whether the plan may be acted on at all.
Enforcement rejects a plan whose bound decision is missing, stale, denied or forged.

Results:

1. `enforce_ok`: what an enforced plan carries;
2. `coherence_authenticated`: what a plan with an authenticated strategy carries.
-/

namespace MasterAgent
open Base

section
variable [Host]

/-- `_strategy_trace_reasons`. -/
def strategyTraceReasons (plan : ChangePlan) (assessment : SystemsAssessment) : List String :=
  match assessment.strategyKernel with
  | none =>
      if plan.strategyTraces = [] then [] else ["strategy traces require a strategy kernel"]
  | some kernel =>
      let actionIds := plan.actions.map (·.actionId)
      let traced := plan.strategyTraces.map StrategyActionTrace.actionId
      let intents := kernel.coherentActions.map StrategyActionIntent.intentId
      let used := plan.strategyTraces.map StrategyActionTrace.intentId
      (if traced.Nodup then [] else ["strategy traces contain duplicate action IDs"]) ++
      (if actionIds ⊆ traced then [] else ["strategy traces do not cover every plan action"]) ++
      (if traced ⊆ actionIds then []
        else ["strategy traces contain unknown or stale action IDs"]) ++
      (if used ⊆ intents then [] else ["strategy traces contain unknown intent IDs"]) ++
      (if intents ⊆ used then []
        else ["strategy traces do not use every coherent action intent"])

/-- `_strategy_coherence_reasons`. -/
def strategyCoherenceReasons (plan : ChangePlan) (assessment : SystemsAssessment) :
    List String :=
  match plan.strategyCoherenceReview with
  | none => ["gated plan requires a strategy coherence review"]
  | some review =>
      (if review.assessmentFingerprint = assessment.fingerprint then []
        else ["strategy coherence review assessment fingerprint is stale"]) ++
      (match assessment.strategyKernel with
        | none => ["strategy coherence review requires a strategy kernel"]
        | some kernel =>
            if review.strategyKernelFingerprint = kernel.fingerprint then []
            else ["strategy coherence review kernel fingerprint is stale"]) ++
      (review.findings.filter fun finding => !finding.2).map fun finding =>
        s!"strategy coherence finding is false: {finding.1}"

namespace SystemsGovernanceGate

/-- What the route of a plan asks for. -/
def routeReasons (plan : ChangePlan) (assessment : SystemsAssessment) : List String :=
  if assessment.fastPathRequested then
    let unsafeRisks := sortedSet ((plan.actions.map (·.risk)).filter
      (fun risk => risk != .readOnly && risk != .localGeneration) |>.map RiskLevel.str)
    (if unsafeRisks = [] then []
      else ["fast path permits read-only or local-generation actions only; " ++
        "found " ++ ", ".intercalate unsafeRisks]) ++
    (if assessment.addedComplexity = [] then []
      else ["fast path cannot introduce durable complexity"]) ++
    if plan.strategyCoherenceReview.isNone then []
      else ["fast path cannot carry a strategy coherence review"]
  else
    ([("stocks", assessment.stocks), ("flows", assessment.flows),
        ("feedback_loops", assessment.feedbackLoops), ("delays", assessment.delays),
        ("unintended_consequences", assessment.unintendedConsequences)].filter
      (·.2 = [])).map (fun (name, _) => s!"gated assessment requires {name}") ++
    (if assessment.strategyKernel.isNone then ["gated assessment requires a strategy_kernel"]
      else []) ++
    strategyCoherenceReasons plan assessment

/-- What added complexity asks for. -/
def complexityReasons (assessment : SystemsAssessment) : List String :=
  if assessment.addedComplexity = [] then []
  else
    (if assessment.alternativesConsidered = [] then
      ["added complexity requires simpler alternatives considered"] else []) ++
    (if assessment.existingMechanismsInsufficientBecause = "" then
      ["added complexity requires evidence that existing mechanisms are insufficient"]
      else []) ++
    if assessment.reversibilityStrategy = "" then
      ["added complexity requires an explicit removal or reversibility strategy"] else []

/-- Why the gate denies a plan. -/
def denials (plan : ChangePlan) (assessment : SystemsAssessment) : List String :=
  (if plan.goal = assessment.desiredOutcome then []
    else ["plan goal does not match the assessed desired outcome"]) ++
  routeReasons plan assessment ++ strategyTraceReasons plan assessment ++
  complexityReasons assessment

/-- `SystemsGovernanceGate.evaluate` under a budget for automatic complexity. -/
def evaluate (budget : Int) (plan : ChangePlan) (assessment : SystemsAssessment) :
    Except Exn SystemsGateDecision :=
  let route := if assessment.fastPathRequested then SystemsGateRoute.fastPath
    else SystemsGateRoute.gated
  let denied := denials plan assessment
  let review : Bool := budget < assessment.complexityScore
  let reasons := denied ++ if review then
      [s!"complexity score {assessment.complexityScore} exceeds automatic budget {budget}"]
    else if denied = [] then
      [if route = .fastPath then "explicit fast path accepted"
        else "systems governance assessment complete"]
    else []
  SystemsGateDecision.make {
    route := route
    permitted := denied = []
    reasons := reasons
    complexityScore := assessment.complexityScore
    assessmentFingerprint := assessment.fingerprint
    requiresHumanReview := review
    strategyCoherenceReviewFingerprint := if route = .gated then
      plan.strategyCoherenceReview.map StrategyCoherenceReview.fingerprint else none
    schema := "master-agent/systems-gate-decision@1" }

end SystemsGovernanceGate

/-- The default budget of a gate. -/
def MAX_AUTOMATIC_COMPLEXITY_SCORE : Int := 4

/-- `strategy_coherence_execution_authenticated` at an instant. -/
def strategyCoherenceAuthenticated (policy : PolicyEngine) (plan : ChangePlan)
    (approvals : List Approval) (now : Int) : Except Exn Bool :=
  match plan.systemsDecision with
  | none => .ok false
  | some decision =>
      if decision.route = .fastPath then .ok true
      else if plan.trustedStrategyCoherenceAdmission then .ok true
      else policy.hasWholePlanReview plan approvals now

/-- Whether a decision's human review, if it asks for one, was given. -/
def humanReviewed (policy : PolicyEngine) (expected : SystemsGateDecision) (plan : ChangePlan)
    (approvals : List Approval) (now : Int) : Except Exn Bool :=
  if expected.requiresHumanReview then policy.hasWholePlanReview plan approvals now
  else .ok true

/-- `enforce_systems_governance` with the default gate. The two clock readings are those of the
coherence check and of the human-review check. -/
def enforceSystemsGovernance (policy : PolicyEngine) (plan : ChangePlan)
    (approvals : List Approval) (requireTrustedCoherence : Bool) (now reviewNow : Int) :
    Except Exn SystemsGateDecision :=
  match plan.systemsAssessment, plan.systemsDecision with
  | some assessment, some bound => do
      let expected ← SystemsGovernanceGate.evaluate MAX_AUTOMATIC_COMPLEXITY_SCORE plan assessment
      if bound ≠ expected then
        .error (validationError "plan systems governance decision is stale or forged")
      else if ¬expected.permitted then
        .error (validationError ("systems governance denied plan: " ++
          "; ".intercalate expected.reasons))
      else
        let trusted ← strategyCoherenceAuthenticated policy plan approvals now
        if expected.route = .gated ∧ requireTrustedCoherence ∧ ¬trusted then
          .error (validationError ("gated plan requires trusted strategy coherence provenance or " ++
            "an authenticated whole-plan review"))
        else
          let reviewed ← humanReviewed policy expected plan approvals reviewNow
          if ¬reviewed then
            .error (validationError ("systems governance requires authenticated human review: " ++
              "; ".intercalate expected.reasons))
          else return bound
  | _, _ => .error (validationError "plan is missing a systems governance binding")

/-! ## What is enforced -/

/-- The plan's decision is the one the gate computes, and it permits the plan. -/
structure Governed (plan : ChangePlan) (decision : SystemsGateDecision) : Prop where
  bound : plan.systemsDecision = some decision
  recomputed : ∃ assessment, plan.systemsAssessment = some assessment ∧
    SystemsGovernanceGate.evaluate MAX_AUTOMATIC_COMPLEXITY_SCORE plan assessment = .ok decision
  permitted : decision.permitted = true

theorem enforce_ok {policy : PolicyEngine} {plan : ChangePlan} {approvals : List Approval}
    {trusted : Bool} {now reviewNow : Int} {decision : SystemsGateDecision}
    (h : enforceSystemsGovernance policy plan approvals trusted now reviewNow = .ok decision) :
    Governed plan decision := by
  unfold enforceSystemsGovernance at h
  split at h
  · next assessment bound assessed decided =>
      cases evaluated : SystemsGovernanceGate.evaluate MAX_AUTOMATIC_COMPLEXITY_SCORE plan
          assessment with
      | error e => rw [evaluated] at h; cases h
      | ok expected =>
          rw [evaluated, ok_bind] at h
          split at h
          · cases h
          · next same =>
              split at h
              · cases h
              · next permitted =>
                  have returned : bound = decision := by
                    cases coherent : strategyCoherenceAuthenticated policy plan approvals now with
                    | error e => rw [coherent] at h; cases h
                    | ok authenticated =>
                        rw [coherent, ok_bind] at h
                        split at h
                        · cases h
                        · cases reviewed : humanReviewed policy expected plan approvals
                              reviewNow with
                          | error e => rw [reviewed] at h; cases h
                          | ok given =>
                              rw [reviewed, ok_bind] at h
                              split at h
                              · cases h
                              · exact Except.ok.inj h
                  rw [not_not] at same permitted
                  subst returned
                  rw [same] at decided ⊢
                  exact ⟨decided, ⟨assessment, assessed, evaluated⟩, permitted⟩
  · cases h

/-- The plan was admitted in process, or an authenticated approval covers all its actions. -/
def CoherenceAdmitted (policy : PolicyEngine) (plan : ChangePlan) (approvals : List Approval)
    (now : Int) : Prop :=
  plan.trustedStrategyCoherenceAdmission = true ∨
    ∃ authenticated, policy.authenticatedApprovals plan approvals now = .ok authenticated ∧
      ∃ entry ∈ authenticated, ∀ action ∈ plan.actions,
        action.actionId ∈ entry.1.approvedActionIds

/-- A gated plan whose strategy is authenticated was admitted. -/
theorem coherence_authenticated {policy : PolicyEngine} {plan : ChangePlan}
    {approvals : List Approval} {now : Int} {decision : SystemsGateDecision}
    (decided : plan.systemsDecision = some decision) (gated : decision.route = .gated)
    (h : strategyCoherenceAuthenticated policy plan approvals now = .ok true) :
    CoherenceAdmitted policy plan approvals now := by
  unfold strategyCoherenceAuthenticated at h
  rw [decided] at h
  simp only [gated, reduceCtorEq, reduceIte] at h
  split at h
  · next trusted => exact .inl trusted
  · unfold PolicyEngine.hasWholePlanReview at h
    cases authenticated : policy.authenticatedApprovals plan approvals now with
    | error e => rw [authenticated] at h; cases h
    | ok entries =>
        rw [authenticated, ok_bind, pure_ok, Except.ok.injEq] at h
        obtain ⟨entry, member, covers⟩ := List.any_eq_true.mp h
        exact .inr ⟨entries, authenticated, entry, member, fun action planned => by
          simpa using List.all_eq_true.mp covers action planned⟩

end

/-! ## A governed plan -/

section

attribute [local instance] plainHost

/-- Another write, under its own key and identifier. -/
def sampleOtherFields (target : ResourceRef) (key : String) (id : Uuid)
    (dependencies : List Uuid) : AgentActionFields :=
  { sampleWrite.toAgentActionFields with
    capability := "wiki.copy"
    target := target
    idempotencyKey := key
    dependencies := dependencies
    actionId := id }

/-- A copy that depends on the write, and a write that does not. -/
def sampleCopy : AgentAction :=
  ⟨sampleOtherFields ⟨"wiki", "page", "8", none, by decide⟩ "l" (numbered 2) [numbered 1],
    by decide⟩
def sampleOther : AgentAction :=
  ⟨sampleOtherFields ⟨"wiki", "page", "9", none, by decide⟩ "m" (numbered 3) [], by decide⟩

def sampleKernel : StrategyKernel where
  diagnosis := "d"
  guidingPolicy := "g"
  proximateObjective := "o"
  tradeoffs := ["t"]
  coherentActions := [⟨"i", "d", "e", "master-agent/strategy-action-intent@1", by decide⟩]
  schema := "master-agent/strategy-kernel@1"
  valid := by decide +kernel

def sampleAssessment : SystemsAssessment where
  desiredOutcome := "sync"
  currentBehavior := "b"
  constraint := "c"
  leveragePoint := "l"
  simplestIntervention := "i"
  successMetric := "m"
  failureCondition := "f"
  lowRisk := false
  reversible := false
  wellUnderstood := false
  stocks := ["s"]
  flows := ["f"]
  feedbackLoops := ["l"]
  delays := ["d"]
  unintendedConsequences := ["u"]
  removableComplexity := []
  alternativesConsidered := []
  addedComplexity := []
  existingMechanismsInsufficientBecause := ""
  reversibilityStrategy := ""
  strategyKernel := some sampleKernel
  schema := "master-agent/systems-assessment@1"
  valid := by decide +kernel

def sampleReview : StrategyCoherenceReview where
  assessmentFingerprint := sampleAssessment.fingerprint
  strategyKernelFingerprint := sampleKernel.fingerprint
  diagnosisAddressesConstraint := true
  guidingPolicyTargetsLeveragePoint := true
  proximateObjectiveAdvancesOutcome := true
  coherentActionsSupportSuccessMetric := true
  tradeoffsCoverAlternatives := true
  reasonCodes := ["diagnosis_addresses_constraint", "guiding_policy_targets_leverage_point",
    "proximate_objective_advances_outcome", "coherent_actions_support_success_metric",
    "tradeoffs_cover_alternatives"]
  schema := "master-agent/strategy-coherence-review@1"
  valid := by decide +kernel

def sampleDecision : SystemsGateDecision where
  route := .gated
  permitted := true
  reasons := ["systems governance assessment complete"]
  complexityScore := 0
  assessmentFingerprint := sampleAssessment.fingerprint
  requiresHumanReview := false
  strategyCoherenceReviewFingerprint := some sampleReview.fingerprint
  schema := "master-agent/systems-gate-decision@1"
  valid := by decide +kernel

def sampleTrace (a : AgentAction) : StrategyActionTrace :=
  ⟨a.actionId, "i", "master-agent/strategy-action-trace@1", by decide⟩

/-- A governed plan to be rolled back when an action fails. -/
def governedFields (actions : List AgentAction) : ChangePlanFields :=
  { samplePlan actions with
    compensateOnFailure := true
    systemsAssessment := some sampleAssessment
    systemsDecision := some sampleDecision
    strategyTraces := actions.map sampleTrace
    strategyCoherenceReview := some sampleReview }

def governedPlan : ChangePlan where
  toChangePlanFields := governedFields [sampleWrite, sampleCopy, sampleOther]
  valid := by decide +kernel
  trustedStrategyCoherenceAdmission := true

end

end MasterAgent
