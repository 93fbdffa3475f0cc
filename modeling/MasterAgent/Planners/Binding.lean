import MasterAgent.Planners.Gate

/-!
# Binding governance to a plan

`bind_systems_governance` and `bind_static_intervention_governance`: an unbound plan gets an
assessment, the decision of the default gate and, for a static intervention, one trace for each of
its actions and the review the code owns.

Results: a binding keeps the actions of the plan (`bindSystemsGovernance_actions`,
`bindStaticInterventionGovernance_actions`).
-/

namespace MasterAgent
open Base

/-- `StrategyCoherenceReview.for_static_intervention`. -/
def StrategyCoherenceReview.forStaticIntervention [Host] (assessment : SystemsAssessment) :
    Except Exn StrategyCoherenceReview :=
  match assessment.strategyKernel with
  | none => .error (validationError "strategy coherence review requires a strategy kernel")
  | some kernel => StrategyCoherenceReview.make {
      assessmentFingerprint := assessment.fingerprint
      strategyKernelFingerprint := kernel.fingerprint
      diagnosisAddressesConstraint := true
      guidingPolicyTargetsLeveragePoint := true
      proximateObjectiveAdvancesOutcome := true
      coherentActionsSupportSuccessMetric := true
      tradeoffsCoverAlternatives := true
      reasonCodes := ["diagnosis_addresses_constraint", "guiding_policy_targets_leverage_point",
        "proximate_objective_advances_outcome", "coherent_actions_support_success_metric",
        "tradeoffs_cover_alternatives", "static_intervention"]
      schema := "master-agent/strategy-coherence-review@1" }

section
variable [Host]

/-- `bind_systems_governance` with the default gate. -/
def bindSystemsGovernance (plan : ChangePlan) (assessment : SystemsAssessment) :
    Except Exn ChangePlan :=
  if plan.systemsAssessment.isSome ∨ plan.systemsDecision.isSome then
    .error (validationError "plan already contains a systems governance binding")
  else do
    let decision ← SystemsGovernanceGate.evaluate MAX_AUTOMATIC_COMPLEXITY_SCORE plan assessment
    if ¬decision.permitted then
      .error (validationError ("systems governance denied plan: " ++
        "; ".intercalate decision.reasons))
    else ChangePlan.make { plan.toChangePlanFields with
      systemsAssessment := some assessment
      systemsDecision := some decision }

/-- `bind_static_intervention_governance` with the default gate. -/
def bindStaticInterventionGovernance (plan : ChangePlan) (assessment : SystemsAssessment) :
    Except Exn ChangePlan :=
  match assessment.strategyKernel with
  | none => .error (validationError "static intervention requires a strategy kernel")
  | some kernel =>
      if kernel.coherentActions.length ≠ plan.actions.length then
        .error (validationError "static intervention requires exactly one intent per plan action")
      else do
        let traces ← (plan.actions.zip kernel.coherentActions).mapM fun (action, intent) =>
          StrategyActionTrace.make "master-agent/strategy-action-trace@1" action.actionId
            intent.intentId
        let review ← StrategyCoherenceReview.forStaticIntervention assessment
        let traced ← ChangePlan.make { plan.toChangePlanFields with
          strategyTraces := traces
          strategyCoherenceReview := some review }
        let bound ← bindSystemsGovernance traced assessment
        return { bound with trustedStrategyCoherenceAdmission := true }

theorem ChangePlan.make_fields {x : ChangePlanFields} {p : ChangePlan}
    (h : ChangePlan.make x = .ok p) : p.toChangePlanFields = x := by
  obtain ⟨valid, rfl⟩ := of_build_ok h
  rfl

theorem bindSystemsGovernance_actions {plan bound : ChangePlan} {assessment : SystemsAssessment}
    (h : bindSystemsGovernance plan assessment = .ok bound) : bound.actions = plan.actions := by
  unfold bindSystemsGovernance at h
  split at h
  · cases h
  obtain ⟨decision, -, h⟩ := bind_ok_iff.mp h
  split at h
  · cases h
  · rw [ChangePlan.make_fields h]

theorem bindStaticInterventionGovernance_actions {plan bound : ChangePlan}
    {assessment : SystemsAssessment}
    (h : bindStaticInterventionGovernance plan assessment = .ok bound) :
    bound.actions = plan.actions := by
  unfold bindStaticInterventionGovernance at h
  split at h
  · cases h
  split at h
  · cases h
  obtain ⟨traces, -, h⟩ := bind_ok_iff.mp h
  obtain ⟨review, -, h⟩ := bind_ok_iff.mp h
  obtain ⟨traced, made, h⟩ := bind_ok_iff.mp h
  obtain ⟨governed, governs, kept⟩ := bind_ok_iff.mp h
  cases kept
  show governed.actions = plan.actions
  rw [bindSystemsGovernance_actions governs, ChangePlan.make_fields made]

end

end MasterAgent
