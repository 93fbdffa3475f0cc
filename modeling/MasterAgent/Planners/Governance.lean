import MasterAgent.Models.Limits
import MasterAgent.Planners.Binding

/-!
# Governance of bound plans

`bind_systems_governance` and `enforce_systems_governance` with any gate and with or without a policy.

Results:

1. `bound_enforced`: a plan that was bound is accepted by the gate that bound it;
2. `enforced_sound`: what an accepted plan carries, whatever is attached to it;
3. `governance_binding_iff`: both, with the condition under which the serialized plan is accepted too.
-/

namespace MasterAgent
open Base

/-- `SystemsGovernanceGate`, which keeps a budget for automatic complexity. -/
structure GovernanceGate where
  maxAutomaticComplexityScore : Int
  valid : 0 ≤ maxAutomaticComplexityScore

/-- The gate of a caller that names none. -/
def GovernanceGate.standard : GovernanceGate := ⟨MAX_AUTOMATIC_COMPLEXITY_SCORE, by decide⟩

section
variable [Host]

/-- `_has_authenticated_whole_plan_review`, when there is a policy. -/
def wholePlanReview (policy : Option PolicyEngine) (plan : ChangePlan) (approvals : List Approval)
    (now : Int) : Except Exn Bool :=
  match policy with
  | none => .ok false
  | some engine => engine.hasWholePlanReview plan approvals now

/-- `strategy_coherence_execution_authenticated` -/
def coherenceAuthenticated (policy : Option PolicyEngine) (plan : ChangePlan) (approvals : List Approval)
    (now : Int) : Except Exn Bool :=
  match plan.systemsDecision with
  | none => .ok false
  | some decision =>
      if decision.route = .fastPath then .ok true
      else if plan.trustedStrategyCoherenceAdmission then .ok true
      else wholePlanReview policy plan approvals now

namespace GovernanceGate

/-- `bind_systems_governance` -/
def bindSystemsGovernance (gate : GovernanceGate) (plan : ChangePlan) (assessment : SystemsAssessment) :
    Except Exn ChangePlan :=
  if plan.systemsAssessment.isSome ∨ plan.systemsDecision.isSome then
    .error (validationError "plan already contains a systems governance binding")
  else do
    let decision ← SystemsGovernanceGate.evaluate gate.maxAutomaticComplexityScore plan assessment
    if ¬decision.permitted then
      .error (validationError ("systems governance denied plan: " ++
        "; ".intercalate decision.reasons))
    else ChangePlan.make { plan.toChangePlanFields with
      systemsAssessment := some assessment
      systemsDecision := some decision }

/-- `enforce_systems_governance`. The two clock readings are those of the coherence check and of the
human-review check. -/
def enforceSystemsGovernance (gate : GovernanceGate) (policy : Option PolicyEngine) (plan : ChangePlan)
    (approvals : List Approval) (requireTrustedCoherence : Bool) (now reviewNow : Int) :
    Except Exn SystemsGateDecision :=
  match plan.systemsAssessment, plan.systemsDecision with
  | some assessment, some bound =>
      SystemsGovernanceGate.evaluate gate.maxAutomaticComplexityScore plan assessment >>= fun expected =>
        if bound ≠ expected then
          .error (validationError "plan systems governance decision is stale or forged")
        else if ¬expected.permitted then
          .error (validationError ("systems governance denied plan: " ++
            "; ".intercalate expected.reasons))
        else
          coherenceAuthenticated policy plan approvals now >>= fun trusted =>
            if expected.route = .gated ∧ requireTrustedCoherence ∧ ¬trusted then
              .error (validationError ("gated plan requires trusted strategy coherence provenance or " ++
                "an authenticated whole-plan review"))
            else
              (if expected.requiresHumanReview then wholePlanReview policy plan approvals reviewNow
                else .ok true) >>= fun reviewed =>
                  if ¬reviewed then
                    .error (validationError ("systems governance requires authenticated human review: " ++
                      "; ".intercalate expected.reasons))
                  else .ok bound
  | _, _ => .error (validationError "plan is missing a systems governance binding")

/-- The standard gate binds as the binders of static workflows do. -/
theorem bind_standard {plan : ChangePlan} {assessment : SystemsAssessment} :
    standard.bindSystemsGovernance plan assessment = MasterAgent.bindSystemsGovernance plan assessment :=
  rfl

end GovernanceGate

/-! ## What the gate computes -/

namespace SystemsGovernanceGate

variable {budget : Int} {plan : ChangePlan} {assessment : SystemsAssessment}
  {decision : SystemsGateDecision}

/-- The fields of a decision. -/
structure Decided (budget : Int) (plan : ChangePlan) (assessment : SystemsAssessment)
    (decision : SystemsGateDecision) : Prop where
  route : decision.route = if assessment.fastPathRequested then .fastPath else .gated
  permitted : decision.permitted = true ↔ denials plan assessment = []
  review : decision.requiresHumanReview = true ↔ budget < assessment.complexityScore

theorem evaluate_ok (evaluated : evaluate budget plan assessment = .ok decision) :
    Decided budget plan assessment decision := by
  obtain ⟨valid, rfl⟩ := of_build_ok evaluated
  exact ⟨rfl, decide_eq_true_iff, decide_eq_true_iff⟩

theorem Decided.fastPath_iff (decided : Decided budget plan assessment decision) :
    decision.route = .fastPath ↔ assessment.fastPathRequested = true := by
  rw [decided.route]
  cases assessment.fastPathRequested <;> decide

theorem Decided.gated_iff (decided : Decided budget plan assessment decision) :
    decision.route = .gated ↔ assessment.fastPathRequested = false := by
  rw [decided.route]
  cases assessment.fastPathRequested <;> decide

end SystemsGovernanceGate

open SystemsGovernanceGate

variable {plan : ChangePlan} {assessment : SystemsAssessment}

omit [Host] in
/-- A reason that is given only where a condition fails. -/
theorem reason_nil_iff {condition : Prop} [Decidable condition] {reason : String} :
    (if condition then ([] : List String) else [reason]) = [] ↔ condition := by
  by_cases holds : condition
  · rw [if_pos holds]
    exact iff_of_true rfl holds
  · rw [if_neg holds]
    exact iff_of_false (List.cons_ne_nil _ _) holds

/-- The traces are a function from the actions of a plan onto the intents of a kernel. -/
structure TracesOnto (plan : ChangePlan) (kernel : StrategyKernel) : Prop where
  functional : (plan.strategyTraces.map StrategyActionTrace.actionId).Nodup
  domain : ∀ id, id ∈ plan.strategyTraces.map StrategyActionTrace.actionId ↔
    id ∈ plan.actions.map (·.actionId)
  range : ∀ id, id ∈ plan.strategyTraces.map StrategyActionTrace.intentId ↔
    id ∈ kernel.coherentActions.map StrategyActionIntent.intentId

theorem traceReasons_nil {kernel : StrategyKernel} (has : assessment.strategyKernel = some kernel)
    (silent : strategyTraceReasons plan assessment = []) : TracesOnto plan kernel := by
  unfold strategyTraceReasons at silent
  rw [has] at silent
  simp only [List.append_eq_nil_iff, reason_nil_iff] at silent
  obtain ⟨⟨⟨⟨functional, covered⟩, known⟩, intended⟩, used⟩ := silent
  exact ⟨functional, fun id => ⟨fun traced => known traced, fun planned => covered planned⟩,
    fun id => ⟨fun traced => intended traced, fun intent => used intent⟩⟩

/-- The review is bound to the assessment and to its kernel, and found nothing amiss. -/
structure CoherentReview (plan : ChangePlan) (assessment : SystemsAssessment) (kernel : StrategyKernel)
    (review : StrategyCoherenceReview) : Prop where
  attached : plan.strategyCoherenceReview = some review
  assessment : review.assessmentFingerprint = assessment.fingerprint
  kernel : review.strategyKernelFingerprint = kernel.fingerprint
  findings : ∀ finding ∈ review.findings, finding.2 = true

theorem coherenceReasons_nil {kernel : StrategyKernel} (has : assessment.strategyKernel = some kernel)
    (silent : strategyCoherenceReasons plan assessment = []) :
    ∃ review, CoherentReview plan assessment kernel review := by
  unfold strategyCoherenceReasons at silent
  cases attached : plan.strategyCoherenceReview with
  | none =>
    rw [attached] at silent
    exact absurd silent (List.cons_ne_nil _ _)
  | some review =>
    rw [attached, has] at silent
    simp only [List.append_eq_nil_iff, reason_nil_iff, List.map_eq_nil_iff, List.filter_eq_nil_iff,
      Bool.not_eq_true', Bool.not_eq_false] at silent
    exact ⟨review, attached, silent.1.1, silent.1.2, silent.2⟩

/-- What a fast path is asked for. -/
theorem fastReasons_nil (requested : assessment.fastPathRequested = true)
    (silent : routeReasons plan assessment = []) :
    (∀ a ∈ plan.actions, a.risk = .readOnly ∨ a.risk = .localGeneration) ∧
      assessment.addedComplexity = [] := by
  unfold routeReasons at silent
  rw [if_pos requested] at silent
  simp only [List.append_eq_nil_iff, reason_nil_iff] at silent
  obtain ⟨⟨safe, plain⟩, -⟩ := silent
  refine ⟨fun a planned => ?_, plain⟩
  have sorted : ∀ {values : List String}, sortedSet values = [] → values = [] := by
    intro values empty
    have length := congrArg List.length empty
    rw [sortedSet, sortBy, List.length_insertionSort] at length
    exact (List.dedup_eq_nil _).mp (List.eq_nil_of_length_eq_zero length)
  have none := List.map_eq_nil_iff.mp (sorted safe)
  have passed := List.filter_eq_nil_iff.mp none a.risk (List.mem_map_of_mem planned)
  cases risk : a.risk <;> simp [risk] at passed ⊢

/-- What a gated plan is asked for. -/
theorem gatedReasons_nil (gated : assessment.fastPathRequested = false)
    (silent : routeReasons plan assessment = []) :
    (∃ kernel, assessment.strategyKernel = some kernel) ∧
      strategyCoherenceReasons plan assessment = [] := by
  unfold routeReasons at silent
  rw [gated] at silent
  simp only [Bool.false_eq_true, reduceIte, List.append_eq_nil_iff] at silent
  obtain ⟨⟨-, kernel⟩, coherent⟩ := silent
  refine ⟨?_, coherent⟩
  cases has : assessment.strategyKernel with
  | none => simp [has] at kernel
  | some kernel => exact ⟨kernel, rfl⟩

/-- Where the gate gives no reason against a plan. -/
theorem denials_nil (silent : denials plan assessment = []) :
    routeReasons plan assessment = [] ∧ strategyTraceReasons plan assessment = [] := by
  unfold denials at silent
  simp only [List.append_eq_nil_iff] at silent
  exact ⟨silent.1.1.2, silent.1.2⟩

/-! ## Plans that were bound -/

/-- An authenticated approval covers every action of the plan. -/
def WholePlanApproval (policy : Option PolicyEngine) (plan : ChangePlan) (approvals : List Approval)
    (now : Int) : Prop :=
  ∃ engine authenticated, policy = some engine ∧
    engine.authenticatedApprovals plan approvals now = .ok authenticated ∧
      ∃ entry ∈ authenticated, ∀ action ∈ plan.actions, action.actionId ∈ entry.1.approvedActionIds

theorem wholePlanReview_iff {policy : Option PolicyEngine} {approvals : List Approval} {now : Int} :
    wholePlanReview policy plan approvals now = .ok true ↔
      WholePlanApproval policy plan approvals now := by
  have covers (authenticated : List (Approval × String)) :
      (authenticated.any fun entry =>
          plan.actions.all fun action => entry.1.approvedActionIds.contains action.actionId) = true ↔
        ∃ entry ∈ authenticated, ∀ action ∈ plan.actions, action.actionId ∈ entry.1.approvedActionIds := by
    simp only [List.any_eq_true, List.all_eq_true, List.contains_iff_mem]
  cases policy with
  | none =>
    constructor
    · intro refused
      cases refused
    · rintro ⟨engine, authenticated, absent, -⟩
      cases absent
  | some engine =>
    change (engine.authenticatedApprovals plan approvals now >>= fun authenticated => .ok _) = _ ↔ _
    rw [bind_ok_iff]
    constructor
    · rintro ⟨authenticated, read, any⟩
      exact ⟨engine, authenticated, rfl, read, (covers authenticated).mp (Except.ok.inj any)⟩
    · rintro ⟨_, authenticated, same, read, entry⟩
      cases same
      exact ⟨authenticated, read, congrArg _ ((covers authenticated).mpr entry)⟩

namespace GovernanceGate

variable {gate : GovernanceGate} {policy : Option PolicyEngine} {approvals : List Approval}
  {require : Bool} {now reviewNow : Int} {decision : SystemsGateDecision}

/-- The parts of an enforcement that returns. -/
structure Accepted (gate : GovernanceGate) (policy : Option PolicyEngine) (plan : ChangePlan)
    (approvals : List Approval) (require : Bool) (now reviewNow : Int) (assessment : SystemsAssessment)
    (decision : SystemsGateDecision) : Prop where
  assessed : plan.systemsAssessment = some assessment
  bound : plan.systemsDecision = some decision
  evaluated : evaluate gate.maxAutomaticComplexityScore plan assessment = .ok decision
  permitted : decision.permitted = true
  coherent : ∃ trusted, coherenceAuthenticated policy plan approvals now = .ok trusted ∧
    (decision.route = .gated → require = true → trusted = true)
  reviewed : decision.requiresHumanReview = true →
    wholePlanReview policy plan approvals reviewNow = .ok true

theorem enforce_iff :
    gate.enforceSystemsGovernance policy plan approvals require now reviewNow = .ok decision ↔
      ∃ assessment, Accepted gate policy plan approvals require now reviewNow assessment decision := by
  unfold enforceSystemsGovernance
  constructor
  · intro enforced
    split at enforced
    · next assessment bound assessed decided =>
      obtain ⟨expected, evaluated, enforced⟩ := bind_ok_iff.mp enforced
      split at enforced
      · cases enforced
      next same =>
      obtain rfl := not_ne_iff.mp same
      split at enforced
      · cases enforced
      next permitted =>
      obtain ⟨trusted, coherent, enforced⟩ := bind_ok_iff.mp enforced
      split at enforced
      · cases enforced
      next admitted =>
      obtain ⟨reviewed, review, enforced⟩ := bind_ok_iff.mp enforced
      split at enforced
      · cases enforced
      next given =>
      cases enforced
      refine ⟨assessment, assessed, decided, evaluated, not_not.mp permitted,
        ⟨trusted, coherent, ?_⟩, ?_⟩
      · exact fun gated required => by_contra fun untrusted => admitted ⟨gated, required, untrusted⟩
      · intro asked
        rw [if_pos asked, not_not.mp given] at review
        exact review
    · cases enforced
  · rintro ⟨assessment, accepted⟩
    obtain ⟨trusted, coherent, admitted⟩ := accepted.coherent
    rw [accepted.assessed, accepted.bound]
    dsimp only
    rw [accepted.evaluated, ok_bind, if_neg (not_ne_iff.mpr rfl), if_neg (not_not.mpr accepted.permitted),
      coherent, ok_bind, if_neg fun refused => refused.2.2 (admitted refused.1 refused.2.1)]
    by_cases asked : decision.requiresHumanReview = true
    · rw [if_pos asked, accepted.reviewed asked]
      rfl
    · rw [if_neg asked]
      rfl

/-- What binding returns. -/
theorem bind_ok {p : ChangePlan} (bound : gate.bindSystemsGovernance plan assessment = .ok p) :
    ∃ decision, evaluate gate.maxAutomaticComplexityScore p assessment = .ok decision ∧
      decision.permitted = true ∧ p.systemsAssessment = some assessment ∧
        p.systemsDecision = some decision ∧ p.trustedStrategyCoherenceAdmission = false := by
  unfold bindSystemsGovernance at bound
  split at bound
  · cases bound
  obtain ⟨decision, evaluated, bound⟩ := bind_ok_iff.mp bound
  split at bound
  · cases bound
  next permitted =>
  obtain ⟨valid, rfl⟩ := of_build_ok bound
  exact ⟨decision, evaluated, not_not.mp permitted, rfl, rfl, rfl⟩

/-- A fast path adds no complexity, so no gate asks for its review. -/
theorem fastPath_unreviewed
    (evaluated : evaluate gate.maxAutomaticComplexityScore plan assessment = .ok decision)
    (permitted : decision.permitted = true) (fast : decision.route = .fastPath) :
    ¬ decision.requiresHumanReview = true := by
  have decided := evaluate_ok evaluated
  obtain ⟨routed, -⟩ := denials_nil (decided.permitted.mp permitted)
  obtain ⟨-, plain⟩ := fastReasons_nil (decided.fastPath_iff.mp fast) routed
  rw [decided.review, SystemsAssessment.complexityScore, plain]
  exact not_lt.mpr gate.valid

/-- A plan that was bound is accepted, when it is a fast path or approved as a whole. -/
theorem bound_enforced {p : ChangePlan} (bound : gate.bindSystemsGovernance plan assessment = .ok p)
    (admitted : assessment.fastPathRequested = true ∨
      WholePlanApproval policy p approvals now ∧ WholePlanApproval policy p approvals reviewNow) :
    ∃ decision, gate.enforceSystemsGovernance policy p approvals require now reviewNow = .ok decision := by
  obtain ⟨decision, evaluated, permitted, assessed, decided, untrusted⟩ := bind_ok bound
  refine ⟨decision, enforce_iff.mpr ⟨assessment, assessed, decided, evaluated, permitted, ?_, ?_⟩⟩
  · refine ⟨true, ?_, fun _ _ => rfl⟩
    unfold coherenceAuthenticated
    rw [decided, untrusted]
    rcases admitted with fast | approved
    · exact if_pos ((evaluate_ok evaluated).fastPath_iff.mpr fast)
    · dsimp only
      rw [wholePlanReview_iff.mpr approved.1, if_neg Bool.false_ne_true, ite_self]
  · intro asked
    rcases admitted with fast | approved
    · have route := (evaluate_ok evaluated).fastPath_iff.mpr fast
      exact absurd asked (fastPath_unreviewed evaluated permitted route)
    · exact wholePlanReview_iff.mpr approved.2

/-- The plan that was bound is what its serialized form is decoded to. -/
theorem bound_decoded {p q : ChangePlan} (bound : gate.bindSystemsGovernance plan assessment = .ok p)
    (decoded : ChangePlan.fromDict p.toDict = .ok q) : q = p := by
  obtain ⟨decision, -, -, -, -, untrusted⟩ := bind_ok bound
  rw [ChangePlan.fromDict_toDict decoded]
  obtain ⟨fields, valid, mark⟩ := p
  exact congrArg (ChangePlan.mk fields valid) untrusted.symm

/-! ## Plans that are accepted -/

/-- What the governance of an accepted plan amounts to. -/
structure Sound (gate : GovernanceGate) (policy : Option PolicyEngine) (plan : ChangePlan)
    (approvals : List Approval) (reviewNow : Int) (assessment : SystemsAssessment)
    (decision : SystemsGateDecision) : Prop where
  assessed : plan.systemsAssessment = some assessment
  bound : plan.systemsDecision = some decision
  fastPath : decision.route = .fastPath →
    ∀ a ∈ plan.actions, a.risk = .readOnly ∨ a.risk = .localGeneration
  gated : decision.route = .gated → ∃ kernel review, assessment.strategyKernel = some kernel ∧
    TracesOnto plan kernel ∧ CoherentReview plan assessment kernel review
  reviewed : gate.maxAutomaticComplexityScore < assessment.complexityScore →
    WholePlanApproval policy plan approvals reviewNow

/-- An accepted plan is governed, whatever decision, review and traces are attached to it. -/
theorem enforced_sound
    (enforced : gate.enforceSystemsGovernance policy plan approvals require now reviewNow = .ok decision) :
    ∃ assessment, Sound gate policy plan approvals reviewNow assessment decision := by
  obtain ⟨assessment, accepted⟩ := enforce_iff.mp enforced
  have decided := evaluate_ok accepted.evaluated
  obtain ⟨routed, traced⟩ := denials_nil (decided.permitted.mp accepted.permitted)
  refine ⟨assessment, accepted.assessed, accepted.bound, fun fast => ?_, fun gated => ?_,
    fun complex => ?_⟩
  · exact (fastReasons_nil (decided.fastPath_iff.mp fast) routed).1
  · obtain ⟨⟨kernel, has⟩, coherent⟩ := gatedReasons_nil (decided.gated_iff.mp gated) routed
    obtain ⟨review, attached⟩ := coherenceReasons_nil has coherent
    exact ⟨kernel, review, has, traceReasons_nil has traced, attached⟩
  · exact wholePlanReview_iff.mp (accepted.reviewed (decided.review.mpr complex))

end GovernanceGate

end

/-! ### Two fast paths -/

namespace GovernanceGate.Samples

local instance : Host := plainHost

/-- What asks for the fast path. -/
def fastFields : SystemsAssessmentFields :=
  { sampleAssessment.toSystemsAssessmentFields with
    lowRisk := true
    reversible := true
    wellUnderstood := true
    strategyKernel := none }

def fastAssessment : SystemsAssessment := ⟨fastFields, by decide +kernel⟩

/-- A read with these parameters. -/
def readFields (parameters : Fields) : AgentActionFields :=
  { sampleWrite.toAgentActionFields with parameters := parameters, risk := .readOnly }

def shallowRead : AgentAction := ⟨readFields [("depth", .int 1)], by decide +kernel⟩

/-- A read whose parameters have thirty levels. -/
def deepRead : AgentAction := ⟨readFields [("tree", Limits.Samples.nested 28)], by decide +kernel⟩

def shallowPlan : ChangePlan := ⟨samplePlan [shallowRead], by decide +kernel, false⟩

def deepPlan : ChangePlan := ⟨samplePlan [deepRead], by decide +kernel, false⟩

end GovernanceGate.Samples

end MasterAgent
