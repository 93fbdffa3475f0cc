import MasterAgent.Models.Limits
import MasterAgent.Orchestrator.Entries
import MasterAgent.Planners.Binding

/-!
# Compensation plans

`build_compensation_plan`: a plan that undoes the reversible writes of a run in the reverse order of
its report. What is undone is chosen by the result an entry carries and the risk of its action, not
by the state the entry reports.

Results:

1. `build_iff`: when a plan is returned, and which actions it has;
2. `corrects_undoes`: the actions of a returned plan undo the entries with a result, one each;
3. `compensation_plan_complete_iff`: when a returned plan undoes exactly the effects in force.
-/

namespace MasterAgent
open Base

/-- `text or other`. -/
def orText (text : Option String) (other : String) : String :=
  match text with
  | some text => if text = "" then other else text
  | none => other

/-- What `uuid4` and `datetime.now` answer. -/
structure CorrectionDraws where
  actionId : Nat → Uuid
  planId : Uuid
  createdAt : Datetime

/-- The local variables of `build_compensation_plan`. -/
structure Correction where
  actions : List AgentAction
  unavailable : List String
  previous : Option Uuid

section
variable [Host] (original : ChangePlan) (draws : CorrectionDraws)

/-! ## The plan -/

/-- The action that undoes an action with a plan-mode descriptor. -/
def compensationAction (source : AgentAction) (descriptor : CompensationDescriptor)
    (previous : Option Uuid) (id : Uuid) : Except Exn AgentAction := do
  let capability := descriptor.capability.getD ""
  let target ← ResourceRef.make source.target.system source.target.resourceType
    (orText descriptor.targetResourceId source.target.resourceId) descriptor.expectedVersion
  AgentAction.make {
    capability := capability
    target := target
    parameters := descriptor.parameters
    risk := .reversibleWrite
    authoritySource := .directUser
    requiresApproval := true
    idempotencyKey :=
      s!"compensate:{original.fingerprint}:{source.actionId.str}:{capability}"
    justification :=
      s!"Compensate approved action {source.actionId.str} from plan {original.planId.str}."
    dataClassification := .internal
    dependencies := previous.toList
    actionId := id }

/-- One round of the loop over the report. A result that is no `ExecutionResult` has no
`compensation`. -/
def collectCompensation (s : Correction) (item : ActionReport) : Except Exn Correction :=
  let unavailable (why : String) : Except Exn Correction :=
    .ok { s with unavailable := s.unavailable ++ [s!"{item.actionId.str}: {why}"] }
  match item.result with
  | none => .ok s
  | some outcome =>
      match original.actions.find? (·.actionId = item.actionId) with
      | none => unavailable "original action is unavailable"
      | some source =>
          if source.risk ≠ .reversibleWrite then .ok s
          else match outcome with
            | .invalid => .error ⟨.other, "AttributeError", "no attribute 'compensation'"⟩
            | .result r =>
                match r.compensation with
                | none => unavailable "compensation descriptor is missing"
                | some descriptor =>
                    if descriptor.mode ≠ .plan then
                      unavailable (orText descriptor.reason descriptor.mode.str)
                    else do
                      let action ← compensationAction original source descriptor s.previous
                        (draws.actionId s.actions.length)
                      return ⟨s.actions ++ [action], s.unavailable, some action.actionId⟩

/-- `_bind_correction_governance`. -/
def bindCorrectionGovernance (plan : ChangePlan) (currentBehavior simplestIntervention
    successMetric failureCondition : String) : Except Exn ChangePlan := do
  let intents ← plan.actions.zipIdx.mapM fun (action, index) =>
    StrategyActionIntent.make "master-agent/strategy-action-intent@1"
      s!"correct_effect_{index + 1}" action.justification successMetric
  let kernel ← StrategyKernel.make "master-agent/strategy-kernel@1" currentBehavior
    "Use one explicit, approval-gated correction through the existing provider connector."
    simplestIntervention ["Prefer a visible correction over attempting to erase history."] intents
  let assessment ← SystemsAssessment.make {
    desiredOutcome := plan.goal
    currentBehavior := currentBehavior
    constraint := "the prior provider state cannot be changed without a new effect"
    leveragePoint := "the smallest connector-supported corrective action"
    simplestIntervention := simplestIntervention
    successMetric := successMetric
    failureCondition := failureCondition
    lowRisk := false
    reversible := true
    wellUnderstood := true
    stocks := ["the current provider state and its verified evidence"]
    flows := ["an approval-gated corrective action to the provider"]
    feedbackLoops := ["post-effect verification confirms or rejects the correction"]
    delays := ["approval, provider processing, and verification latency"]
    unintendedConsequences :=
      ["a transport failure could leave the correction outcome indeterminate"]
    removableComplexity := ["the one-use corrective plan"]
    alternativesConsidered := []
    addedComplexity := []
    existingMechanismsInsufficientBecause := ""
    reversibilityStrategy := ""
    strategyKernel := some kernel
    schema := "master-agent/systems-assessment@1" }
  bindStaticInterventionGovernance plan assessment

/-- The plan of the collected actions. -/
def correctionPlan (actions : List AgentAction) (createdBy : String) : Except Exn ChangePlan := do
  let plan ← ChangePlan.make {
    goal := s!"Compensate reversible effects of plan {original.planId.str}."
    actions := actions
    createdBy := createdBy
    planId := draws.planId
    createdAt := draws.createdAt
    schemaVersion := "2.0"
    workflowId := none
    workflowFingerprint := none
    compensateOnFailure := false
    executionContext := none
    systemsAssessment := none
    systemsDecision := none
    strategyTraces := []
    strategyCoherenceReview := none }
  bindCorrectionGovernance plan
    "verified reversible effects from the original run remain applied"
    "execute the connector-provided reverse operations in reverse order"
    "every reversible effect is restored and independently verified"
    "any compensation is unavailable, conflicts, or fails verification"

/-- `build_compensation_plan` of the entries of a report. -/
def buildCompensationPlan (entries : List ActionReport) (createdBy : String) :
    Except Exn ChangePlan := do
  let s ← entries.reverse.foldlM (collectCompensation original draws) ⟨[], [], none⟩
  if s.unavailable ≠ [] then
    .error (validationError ("run cannot produce a complete separately approvable compensation " ++
      "plan: " ++ "; ".intercalate s.unavailable))
  else if s.actions = [] then
    .error (validationError "run contains no separately approvable compensation operations")
  else correctionPlan original draws s.actions createdBy

/-! ## What is collected -/

/-- The plan-mode descriptor of an entry, if its result has one. -/
def usableDescriptor (item : ActionReport) : Option CompensationDescriptor :=
  match item.result with
  | some (.result r) => r.compensation.filter (·.mode == .plan)
  | _ => none

/-- The entry carries a result of a reversible write. -/
def selected (item : ActionReport) : Bool :=
  item.result.isSome &&
    (original.actions.find? (·.actionId = item.actionId)).any (·.risk = .reversibleWrite)

/-- The entry is passed over: it has no result, or its action is no reversible write. -/
def Skipped (item : ActionReport) : Prop :=
  item.result = none ∨ ∃ source, original.actions.find? (·.actionId = item.actionId) = some source ∧
    source.risk ≠ .reversibleWrite

/-- The actions the constructors accept for the descriptors of some entries, each after the one
before it. -/
inductive Corrects : Option Uuid → Nat → List ActionReport → List AgentAction → Prop
  | nil {previous : Option Uuid} {n : Nat} : Corrects previous n [] []
  | skip {previous : Option Uuid} {n : Nat} {item : ActionReport} {items : List ActionReport}
      {actions : List AgentAction} (skipped : Skipped original item)
      (rest : Corrects previous n items actions) : Corrects previous n (item :: items) actions
  | select {previous : Option Uuid} {n : Nat} {item : ActionReport} {items : List ActionReport}
      {actions : List AgentAction} {source action : AgentAction}
      {descriptor : CompensationDescriptor}
      (found : original.actions.find? (·.actionId = item.actionId) = some source)
      (reversible : source.risk = .reversibleWrite)
      (usable : usableDescriptor item = some descriptor)
      (built : compensationAction original source descriptor previous (draws.actionId n) =
        .ok action)
      (rest : Corrects (some action.actionId) (n + 1) items actions) :
      Corrects previous n (item :: items) (action :: actions)

/-- The entries can be undone: the constructors accept an action for each with a result of a
reversible write, of which there is one, and a plan of them. -/
def Correctable (entries : List ActionReport) (createdBy : String) : Prop :=
  ∃ actions, Corrects original draws none 0 entries.reverse actions ∧ actions ≠ [] ∧
    ∃ p, correctionPlan original draws actions createdBy = .ok p

variable {original draws}

theorem collect_skip {s : Correction} {item : ActionReport} (skipped : Skipped original item) :
    collectCompensation original draws s item = .ok s := by
  unfold collectCompensation
  rcases skipped with none | ⟨source, found, other⟩
  · rw [none]
  · cases item.result with
    | none => rfl
    | some outcome => simp only [found, ne_eq, other, not_false_eq_true, reduceIte]

theorem collect_select {s : Correction} {item : ActionReport} {source action : AgentAction}
    {descriptor : CompensationDescriptor}
    (found : original.actions.find? (·.actionId = item.actionId) = some source)
    (reversible : source.risk = .reversibleWrite)
    (usable : usableDescriptor item = some descriptor)
    (built : compensationAction original source descriptor s.previous
      (draws.actionId s.actions.length) = .ok action) :
    collectCompensation original draws s item =
      .ok ⟨s.actions ++ [action], s.unavailable, some action.actionId⟩ := by
  unfold usableDescriptor at usable
  unfold collectCompensation
  split at usable
  · next r result =>
      obtain ⟨described, planned⟩ := Option.filter_eq_some_iff.mp usable
      have planned : descriptor.mode = .plan := beq_iff_eq.mp planned
      simp only [result, found, reversible, ne_eq, not_true_eq_false, reduceIte, described, planned,
        built, ok_bind, pure_ok]
  · cases usable

/-- A round that leaves nothing unavailable passes over the entry or undoes it. -/
theorem collect_cases {s s' : Correction} {item : ActionReport}
    (collected : collectCompensation original draws s item = .ok s') (none : s'.unavailable = []) :
    s.unavailable = [] ∧ (Skipped original item ∧ s' = s ∨
      ∃ source descriptor action,
        original.actions.find? (·.actionId = item.actionId) = some source ∧
        source.risk = .reversibleWrite ∧ usableDescriptor item = some descriptor ∧
        compensationAction original source descriptor s.previous
          (draws.actionId s.actions.length) = .ok action ∧
        s' = ⟨s.actions ++ [action], s.unavailable, some action.actionId⟩) := by
  have more : ∀ text, s.unavailable ++ [text] ≠ [] := fun text => List.concat_ne_nil text _
  unfold collectCompensation at collected
  cases result : item.result with
  | none =>
      rw [result] at collected
      cases collected
      exact ⟨none, .inl ⟨.inl result, rfl⟩⟩
  | some outcome =>
      cases found : original.actions.find? (·.actionId = item.actionId) with
      | none =>
          simp only [result, found] at collected
          cases collected
          exact absurd none (more _)
      | some source =>
          simp only [result, found] at collected
          split at collected
          · next other =>
              cases collected
              exact ⟨none, .inl ⟨.inr ⟨source, found, other⟩, rfl⟩⟩
          next reversible =>
          cases outcome with
          | invalid => cases collected
          | result r =>
              cases described : r.compensation with
              | none =>
                  simp only [described] at collected
                  cases collected
                  exact absurd none (more _)
              | some descriptor =>
                  simp only [described] at collected
                  split at collected
                  · cases collected
                    exact absurd none (more _)
                  next planned =>
                  obtain ⟨action, built, kept⟩ := bind_ok_iff.mp collected
                  cases kept
                  refine ⟨none, .inr ⟨source, descriptor, action, rfl, not_not.mp reversible, ?_,
                    built, rfl⟩⟩
                  unfold usableDescriptor
                  rw [result]
                  exact Option.filter_eq_some_iff.mpr ⟨described, by simpa using planned⟩

/-- The loop leaves nothing unavailable exactly if the entries can be undone one after the other. -/
theorem foldl_collect {items : List ActionReport} : ∀ {s : Correction} {all : List AgentAction},
    (∃ s', items.foldlM (collectCompensation original draws) s = .ok s' ∧ s'.unavailable = [] ∧
      s'.actions = all) ↔
    s.unavailable = [] ∧ ∃ actions, Corrects original draws s.previous s.actions.length items actions ∧
      all = s.actions ++ actions := by
  induction items with
  | nil =>
      intro s all
      simp only [List.foldlM_nil, pure_ok, Except.ok.injEq, exists_eq_left']
      constructor
      · rintro ⟨none, rfl⟩
        exact ⟨none, [], .nil, (List.append_nil _).symm⟩
      · rintro ⟨none, actions, corrects, rfl⟩
        cases corrects
        exact ⟨none, (List.append_nil _).symm⟩
  | cons item items ih =>
      intro s all
      simp only [List.foldlM_cons]
      constructor
      · rintro ⟨last, ran, none, same⟩
        obtain ⟨s', collected, rest⟩ := bind_ok_iff.mp ran
        obtain ⟨none', actions, corrects, rfl⟩ := ih.mp ⟨last, rest, none, same⟩
        obtain ⟨before, ⟨skipped, rfl⟩ | ⟨source, descriptor, action, found, reversible, usable,
          built, rfl⟩⟩ := collect_cases collected none'
        · exact ⟨before, actions, .skip skipped corrects, rfl⟩
        · refine ⟨before, action :: actions, .select found reversible usable built ?_, by simp⟩
          simpa using corrects
      · rintro ⟨none, actions, corrects, rfl⟩
        cases corrects with
        | skip skipped rest =>
            obtain ⟨last, ran, result⟩ := ih.mpr ⟨none, actions, rest, rfl⟩
            exact ⟨last, bind_ok_iff.mpr ⟨s, collect_skip skipped, ran⟩, result⟩
        | @select _ _ _ _ actions source action descriptor found reversible usable built rest =>
            obtain ⟨last, ran, result⟩ := (@ih ⟨s.actions ++ [action], s.unavailable,
              some action.actionId⟩ (s.actions ++ action :: actions)).mpr
              ⟨none, actions, by simpa using rest, by simp⟩
            exact ⟨last, bind_ok_iff.mpr ⟨_, collect_select found reversible usable built, ran⟩,
              result⟩

theorem correctionPlan_actions {actions : List AgentAction} {createdBy : String} {p : ChangePlan}
    (h : correctionPlan original draws actions createdBy = .ok p) : p.actions = actions := by
  obtain ⟨plan, made, bound⟩ := bind_ok_iff.mp h
  obtain ⟨intents, -, bound⟩ := bind_ok_iff.mp bound
  obtain ⟨kernel, -, bound⟩ := bind_ok_iff.mp bound
  obtain ⟨assessment, -, bound⟩ := bind_ok_iff.mp bound
  rw [bindStaticInterventionGovernance_actions bound, ChangePlan.make_fields made]

/-- What is returned is the plan of the actions that undo the entries, if there are any. -/
theorem build_iff {entries : List ActionReport} {createdBy : String} {p : ChangePlan} :
    buildCompensationPlan original draws entries createdBy = .ok p ↔
      ∃ actions, Corrects original draws none 0 entries.reverse actions ∧ actions ≠ [] ∧
        correctionPlan original draws actions createdBy = .ok p := by
  unfold buildCompensationPlan
  constructor
  · intro built
    obtain ⟨s, ran, built⟩ := bind_ok_iff.mp built
    split at built
    · cases built
    next available =>
    split at built
    · cases built
    next some =>
    obtain ⟨-, actions, corrects, same⟩ := foldl_collect.mp ⟨s, ran, not_not.mp available, rfl⟩
    have same : s.actions = actions := same
    exact ⟨actions, corrects, same ▸ some, same ▸ built⟩
  · rintro ⟨actions, corrects, some, made⟩
    obtain ⟨s, ran, available, rfl⟩ := foldl_collect.mpr
      (⟨rfl, actions, corrects, rfl⟩ : (⟨[], [], none⟩ : Correction).unavailable = [] ∧ _)
    refine bind_ok_iff.mpr ⟨s, ran, ?_⟩
    rw [if_neg (not_not.mpr available), if_neg some]
    exact made

theorem correctable_iff {entries : List ActionReport} {createdBy : String} :
    Correctable original draws entries createdBy ↔
      ∃ p, buildCompensationPlan original draws entries createdBy = .ok p := by
  simp only [build_iff]
  constructor
  · rintro ⟨actions, corrects, some, p, made⟩
    exact ⟨p, actions, corrects, some, made⟩
  · rintro ⟨p, actions, corrects, some, made⟩
    exact ⟨actions, corrects, some, p, made⟩

/-! ## What a plan undoes -/

/-- The action undoes that of the entry, as its plan-mode descriptor says. -/
def Undoes (original : ChangePlan) (item : ActionReport) (x : AgentAction) : Prop :=
  ∃ source ∈ original.actions, ∃ descriptor, source.actionId = item.actionId ∧
    usableDescriptor item = some descriptor ∧
    x.capability = descriptor.capability.getD "" ∧ x.parameters = descriptor.parameters ∧
    x.target.system = source.target.system ∧ x.target.resourceType = source.target.resourceType ∧
    x.target.resourceId = orText descriptor.targetResourceId source.target.resourceId ∧
    x.target.expectedVersion = descriptor.expectedVersion ∧ x.risk = .reversibleWrite ∧
    x.requiresApproval = true ∧
    x.idempotencyKey = s!"compensate:{original.fingerprint}:{source.actionId.str}:{x.capability}"

omit [Host] in
/-- Each action depends on the one before it, and on no other. -/
def ChainedFrom : Option Uuid → List AgentAction → Prop
  | _, [] => True
  | previous, x :: rest => x.dependencies = previous.toList ∧ ChainedFrom (some x.actionId) rest

theorem compensationAction_undoes {source action : AgentAction}
    {descriptor : CompensationDescriptor} {previous : Option Uuid} {id : Uuid} {item : ActionReport}
    (found : original.actions.find? (·.actionId = item.actionId) = some source)
    (usable : usableDescriptor item = some descriptor)
    (built : compensationAction original source descriptor previous id = .ok action) :
    Undoes original item action ∧ action.dependencies = previous.toList := by
  obtain ⟨target, located, made⟩ := bind_ok_iff.mp built
  obtain ⟨_, rfl⟩ := of_build_ok made
  obtain ⟨_, rfl⟩ := of_build_ok located
  exact ⟨⟨source, List.mem_of_find?_eq_some found, descriptor, by simpa using List.find?_some found,
    usable, rfl, rfl, rfl, rfl, rfl, rfl, rfl, rfl, rfl⟩, rfl⟩

theorem Skipped.not_selected {item : ActionReport} (skipped : Skipped original item) :
    selected original item = false := by
  unfold selected
  rcases skipped with none | ⟨source, found, other⟩
  · simp [none]
  · simp [found, other]

omit [Host] in
theorem usable_result {item : ActionReport} {descriptor : CompensationDescriptor}
    (usable : usableDescriptor item = some descriptor) : item.result.isSome = true := by
  unfold usableDescriptor at usable
  split at usable
  · next result => rw [result]; rfl
  · cases usable

/-- The actions undo the entries with a result of a reversible write, one each and in their order,
and each depends on the one before it. -/
theorem corrects_undoes {previous : Option Uuid} {n : Nat} {items : List ActionReport}
    {actions : List AgentAction} (corrects : Corrects original draws previous n items actions) :
    List.Forall₂ (Undoes original) (items.filter (selected original)) actions ∧
      ChainedFrom previous actions := by
  induction corrects with
  | nil => exact ⟨.nil, trivial⟩
  | skip skipped _ ih =>
      rw [List.filter_cons_of_neg (by simp [skipped.not_selected])]
      exact ih
  | @select _ _ item _ _ _ _ _ found reversible usable built _ ih =>
      obtain ⟨undoes, after⟩ := compensationAction_undoes found usable built
      have chosen : selected original item = true := by
        unfold selected
        rw [found, usable_result usable]
        simpa using reversible
      rw [List.filter_cons_of_pos chosen]
      exact ⟨.cons undoes ih.1, after, ih.2⟩

/-! ## Completeness -/

/-- The effect of a reversible write may still be in force, as its entry reports it. -/
def InForce (original : ChangePlan) (t : Trace) (item : ActionReport) : Prop :=
  ∃ a ∈ original.actions, a.actionId = item.actionId ∧ a.risk = .reversibleWrite ∧
    (item.state = .verified ∨ item.state = .indeterminate ∨ item.state = .compensationFailed ∨
      item.state = .failed ∧ Occurs (returns a) t)

open Classical in
/-- The entries of effects that may be in force. -/
noncomputable def inForce (original : ChangePlan) (t : Trace) (entries : List ActionReport) :
    List ActionReport :=
  entries.filter fun item => decide (InForce original t item)

/-- The plan has one action for each effect in force, in the reverse order of the report, and no
other action, and each depends on the one before it. -/
structure CompletePlan (original : ChangePlan) (t : Trace) (entries : List ActionReport)
    (p : ChangePlan) : Prop where
  undoes : List.Forall₂ (Undoes original) (inForce original t entries).reverse p.actions
  once : ((inForce original t entries).map (·.actionId)).Nodup
  chained : ChainedFrom none p.actions

/-- A returned plan is complete, and none is returned if an effect in force has no plan-mode
descriptor. -/
def Promised (original : ChangePlan) (t : Trace) (entries : List ActionReport)
    (outcome : Except Exn ChangePlan) : Prop :=
  (∀ p, outcome = .ok p → CompletePlan original t entries p) ∧
  ((∃ item ∈ entries, InForce original t item ∧ usableDescriptor item = none) →
    ∃ e, outcome = .error e)

/-- No reversible write was compensated already, and none is indeterminate without a result. -/
def NothingBlurred (original : ChangePlan) (entries : List ActionReport) : Prop :=
  ∀ item ∈ entries, ∀ a ∈ original.actions, a.actionId = item.actionId →
    a.risk = .reversibleWrite → item.state ≠ .compensated ∧
      (item.state = .indeterminate → item.result.isSome = true)

theorem selected_iff {item : ActionReport} : selected original item = true ↔
    item.result.isSome = true ∧
      ∃ a ∈ original.actions, a.actionId = item.actionId ∧ a.risk = .reversibleWrite := by
  unfold selected
  rw [Bool.and_eq_true, Option.any_eq_true]
  refine and_congr_right fun _ => ⟨?_, ?_⟩
  · rintro ⟨a, found, reversible⟩
    exact ⟨a, List.mem_of_find?_eq_some found, by simpa using List.find?_some found,
      by simpa using reversible⟩
  · rintro ⟨a, member, same, reversible⟩
    cases found : original.actions.find? (·.actionId = item.actionId) with
    | none => exact absurd (decide_eq_true same) (List.find?_eq_none.mp found a member)
    | some b =>
        have id : b.actionId = item.actionId := by simpa using List.find?_some found
        obtain rfl := original.action_inj (List.mem_of_find?_eq_some found) member
          (id.trans same.symm)
        exact ⟨b, rfl, by simpa using reversible⟩

theorem mem_inForce {t : Trace} {entries : List ActionReport} {item : ActionReport} :
    item ∈ inForce original t entries ↔ item ∈ entries ∧ InForce original t item := by
  unfold inForce
  simp only [List.mem_filter, decide_eq_true_eq]

theorem Undoes.usable {item : ActionReport} {x : AgentAction} (h : Undoes original item x) :
    (usableDescriptor item).isSome = true := by
  obtain ⟨source, -, descriptor, -, usable, -⟩ := h
  rw [usable]
  rfl

omit [Host] in
theorem exists_partner {A B : Type} {R : A → B → Prop} {as : List A} {bs : List B}
    (related : List.Forall₂ R as bs) {a : A} (member : a ∈ as) : ∃ b ∈ bs, R a b := by
  induction related with
  | nil => cases member
  | @cons first b as bs holds _ ih =>
      rcases List.mem_cons.mp member with rfl | later
      · exact ⟨b, List.mem_cons_self, holds⟩
      · obtain ⟨b', listed, holds'⟩ := ih later
        exact ⟨b', List.mem_cons_of_mem _ listed, holds'⟩

omit [Host] in
/-- Entries of a run with a result are entries of different actions. -/
theorem Entries.nodup {known : List Uuid} {entries : List ActionReport}
    (h : Entries known entries []) {chosen : ActionReport → Bool}
    (carries : ∀ item ∈ entries, chosen item = true → item.result.isSome = true) :
    ((entries.filter chosen).map (·.actionId)).Nodup := by
  have apart : entries.Pairwise fun r r' => r.result.isSome = true → r'.result.isSome = true →
      r.actionId ≠ r'.actionId := by
    refine List.pairwise_iff_getElem.mpr fun i j hi hj before some some' same => ?_
    have eq := h.unique i j _ _ (List.getElem?_eq_getElem hi) (List.getElem?_eq_getElem hj) same
      some some'
    omega
  refine List.pairwise_map.mpr (List.Pairwise.imp_of_mem ?_ (apart.filter chosen))
  intro r r' member member' differ
  obtain ⟨listed, picked⟩ := List.mem_filter.mp member
  obtain ⟨listed', picked'⟩ := List.mem_filter.mp member'
  exact differ (carries r listed picked) (carries r' listed' picked')

/-- In the report of a run, the entries with a result of a reversible write are those of the effects
in force, unless one was compensated or is indeterminate without a result. -/
theorem selected_inForce {t : Trace} {entries : List ActionReport} {known : List Uuid}
    (kept : Entries known entries [])
    (outcome : ∀ a ∈ original.actions, a.risk = .reversibleWrite → Occurs (returns a) t →
      ∀ item ∈ entries, item.actionId = a.actionId → item.state.isOutcome = true)
    (clear : NothingBlurred original entries) {item : ActionReport} (listed : item ∈ entries) :
    selected original item = true ↔ InForce original t item := by
  obtain ⟨executed, carried⟩ := kept.consistent item listed
  rw [selected_iff]
  constructor
  · rintro ⟨carries, a, member, same, reversible⟩
    refine ⟨a, member, same, reversible, ?_⟩
    have state := executed carries
    have uncompensated := (clear item listed a member same reversible).1
    revert state uncompensated
    cases item.state <;> simp [ActionState.isOutcome]
  · rintro ⟨a, member, same, reversible, verified | uncertain | failed | ⟨failed, returned⟩⟩
    · exact ⟨carried (.inl verified), a, member, same, reversible⟩
    · exact ⟨(clear item listed a member same reversible).2 uncertain, a, member, same, reversible⟩
    · exact ⟨carried (.inr (by rw [failed]; rfl)), a, member, same, reversible⟩
    · have state := outcome a member reversible returned item listed same.symm
      rw [failed] at state
      cases state

/-- A complete plan undoes no entry of a compensated write, and leaves out none that is indeterminate
without a result. -/
theorem CompletePlan.nothing_blurred {t : Trace} {entries : List ActionReport} {known : List Uuid}
    {createdBy : String} {p : ChangePlan} (kept : Entries known entries [])
    (built : buildCompensationPlan original draws entries createdBy = .ok p)
    (complete : CompletePlan original t entries p) : NothingBlurred original entries := by
  obtain ⟨actions, corrects, -, made⟩ := build_iff.mp built
  obtain ⟨undone, -⟩ := corrects_undoes corrects
  rw [List.filter_reverse, ← correctionPlan_actions made] at undone
  -- what is in force has a result, so it is among what is undone
  have carries : ∀ item ∈ entries, InForce original t item → selected original item = true := by
    intro item listed force
    obtain ⟨x, -, undoes⟩ := exists_partner complete.undoes
      (List.mem_reverse.mpr (mem_inForce.mpr ⟨listed, force⟩))
    obtain ⟨descriptor, usable⟩ := Option.isSome_iff_exists.mp undoes.usable
    obtain ⟨a, member, same, reversible, -⟩ := force
    exact selected_iff.mpr ⟨usable_result usable, a, member, same, reversible⟩
  have part : (inForce original t entries).Sublist (entries.filter (selected original)) := by
    have twice : inForce original t entries = inForce original t
        (entries.filter (selected original)) := by
      unfold inForce
      rw [List.filter_filter]
      refine List.filter_congr fun item listed => ?_
      by_cases force : InForce original t item
      · simp [force, carries item listed force]
      · simp [force]
    rw [twice]
    exact List.filter_sublist
  have whole : inForce original t entries = entries.filter (selected original) := by
    refine part.eq_of_length ?_
    have force := complete.undoes.length_eq
    have all := undone.length_eq
    rw [List.length_reverse] at force all
    exact force.trans all.symm
  intro item listed a member same reversible
  constructor
  · intro compensated
    have result := (kept.consistent item listed).carried (.inr (by rw [compensated]; rfl))
    have chosen : item ∈ entries.filter (selected original) :=
      List.mem_filter.mpr ⟨listed, selected_iff.mpr ⟨result, a, member, same, reversible⟩⟩
    rw [← whole] at chosen
    obtain ⟨_, _, _, _, state⟩ := (mem_inForce.mp chosen).2
    rw [compensated] at state
    simp at state
  · intro uncertain
    have force : InForce original t item := ⟨a, member, same, reversible, .inr (.inl uncertain)⟩
    exact (selected_iff.mp (carries item listed force)).1

/-- Whatever is returned is complete where nothing is blurred. -/
theorem build_complete {t : Trace} {entries : List ActionReport} {known : List Uuid}
    {createdBy : String} {p : ChangePlan} (kept : Entries known entries [])
    (outcome : ∀ a ∈ original.actions, a.risk = .reversibleWrite → Occurs (returns a) t →
      ∀ item ∈ entries, item.actionId = a.actionId → item.state.isOutcome = true)
    (clear : NothingBlurred original entries)
    (built : buildCompensationPlan original draws entries createdBy = .ok p) :
    CompletePlan original t entries p := by
  obtain ⟨actions, corrects, -, made⟩ := build_iff.mp built
  obtain ⟨undone, chained⟩ := corrects_undoes corrects
  have whole : inForce original t entries = entries.filter (selected original) := by
    unfold inForce
    refine List.filter_congr fun item listed => ?_
    have chosen := selected_inForce kept outcome clear listed
    by_cases force : InForce original t item
    · simp [force, chosen.mpr force]
    · simp [force, Bool.eq_false_iff.mpr fun is_chosen => force (chosen.mp is_chosen)]
  rw [← correctionPlan_actions made] at undone chained
  refine ⟨?_, ?_, chained⟩
  · rw [whole, ← List.filter_reverse]
    exact undone
  · rw [whole]
    exact kept.nodup fun item _ chosen => (selected_iff.mp chosen).1

end

-- a run is not to be unfolded to see what is proved of it
attribute [local irreducible] Proc.wp

section
variable [Host] {o : WorkflowOrchestrator} {runId : Uuid} {plan : ChangePlan}
  {approvals : List Approval} {dryRun : Bool} {s : RunState} {t : Trace} {report : RunReport}

/-- For the report of a run, what is promised of the compensation plan holds exactly if the entries
cannot be undone, or no reversible write was compensated already and none is indeterminate without
a result. -/
theorem compensation_plan_complete_iff
    (reached : Prog.Reaches (run o runId plan approvals dryRun RunState.initial) t
      (.ret (.ok report, s))) (draws : CorrectionDraws) (createdBy : String) :
    Promised plan t report.actions (buildCompensationPlan plan draws report.actions createdBy) ↔
      (Correctable plan draws report.actions createdBy → NothingBlurred plan report.actions) := by
  obtain ⟨known, -, kept⟩ := run_entries reached
  have outcome : ∀ a ∈ plan.actions, a.risk = .reversibleWrite → Occurs (returns a) t →
      ∀ item ∈ report.actions, item.actionId = a.actionId → item.state.isOutcome = true := by
    have finished := Proc.post_of_reaches wp_run reached
    rw [List.nil_append] at finished
    obtain ⟨same, coherence, ordered, sorted, perm, head⟩ := finished
    rw [same]
    exact head.inv.books.outcome
  rw [correctable_iff]
  constructor
  · rintro ⟨complete, -⟩ ⟨p, built⟩
    exact (complete p built).nothing_blurred kept built
  · intro clear
    refine ⟨fun p built => build_complete kept outcome (clear ⟨p, built⟩) built, ?_⟩
    rintro ⟨item, listed, force, unusable⟩
    cases built : buildCompensationPlan plan draws report.actions createdBy with
    | error e => exact ⟨e, rfl⟩
    | ok p =>
        have complete := build_complete kept outcome (clear ⟨p, built⟩) built
        obtain ⟨x, -, undoes⟩ := exists_partner complete.undoes
          (List.mem_reverse.mpr (mem_inForce.mpr ⟨listed, force⟩))
        have usable := undoes.usable
        rw [unusable] at usable
        cases usable

end

/-! ### Sample runs -/

namespace Compensation.Samples

attribute [local instance] plainHost

/-- A result that can be undone by a plan. -/
def plannedResult (a : AgentAction) : ExecutionResult :=
  { sampleResult a with
    compensation := some ⟨⟨"undo", .plan, some "wiki.restore", [], none, none, none,
      "master-agent/compensation@1"⟩, by decide⟩ }

/-- The provider refuses one action before it has an effect, and says how to undo any other. -/
def undoing (id : Uuid) : (c : Call) → c.Answer
  | .execute _ a =>
      if a.actionId = id then .error ⟨.preEffect, "PreEffectError", "refused"⟩
      else .ok (.result (plannedResult a))
  | call => smoothly call

def draws : CorrectionDraws where
  actionId n := numbered (10 + n)
  planId := numbered 15
  createdAt := governedPlan.createdAt

def undone (a : AgentAction) : ActionReport :=
  ⟨a.actionId, a.capability, .compensated, "compensated and verified: ok",
    some (.result (plannedResult a)), some (sampleResult a), none⟩

def entries : List ActionReport :=
  [undone sampleWrite, plainReport sampleCopy .failed "PreEffectError: refused",
    plainReport sampleOther .skipped "plan stopped after a failure and compensation attempt"]

/-- The write before the refused one is rolled back. -/
theorem undoing_outcome :
    returnsReport (fun report => report.actions = entries)
      (driven (fun _ => undoing (numbered 2)) 60).2 = true := by
  unfold driven run
  rw [governedPlan_snapshot]
  decide +kernel

/-! The plan that undoes the write again, piece by piece. -/

def restoredPage : ResourceRef := ⟨"wiki", "page", "7", none, by decide⟩

def restored : AgentAction where
  capability := "wiki.restore"
  target := restoredPage
  parameters := []
  risk := .reversibleWrite
  authoritySource := .directUser
  requiresApproval := true
  idempotencyKey := s!"compensate:{governedPlan.fingerprint}:{sampleWrite.actionId.str}:wiki.restore"
  justification :=
    s!"Compensate approved action {sampleWrite.actionId.str} from plan {governedPlan.planId.str}."
  dataClassification := .internal
  dependencies := []
  actionId := numbered 10
  valid := by decide +kernel

def ungovernedPlan : ChangePlan where
  goal := s!"Compensate reversible effects of plan {governedPlan.planId.str}."
  actions := [restored]
  createdBy := "operator"
  planId := draws.planId
  createdAt := draws.createdAt
  schemaVersion := "2.0"
  workflowId := none
  workflowFingerprint := none
  compensateOnFailure := false
  executionContext := none
  systemsAssessment := none
  systemsDecision := none
  strategyTraces := []
  strategyCoherenceReview := none
  valid := by decide +kernel
  trustedStrategyCoherenceAdmission := false

def restoreIntent : StrategyActionIntent where
  intentId := "correct_effect_1"
  description := restored.justification
  expectedEffect := "every reversible effect is restored and independently verified"
  schema := "master-agent/strategy-action-intent@1"
  valid := by decide +kernel

def restoreKernel : StrategyKernel where
  diagnosis := "verified reversible effects from the original run remain applied"
  guidingPolicy :=
    "Use one explicit, approval-gated correction through the existing provider connector."
  proximateObjective := "execute the connector-provided reverse operations in reverse order"
  tradeoffs := ["Prefer a visible correction over attempting to erase history."]
  coherentActions := [restoreIntent]
  schema := "master-agent/strategy-kernel@1"
  valid := by decide +kernel

def restoreAssessment : SystemsAssessment where
  desiredOutcome := ungovernedPlan.goal
  currentBehavior := "verified reversible effects from the original run remain applied"
  constraint := "the prior provider state cannot be changed without a new effect"
  leveragePoint := "the smallest connector-supported corrective action"
  simplestIntervention := "execute the connector-provided reverse operations in reverse order"
  successMetric := "every reversible effect is restored and independently verified"
  failureCondition := "any compensation is unavailable, conflicts, or fails verification"
  lowRisk := false
  reversible := true
  wellUnderstood := true
  stocks := ["the current provider state and its verified evidence"]
  flows := ["an approval-gated corrective action to the provider"]
  feedbackLoops := ["post-effect verification confirms or rejects the correction"]
  delays := ["approval, provider processing, and verification latency"]
  unintendedConsequences :=
    ["a transport failure could leave the correction outcome indeterminate"]
  removableComplexity := ["the one-use corrective plan"]
  alternativesConsidered := []
  addedComplexity := []
  existingMechanismsInsufficientBecause := ""
  reversibilityStrategy := ""
  strategyKernel := some restoreKernel
  schema := "master-agent/systems-assessment@1"
  valid := by decide +kernel

def restoreReview : StrategyCoherenceReview where
  assessmentFingerprint := restoreAssessment.fingerprint
  strategyKernelFingerprint := restoreKernel.fingerprint
  diagnosisAddressesConstraint := true
  guidingPolicyTargetsLeveragePoint := true
  proximateObjectiveAdvancesOutcome := true
  coherentActionsSupportSuccessMetric := true
  tradeoffsCoverAlternatives := true
  reasonCodes := ["diagnosis_addresses_constraint", "guiding_policy_targets_leverage_point",
    "proximate_objective_advances_outcome", "coherent_actions_support_success_metric",
    "tradeoffs_cover_alternatives", "static_intervention"]
  schema := "master-agent/strategy-coherence-review@1"
  valid := by decide +kernel

def restoreTrace : StrategyActionTrace :=
  ⟨restored.actionId, "correct_effect_1", "master-agent/strategy-action-trace@1", by decide +kernel⟩

def tracedPlan : ChangePlan where
  toChangePlanFields := { ungovernedPlan.toChangePlanFields with
    strategyTraces := [restoreTrace]
    strategyCoherenceReview := some restoreReview }
  valid := by decide +kernel
  trustedStrategyCoherenceAdmission := false

/-- The gate permits the traced plan. -/
def restoreDecision : SystemsGateDecision where
  route := .gated
  permitted := true
  reasons := ["systems governance assessment complete"]
  complexityScore := 0
  assessmentFingerprint := restoreAssessment.fingerprint
  requiresHumanReview := false
  strategyCoherenceReviewFingerprint := some restoreReview.fingerprint
  schema := "master-agent/systems-gate-decision@1"
  valid := by decide +kernel

def boundFields : ChangePlanFields :=
  { tracedPlan.toChangePlanFields with
    systemsAssessment := some restoreAssessment
    systemsDecision := some restoreDecision }

def boundGovernance : Json := .mkObj [
  ("systems_assessment", restoreAssessment.toDict),
  ("systems_decision", restoreDecision.toDict),
  ("strategy_coherence_review", restoreReview.toDict)]

theorem boundFields_valid : firstError boundFields.checks = none := by
  have sizes : jsonDepth boundGovernance ≤ MAX_JSON_DEPTH ∧
      jsonNodes boundGovernance ≤ MAX_JSON_COLLECTION_ITEMS ∧
      jsonBytes boundGovernance ≤ MAX_JSON_STRING_CHARACTERS := by decide +kernel
  have binding : boundFields.governanceFits = fits "systems governance binding" MAX_PLAN_BYTES boundGovernance :=
    rfl
  unfold ChangePlanFields.checks
  rw [binding, fits_of_small sizes.1 sizes.2.1 (sizes.2.2.trans (by decide)) sizes.2.2, List.append_nil]
  decide +kernel

theorem bound_made : ChangePlan.make boundFields = .ok ⟨boundFields, boundFields_valid, false⟩ :=
  build_ok boundFields_valid

theorem restore_evaluated : SystemsGovernanceGate.evaluate MAX_AUTOMATIC_COMPLEXITY_SCORE tracedPlan
    restoreAssessment = .ok restoreDecision := by
  have permits : SystemsGovernanceGate.denials tracedPlan restoreAssessment = [] := by decide +kernel
  unfold SystemsGovernanceGate.evaluate
  rw [permits]
  exact build_ok restoreDecision.valid

theorem restore_bound : ∃ p, bindStaticInterventionGovernance ungovernedPlan restoreAssessment = .ok p := by
  have reviewed : StrategyCoherenceReview.forStaticIntervention restoreAssessment = .ok restoreReview :=
    build_ok restoreReview.valid
  have traced : ChangePlan.make { ungovernedPlan.toChangePlanFields with
      strategyTraces := [restoreTrace]
      strategyCoherenceReview := some restoreReview } = .ok tracedPlan := build_ok tracedPlan.valid
  have governed : bindSystemsGovernance tracedPlan restoreAssessment =
      .ok ⟨boundFields, boundFields_valid, false⟩ := by
    unfold bindSystemsGovernance
    rw [if_neg (by decide), restore_evaluated, ok_bind, if_neg (by decide)]
    exact bound_made
  have traces : ([restored].zip [restoreIntent]).mapM (fun x => StrategyActionTrace.make
      "master-agent/strategy-action-trace@1" x.1.actionId x.2.intentId) = .ok [restoreTrace] := by
    have single : StrategyActionTrace.make "master-agent/strategy-action-trace@1" restored.actionId
        restoreIntent.intentId = .ok restoreTrace := build_ok restoreTrace.valid
    rw [List.zip_cons_cons, List.zip_nil_left, List.mapM_cons, List.mapM_nil, single]
    rfl
  unfold bindStaticInterventionGovernance
  change ∃ p, (if [restoreIntent].length ≠ [restored].length then _ else _) = Except.ok p
  rw [if_neg (by decide)]
  exact ⟨⟨boundFields, boundFields_valid, true⟩, bind_ok_iff.mpr ⟨_, traces, bind_ok_iff.mpr ⟨_, reviewed,
    bind_ok_iff.mpr ⟨_, traced, bind_ok_iff.mpr ⟨_, governed, rfl⟩⟩⟩⟩⟩

/-- What the constructors accept for the write that was rolled back. -/
theorem restored_built : compensationAction governedPlan sampleWrite
    ⟨⟨"undo", .plan, some "wiki.restore", [], none, none, none, "master-agent/compensation@1"⟩, by decide⟩
    none (draws.actionId 0) = .ok restored := by
  have located : ResourceRef.make sampleWrite.target.system sampleWrite.target.resourceType
      sampleWrite.target.resourceId none = .ok restoredPage := build_ok restoredPage.valid
  unfold compensationAction
  change (ResourceRef.make sampleWrite.target.system sampleWrite.target.resourceType
      sampleWrite.target.resourceId none >>= _) = _
  rw [located, ok_bind]
  exact build_ok restored.valid

/-- A plan is returned that undoes it again. -/
theorem entries_correctable : Correctable governedPlan draws entries "operator" := by
  refine ⟨[restored], .skip (.inl rfl) (.skip (.inl rfl) (.select rfl rfl rfl restored_built .nil)),
    List.cons_ne_nil _ _, ?_⟩
  obtain ⟨p, bound⟩ := restore_bound
  have intents : [restored].zipIdx.mapM (fun x => StrategyActionIntent.make
      "master-agent/strategy-action-intent@1" s!"correct_effect_{x.2 + 1}" x.1.justification
      "every reversible effect is restored and independently verified") = .ok [restoreIntent] := by
    have single : StrategyActionIntent.make "master-agent/strategy-action-intent@1" "correct_effect_1"
        restored.justification "every reversible effect is restored and independently verified" =
          .ok restoreIntent := build_ok restoreIntent.valid
    have named : s!"correct_effect_{0 + 1}" = "correct_effect_1" := by decide
    rw [List.zipIdx_singleton, List.mapM_cons, List.mapM_nil]
    dsimp only
    rw [named, single]
    rfl
  exact ⟨p, bind_ok_iff.mpr ⟨ungovernedPlan, build_ok ungovernedPlan.valid, bind_ok_iff.mpr ⟨_, intents,
    bind_ok_iff.mpr ⟨restoreKernel, build_ok restoreKernel.valid, bind_ok_iff.mpr
      ⟨restoreAssessment, build_ok restoreAssessment.valid, bound⟩⟩⟩⟩⟩

theorem entries_blurred : ¬NothingBlurred governedPlan entries := fun clear =>
  (clear (undone sampleWrite) List.mem_cons_self sampleWrite List.mem_cons_self rfl rfl).1 rfl

theorem undoing_reached : ∃ report s t, Prog.Reaches
      (run sampleOrchestrator (numbered 9) governedPlan [] false RunState.initial) t
      (.ret (.ok report, s)) ∧
    report.actions = entries := by
  obtain ⟨report, s, outcome, reached⟩ := reaches_report undoing_outcome
  exact ⟨report, s, _, reached, of_decide_eq_true outcome⟩

/-- A returned plan undoes a write that was rolled back with its run. -/
theorem compensated_undone_again : ∃ report s t, Prog.Reaches
      (run sampleOrchestrator (numbered 9) governedPlan [] false RunState.initial) t
      (.ret (.ok report, s)) ∧
    ¬Promised governedPlan t report.actions
      (buildCompensationPlan governedPlan draws report.actions "operator") := by
  obtain ⟨report, s, t, reached, same⟩ := undoing_reached
  obtain ⟨p, built⟩ := correctable_iff.mp entries_correctable
  obtain ⟨known, -, kept⟩ := run_entries reached
  rw [← same] at built
  refine ⟨report, s, t, reached, fun promised => entries_blurred ?_⟩
  rw [← same]
  exact (promised.1 p built).nothing_blurred kept built

theorem undoing_not_promised : ∃ (report : RunReport) (t : Trace),
    report.actions = entries ∧
    ¬Promised governedPlan t report.actions
      (buildCompensationPlan governedPlan draws report.actions "operator") := by
  obtain ⟨report, s, t, reached, same⟩ := undoing_reached
  refine ⟨report, t, same, fun promised => entries_blurred ?_⟩
  rw [← same]
  refine (compensation_plan_complete_iff reached draws "operator").mp promised ?_
  rw [same]
  exact entries_correctable

end Compensation.Samples

end MasterAgent
