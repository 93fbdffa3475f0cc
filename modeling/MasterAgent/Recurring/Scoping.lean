import MasterAgent.Planners.Binding
import MasterAgent.Policy.Sources

/-!
# Scoping a recurring plan to one occurrence

A plan that a registered workflow admits is rewritten before an occurrence runs it: its effects get
the occurrence's idempotency keys, its local generations a target and an output name of their own.

Results:

1. `scoped_actions`: what scoping does to each action;
2. `meets_scoped`: a rule asks of the scoped plan what it asks of the plan, for one target and one
   set of parameters;
3. `scoping_preserves_iff`: when an action and its image are accepted alike.
-/

namespace MasterAgent
open Base

section
variable [Host]

namespace Recurring

/-! ## The scope of a workflow -/

/-- What a registration allows its plans. -/
structure RegisteredWorkflow where
  allowedCapabilities : List String
  allowedRecipients : List String
  canonicalSources : List String

omit [Host] in
/-- A recipient field that holds one text. -/
def singleRecipient (parameters : Fields) (key : String) : Except Exn (List String) :=
  match parameters.lookup key with
  | none | some .null => .ok []
  | some (.str value) =>
      if value = "" then
        .error (configurationError s!"recurring recipient field {key} must be a non-empty string")
      else .ok [value]
  | some _ =>
      .error (configurationError s!"recurring recipient field {key} must be a non-empty string")

omit [Host] in
/-- A recipient field that holds one text or many. -/
def recipientList (parameters : Fields) (key : String) : Except Exn (List String) :=
  let invalid := configurationError s!"recurring recipient field {key} contains an invalid value"
  let recipient (value : Json) : Except Exn String :=
    match value with
    | .str text => if text = "" then .error invalid else .ok text
    | _ => .error invalid
  match parameters.lookup key with
  | none | some .null => .ok []
  | some (.str text) => (recipient (.str text)).map ([·])
  | some (.arr values) => values.mapM recipient
  | some _ =>
      .error (configurationError s!"recurring recipient field {key} must be a string or list")

omit [Host] in
/-- `_action_recipients` -/
def actionRecipients (action : AgentAction) : Except Exn (List String) := do
  let single ← ["recipient", "recipient_id", "chat_id", "channel_id", "destination_id"].mapM
    (singleRecipient action.parameters)
  let many ← ["to", "cc", "bcc", "recipients"].mapM (recipientList action.parameters)
  return single.flatten ++ many.flatten

omit [Host] in
/-- What the scope asks of one action. -/
def validateActionScope (workflow : RegisteredWorkflow) (action : AgentAction) :
    Except Exn Unit := do
  let source := action.target.system ++ "://" ++ action.target.resourceId
  if action.authoritySource ≠ .registeredWorkflow then
    .error (configurationError "recurring action authority is not registered_workflow")
  else if action.capability ∉ workflow.allowedCapabilities then
    .error (configurationError s!"recurring plan exceeds capability scope: {action.capability}")
  else if action.target.system ∉ ["local", "powerpoint"] ∧ source ∉ workflow.canonicalSources then
    .error (configurationError s!"recurring plan exceeds source scope: {source}")
  else
    for recipient in ← actionRecipients action do
      if recipient ∉ workflow.allowedRecipients then
        .error (configurationError s!"recurring plan exceeds recipient scope: {recipient}")

/-- `_validate_plan_scope` -/
def validatePlanScope (plan : ChangePlan) (workflow : RegisteredWorkflow) : Except Exn Unit :=
  if plan.systemsAssessment.isNone ∨ plan.systemsDecision.isNone then
    .error (configurationError "recurring plan must carry a bound systems-governance decision")
  else if (plan.executionContext.bind (·.fields.runtime)).isNone then
    .error (configurationError "recurring plan must be approval-bound before bind")
  else plan.actions.forM (validateActionScope workflow)

/-! ## Scoping -/

omit [Host] in
/-- `PurePosixPath(text).name` -/
def pathName (text : String) : List Char :=
  ((text.toList.splitOn '/').filter fun part => part != [] && part != ['.']).getLastD []

omit [Host] in
/-- `stem` and `suffix` of a name: split at the last dot, unless it leads or ends the name. -/
def splitName (name : List Char) : String × String :=
  let tail := (name.reverse.takeWhile (· != '.')).length
  let dot := name.length - tail - 1
  if name.contains '.' ∧ 0 < dot ∧ 0 < tail then
    (String.ofList (name.take dot), String.ofList (name.drop dot))
  else (String.ofList name, "")

omit [Host] in
/-- `execution_key[:20]` -/
def keyPrefix (key : String) : String := String.ofList (key.toList.take 20)

/-- The parameters of a local generation, with an output name of the occurrence. -/
def scopedParameters (key : String) (parameters : Fields) : Fields :=
  let rawName := strip ((parameters.lookup "output_name").elim "" pyStr)
  if rawName = "" then parameters
  else
    let selected := splitName (pathName rawName)
    Json.setField "output_name" (.str (selected.1 ++ "-" ++ keyPrefix key ++ selected.2)) parameters

omit [Host] in
/-- The target of a local generation, of the occurrence. -/
def scopedResourceId (key : String) (action : AgentAction) : String :=
  action.target.resourceId ++ "-" ++ keyPrefix key

/-- What `_scope_effect_idempotency` makes of one action. -/
def scopedAction (key : String) (action : AgentAction) : Except Exn AgentAction :=
  if isEffect action.risk then
    AgentAction.make { action.toAgentActionFields with
      idempotencyKey := key ++ ":" ++ action.idempotencyKey }
  else if action.risk = .localGeneration then do
    let target ← ResourceRef.make action.target.system action.target.resourceType
      (scopedResourceId key action) action.target.expectedVersion
    AgentAction.make { action.toAgentActionFields with
      target := target
      parameters := scopedParameters key action.parameters }
  else .ok action

/-- `_scope_effect_idempotency` -/
def scopeEffectIdempotency (plan : ChangePlan) (key : String) : Except Exn ChangePlan := do
  let actions ← plan.actions.mapM (scopedAction key)
  match plan.systemsAssessment with
  | none => .error (configurationError "recurring plan lost its systems assessment")
  | some assessment =>
      let unbound ← ChangePlan.make { plan.toChangePlanFields with
        actions := actions
        systemsAssessment := none
        systemsDecision := none }
      bindSystemsGovernance unbound assessment

/-! ## What scoping changes -/

omit [Host] in
/-- The resource a local generation of the occurrence is written to. -/
def scopedIdentity (key : String) (action : AgentAction) : ResourceIdentity :=
  (action.target.system, action.target.resourceType, scopedResourceId key action)

/-- What an action and its image share. -/
structure ScopedTo (key : String) (a image : AgentAction) : Prop where
  actionId : image.actionId = a.actionId
  capability : image.capability = a.capability
  risk : image.risk = a.risk
  dependencies : image.dependencies = a.dependencies
  target : resourceIdentity image =
    if a.risk = .localGeneration then scopedIdentity key a else resourceIdentity a
  parameters : image.parameters =
    if a.risk = .localGeneration then scopedParameters key a.parameters else a.parameters

variable {key : String} {plan bound : ChangePlan} {a image : AgentAction}

omit [Host] in
theorem isEffect_generation {risk : RiskLevel} (effect : isEffect risk = true) :
    risk ≠ .localGeneration := by
  rintro rfl
  cases effect

theorem scopedAction_ok (h : scopedAction key a = .ok image) : ScopedTo key a image := by
  unfold scopedAction at h
  split at h
  · next effect =>
      obtain ⟨valid, rfl⟩ := of_build_ok h
      have kept := isEffect_generation effect
      exact ⟨rfl, rfl, rfl, rfl, (if_neg kept).symm, (if_neg kept).symm⟩
  · split at h
    · next generation =>
        cases built : ResourceRef.make a.target.system a.target.resourceType
            (scopedResourceId key a) a.target.expectedVersion with
        | error e => rw [built] at h; cases h
        | ok target =>
            rw [built, ok_bind] at h
            obtain ⟨valid, rfl⟩ := of_build_ok h
            obtain ⟨valid', rfl⟩ := of_build_ok built
            exact ⟨rfl, rfl, rfl, rfl, (if_pos generation).symm, (if_pos generation).symm⟩
    · next kept =>
        cases h
        exact ⟨rfl, rfl, rfl, rfl, (if_neg kept).symm, (if_neg kept).symm⟩

/-- Scoping takes the actions one by one and in order. -/
theorem scoped_actions (h : scopeEffectIdempotency plan key = .ok bound) :
    List.Forall₂ (ScopedTo key) plan.actions bound.actions := by
  unfold scopeEffectIdempotency at h
  cases images : plan.actions.mapM (scopedAction key) with
  | error e => rw [images] at h; cases h
  | ok actions =>
      rw [images, ok_bind] at h
      split at h
      · cases h
      · next assessment _ =>
          cases built : ChangePlan.make { plan.toChangePlanFields with
              actions := actions
              systemsAssessment := none
              systemsDecision := none } with
          | error e => rw [built] at h; cases h
          | ok unbound =>
              rw [built, ok_bind] at h
              rw [bindSystemsGovernance_actions h]
              obtain ⟨valid, rfl⟩ := of_build_ok built
              exact (forall₂_of_mapM images).imp fun _ _ => scopedAction_ok

/-! ## What a rule asks -/

/-- The digests that parameters expose to the selectors of a capability. -/
def exposedDigests (capability : String) (parameters : Fields) (selectors : List String) :
    Finset String :=
  ((selectors.flatMap fun selector => (selectValues parameters selector).filterMap
    (normalizeValue capability selector)).map digestValue).toFinset

theorem parameterDigests_eq (selectors : List String) :
    parameterDigests a selectors = exposedDigests a.capability a.parameters selectors := rfl

/-- Some write of the owner exposes the digests, and the action depends on it. -/
def Authorized (rule : SourceRule) (plan : ChangePlan) (a : AgentAction) (digests : Finset String) :
    Prop :=
  ∃ writes, canonicalWrites rule plan = .ok writes ∧
    ∃ write ∈ writes, write.2 = digests ∧ write.1.actionId ∈ dependencyAncestors plan a

/-- An action of the plan, written to a target with parameters, meets a rule. -/
def Meets (rule : SourceRule) (plan : ChangePlan) (a : AgentAction) (target : ResourceIdentity)
    (parameters : Fields) : Prop :=
  target ∈ rule.projectionResources →
    if a.capability ∈ rule.projectionCapabilities then
      ∃ selectors, selectorsFor rule.projectionExtractors a.capability = .ok selectors ∧
        (exposedDigests a.capability parameters selectors).card = 1 ∧
        Authorized rule plan a (exposedDigests a.capability parameters selectors)
    else a.risk = .readOnly

/-- `SourceOfTruthRegistry.validate` accepts an action. -/
def Accepts (rules : List SourceRule) (plan : ChangePlan) (a : AgentAction) : Prop :=
  ∃ reason, validateSources rules plan a = .ok (true, reason)

variable {rule : SourceRule} {rules : List SourceRule}

/-- The last two questions a rule asks: is there a write of the owner, and is a matching one among
the dependencies. -/
theorem authorized_iff {writes : List (AgentAction × Finset String)} {digests : Finset String}
    (found : canonicalWrites rule plan = .ok writes) : Authorized rule plan a digests ↔
      writes ≠ [] ∧ ((writes.filter (·.2 = digests)).any fun write =>
        (dependencyAncestors plan a).contains write.1.actionId) = true := by
  unfold Authorized
  rw [found]
  constructor
  · rintro ⟨_, same, write, member, exposed, ancestor⟩
    cases same
    refine ⟨List.ne_nil_of_mem member, List.any_eq_true.mpr ⟨write, ?_, ?_⟩⟩
    · exact List.mem_filter.mpr ⟨member, decide_eq_true exposed⟩
    · exact List.contains_iff_mem.mpr ancestor
  · rintro ⟨-, some⟩
    obtain ⟨write, matching, ancestor⟩ := List.any_eq_true.mp some
    obtain ⟨member, exposed⟩ := List.mem_filter.mp matching
    exact ⟨writes, rfl, write, member, of_decide_eq_true exposed,
      List.contains_iff_mem.mp ancestor⟩

theorem ruleRefusal_none_iff :
    ruleRefusal rule plan a = .ok none ↔ Meets rule plan a (resourceIdentity a) a.parameters := by
  unfold ruleRefusal Meets
  by_cases projection : resourceIdentity a ∈ rule.projectionResources
  · by_cases approved : a.capability ∈ rule.projectionCapabilities
    · rw [if_neg (not_not_intro (List.contains_iff_mem.mpr projection)),
        if_neg (not_not_intro (List.contains_iff_mem.mpr approved)), if_pos approved]
      cases mine : selectorsFor rule.projectionExtractors a.capability with
      | error e => simp [projection, bind, Except.bind]
      | ok selectors =>
          rw [ok_bind]
          simp only [Except.ok.injEq, exists_eq_left', ← parameterDigests_eq, projection,
            forall_const]
          by_cases single : (parameterDigests a selectors).card = 1
          · rw [if_neg (not_not_intro single)]
            cases found : canonicalWrites rule plan with
            | error e => simp [single, found, Authorized, bind, Except.bind]
            | ok writes =>
                rw [ok_bind, authorized_iff found]
                by_cases owned : writes = []
                · simp [owned, pure_ok]
                · rw [if_neg owned]
                  split <;> simp_all [pure_ok]
          · simp [single, pure_ok]
    · by_cases read : a.risk = .readOnly <;> simp [projection, approved, read]
  · simp [projection]

/-- All rules are met, or the first that is not refuses the action or raises. -/
theorem accepts_iff :
    Accepts rules plan a ↔ ∀ rule ∈ rules, Meets rule plan a (resourceIdentity a) a.parameters := by
  constructor
  · rintro ⟨reason, accepted⟩ rule member
    exact ruleRefusal_none_iff.mp (ruleRefusal_of_accepted accepted member)
  · intro met
    refine ⟨"source-of-truth policy satisfied", ?_⟩
    induction rules with
    | nil => rfl
    | cons rule rules ih =>
        have passed := ruleRefusal_none_iff.mpr (met rule List.mem_cons_self)
        unfold validateSources
        rw [passed, ok_bind]
        exact ih fun other later => met other (List.mem_cons_of_mem rule later)

/-! ## What scoping keeps -/

variable {actions images : List AgentAction}

omit [Host] in
theorem find_scoped [Host] (paired : List.Forall₂ (ScopedTo key) actions images) (id : Uuid) :
    dependenciesOf images id = dependenciesOf actions id := by
  unfold dependenciesOf
  induction paired with
  | nil => rfl
  | @cons a image actions images head _ ih =>
      by_cases found : a.actionId = id
      · simp [head.actionId, found, head.dependencies]
      · simpa [head.actionId, found] using ih

theorem ids_scoped (paired : List.Forall₂ (ScopedTo key) actions images) :
    images.map (·.actionId) = actions.map (·.actionId) := by
  induction paired with
  | nil => rfl
  | cons head _ ih => rw [List.map_cons, List.map_cons, head.actionId, ih]

theorem ancestors_scoped (paired : List.Forall₂ (ScopedTo key) plan.actions bound.actions)
    (scoping : ScopedTo key a image) :
    dependencyAncestors bound image = dependencyAncestors plan a := by
  have succ : dependenciesOf bound.actions = dependenciesOf plan.actions :=
    funext (find_scoped paired)
  unfold dependencyAncestors
  rw [succ, ids_scoped paired, scoping.dependencies]

omit [Host] in
/-- Two traversals that agree up to a summary agree so with one more element in front. -/
theorem map_cons_congr {R S : Type} {summary : R → S} {xs ys : Except Exn (List R)} {x y : R}
    (later : xs.map (·.map summary) = ys.map (·.map summary)) (first : summary x = summary y) :
    (xs >>= fun rest => pure (x :: rest)).map (·.map summary) =
      (ys >>= fun rest => pure (y :: rest)).map (·.map summary) := by
  cases xs with
  | error e =>
      cases ys with
      | error e' => exact later
      | ok ys => cases later
  | ok xs =>
      cases ys with
      | error e' => cases later
      | ok ys =>
          simp only [Except.map, Except.ok.injEq] at later
          simp only [ok_bind, pure_ok, Except.map, List.map_cons, later, first]

/-- The writes of an owner are effects, whose target and parameters stay: they expose what they
exposed. -/
theorem writes_scoped (paired : List.Forall₂ (ScopedTo key) plan.actions bound.actions) :
    (canonicalWrites rule bound).map (·.map fun write => (write.1.actionId, write.2)) =
      (canonicalWrites rule plan).map (·.map fun write => (write.1.actionId, write.2)) := by
  unfold canonicalWrites
  generalize plan.actions = actions, bound.actions = images at paired
  induction paired with
  | nil => rfl
  | @cons a image actions images head _ ih =>
      have owner : (resourceIdentity image == rule.canonicalResource && isEffect image.risk &&
            rule.canonicalCapabilities.contains image.capability) =
          (resourceIdentity a == rule.canonicalResource && isEffect a.risk &&
            rule.canonicalCapabilities.contains a.capability) := by
        rw [head.risk, head.capability]
        by_cases effect : isEffect a.risk = true
        · rw [head.target, if_neg (isEffect_generation effect)]
        · simp [effect]
      rw [List.filter_cons, List.filter_cons, owner]
      split
      · next kept =>
          have effect : isEffect a.risk = true := by
            simp only [Bool.and_eq_true] at kept
            exact kept.1.2
          have parameters : image.parameters = a.parameters := by
            rw [head.parameters, if_neg (isEffect_generation effect)]
          rw [List.mapM_cons, List.mapM_cons, head.capability]
          cases selectorsFor rule.canonicalExtractors a.capability with
          | error e => rfl
          | ok selectors =>
              have digests : parameterDigests image selectors = parameterDigests a selectors := by
                rw [parameterDigests_eq, parameterDigests_eq, head.capability, parameters]
              exact map_cons_congr ih (congrArg₂ Prod.mk head.actionId digests)
      · exact ih

theorem authorized_scoped (paired : List.Forall₂ (ScopedTo key) plan.actions bound.actions)
    (scoping : ScopedTo key a image) {digests : Finset String} :
    Authorized rule bound image digests ↔ Authorized rule plan a digests := by
  unfold Authorized
  rw [ancestors_scoped paired scoping]
  have summary : (canonicalWrites rule bound).map _ = (canonicalWrites rule plan).map _ :=
    writes_scoped paired
  cases before : canonicalWrites rule plan with
  | error e =>
      cases after : canonicalWrites rule bound with
      | error e' => simp
      | ok writes => rw [before, after] at summary; cases summary
  | ok writes =>
      cases after : canonicalWrites rule bound with
      | error e' => rw [before, after] at summary; cases summary
      | ok images =>
          rw [before, after] at summary
          have same (id : Uuid) (exposed : Finset String) :
              (∃ write ∈ images, write.1.actionId = id ∧ write.2 = exposed) ↔
                ∃ write ∈ writes, write.1.actionId = id ∧ write.2 = exposed := by
            have summaries := Except.ok.inj summary
            have member := congrArg ((id, exposed) ∈ ·) summaries
            simpa only [List.mem_map, Prod.mk.injEq, eq_iff_iff] using member
          simp only [Except.ok.injEq, exists_eq_left']
          constructor
          · rintro ⟨write, member, exposed, ancestor⟩
            obtain ⟨w, member', id, exposed'⟩ := (same _ _).mp ⟨write, member, rfl, exposed⟩
            exact ⟨w, member', exposed', id ▸ ancestor⟩
          · rintro ⟨write, member, exposed, ancestor⟩
            obtain ⟨w, member', id, exposed'⟩ := (same _ _).mpr ⟨write, member, rfl, exposed⟩
            exact ⟨w, member', exposed', id ▸ ancestor⟩

/-- Of one target and one set of parameters, a rule asks in the scoped plan what it asks in the
plan. -/
theorem meets_scoped (paired : List.Forall₂ (ScopedTo key) plan.actions bound.actions)
    (scoping : ScopedTo key a image) {target : ResourceIdentity} {parameters : Fields} :
    Meets rule bound image target parameters ↔ Meets rule plan a target parameters := by
  unfold Meets
  rw [scoping.capability, scoping.risk]
  simp only [authorized_scoped paired scoping]

/-! ## When scoping preserves control -/

/-- An action that is no local generation keeps its verdict. A local generation keeps it exactly
when the rules that name its own target and the rules that name its target of the occurrence are met
alike, the first with its own parameters and the second with its output renamed. -/
theorem scoping_preserves_iff (scoping : scopeEffectIdempotency plan key = .ok bound)
    (member : (a, image) ∈ plan.actions.zip bound.actions) (rules : List SourceRule) :
    (Accepts rules bound image ↔ Accepts rules plan a) ↔
      (a.risk = .localGeneration →
        ((∃ rule ∈ rules, ¬Meets rule plan a (scopedIdentity key a)
            (scopedParameters key a.parameters)) ↔
          ∃ rule ∈ rules, ¬Meets rule plan a (resourceIdentity a) a.parameters)) := by
  have paired := scoped_actions scoping
  have image_of : ScopedTo key a image := (List.forall₂_iff_zip.mp paired).2 member
  rw [accepts_iff, accepts_iff, image_of.target, image_of.parameters]
  simp only [meets_scoped paired image_of]
  by_cases generation : a.risk = .localGeneration
  · rw [if_pos generation, if_pos generation]
    have broken (M : SourceRule → Prop) : (∃ rule ∈ rules, ¬M rule) ↔ ¬∀ rule ∈ rules, M rule := by
      simp
    rw [broken, broken, not_iff_not]
    simp only [generation, forall_const]
  · simp [generation]

end Recurring

end

/-! ### A draft that leaves its rule -/

namespace Recurring.Samples

local instance : Host := plainHost

/-- An unsent mail, generated locally. -/
def draft : AgentAction where
  capability := "outlook.email.draft"
  target := ⟨"outlook", "draft", "weekly", none, by decide⟩
  parameters := [("body", .str "done"), ("output_name", .str "mail.eml")]
  risk := .localGeneration
  authoritySource := .registeredWorkflow
  requiresApproval := false
  idempotencyKey := "p:outlook"
  justification := "Generate an unsent email draft."
  dataClassification := .internal
  dependencies := []
  actionId := numbered 1
  valid := by decide

def executionKey : String := (numeral 0).val

/-- The draft of the occurrence. -/
def occurrenceDraft : AgentAction where
  toAgentActionFields := { draft.toAgentActionFields with
    target := ⟨"outlook", "draft", "weekly-00000000000000000000", none, by decide⟩
    parameters := [("body", .str "done"),
      ("output_name", .str "mail-00000000000000000000.eml")] }
  valid := by decide

def assessment : SystemsAssessment where
  toSystemsAssessmentFields := { sampleAssessment.toSystemsAssessmentFields with
    lowRisk := true
    reversible := true
    wellUnderstood := true
    strategyKernel := none }
  valid := by decide +kernel

def decision : SystemsGateDecision where
  route := .fastPath
  permitted := true
  reasons := ["explicit fast path accepted"]
  complexityScore := 0
  assessmentFingerprint := assessment.fingerprint
  requiresHumanReview := false
  strategyCoherenceReviewFingerprint := none
  schema := "master-agent/systems-gate-decision@1"
  valid := by decide +kernel

def runtime : RuntimeExecutionBinding where
  fields := {
    connectorMode := "live"
    includeWrites := false
    includeCommunications := false
    auditDatabase := "/audit/db"
    artifactRoot := "/out"
    workspaceRoot := none
    resultJson := none
    evidenceType := none
    configurations := []
    runtimePaths :=
      [⟨⟨"artifact.root", "/out", "/out", 1, 3, 0, 448, none⟩, by decide +kernel⟩,
        ⟨⟨"audit.parent", "/audit", "/audit", 1, 2, 0, 448, none⟩, by decide +kernel⟩]
    credentialFile := none
    publicationRoots := []
    schema := "master-agent/runtime-execution-binding@2" }
  normal := by decide +kernel
  valid := by decide +kernel

def context : ExecutionContext where
  fields := {
    integrationsSha256 := executionKey
    connectors := []
    plugins := []
    capsules := []
    runtime := some runtime
    schema := "master-agent/execution-context@2" }
  normal := by decide +kernel
  valid := by decide +kernel

def plan : ChangePlan where
  toChangePlanFields := { samplePlan [draft] with
    executionContext := some context
    systemsAssessment := some assessment
    systemsDecision := some decision }
  valid := by decide +kernel
  trustedStrategyCoherenceAdmission := false

def workflow : RegisteredWorkflow where
  allowedCapabilities := ["outlook.email.draft"]
  allowedRecipients := []
  canonicalSources := ["outlook://weekly"]

/-- The status of an issue, projected into a mail. -/
def status (projection : String) : SourceRule where
  field := "status"
  canonicalResource := ("jira", "issue", "OPS-1")
  projectionResources := [("outlook", "draft", projection)]
  direction := "outbound_only"
  canonicalCapabilities := ["jira.issue.transition"]
  projectionCapabilities := ["outlook.email.draft"]
  canonicalExtractors := [("jira.issue.transition", ["target_status"])]
  projectionExtractors := [("outlook.email.draft", ["body"])]

theorem scopes : ∃ bound, scopeEffectIdempotency plan executionKey = .ok bound ∧
    (draft, occurrenceDraft) ∈ plan.actions.zip bound.actions := by
  have actions : (scopeEffectIdempotency plan executionKey).toOption.map (·.actions) =
      some [occurrenceDraft] := by decide +kernel
  cases scoping : scopeEffectIdempotency plan executionKey with
  | error e => rw [scoping] at actions; cases actions
  | ok bound =>
      rw [scoping] at actions
      refine ⟨bound, rfl, ?_⟩
      have drafted : bound.actions = [occurrenceDraft] := Option.some.inj actions
      rw [drafted]
      exact List.mem_singleton_self _

/-- Of a rule about another mail, scoping changes nothing. -/
theorem unrelated_rule : ∃ bound, scopeEffectIdempotency plan executionKey = .ok bound ∧
    (Accepts [status "monthly"] bound occurrenceDraft ↔ Accepts [status "monthly"] plan draft) := by
  obtain ⟨bound, scoping, member⟩ := scopes
  refine ⟨bound, scoping, (scoping_preserves_iff scoping member [status "monthly"]).mpr
    fun _ => ?_⟩
  have elsewhere (target : ResourceIdentity) (parameters : Fields)
      (other : target ∉ (status "monthly").projectionResources) :
      ¬∃ rule ∈ [status "monthly"], ¬Meets rule plan draft target parameters := by
    rintro ⟨rule, member, broken⟩
    rw [List.mem_singleton.mp member] at broken
    exact broken fun projection => absurd projection other
  exact iff_of_false (elsewhere _ _ (by decide +kernel)) (elsewhere _ _ (by decide +kernel))

/-- An admitted plan: the mail projects the status without an update of the issue and is refused,
the mail of the occurrence is accepted. -/
theorem draft_escapes : validatePlanScope plan workflow = .ok () ∧
    ∃ bound, scopeEffectIdempotency plan executionKey = .ok bound ∧
      (draft, occurrenceDraft) ∈ plan.actions.zip bound.actions ∧
      ¬Accepts [status "weekly"] plan draft ∧ Accepts [status "weekly"] bound occurrenceDraft := by
  obtain ⟨bound, scoping, member⟩ := scopes
  have refused : (ruleRefusal (status "weekly") plan draft).toOption ≠ some none := by
    decide +kernel
  have other : resourceIdentity occurrenceDraft ∉ (status "weekly").projectionResources := by
    decide +kernel
  refine ⟨by decide +kernel, bound, scoping, member, fun ⟨reason, accepted⟩ => refused ?_, ?_⟩
  · rw [ruleRefusal_of_accepted accepted (List.mem_singleton_self _)]
    rfl
  · refine accepts_iff.mpr fun rule member => ?_
    rw [List.mem_singleton.mp member]
    exact fun projection => absurd projection other

end Recurring.Samples

end MasterAgent
