import MasterAgent.Advisory.Budget
import MasterAgent.Advisory.Payload

/-!
# Delegation

A session hands one task to a worker: the identifier of the task, the name of the profile, the selected
semantic route and a sanitized payload. The report that comes back is validated before the session
calls the delegation completed.

Results:

1. `searched_clean`: what a semantic route has passed;
2. `validateReport_ok`: what a report has passed;
3. `delegate_handed`, `delegate_completed`: what a delegation hands over and what it returns;
4. `delegated_payloads`: which texts decide whether a secret passes.
-/

namespace MasterAgent.Advisory
open Base

def advisoryReportRejected (message : String) : Exn :=
  ⟨.valueError, "AdvisoryReportRejected", message⟩

variable [Host] [CharTables]

/-! ## Semantic routes -/

structure SemanticRouteSliceFields where
  route : String
  title : String
  lifecycle : String
  summary : String
  authority : List String
  implementation : List String
  configuration : List String
  tests : List String
  releaseGates : List String
  dependencies : List String

/-- A character of `[a-z0-9]`. -/
def isRouteStart (c : Char) : Bool := c.isLower || c.isDigit

/-- `_SEMANTIC_ROUTE_ID.fullmatch` -/
def isSemanticRouteId (text : String) : Bool :=
  match text.toList with
  | [] => false
  | c :: cs => isRouteStart c && cs.length ≤ 127 &&
      cs.all fun d => isRouteStart d || d == '.' || d == '_' || d == '-'

/-- The checks on the title, the lifecycle and the summary. -/
def checkRouteText (fieldName value : String) : Except Exn Unit :=
  if strip value = "" ∨ value ≠ strip value ∨ value.toList.length > 4096 ∨
      value.toList.any fun c => c.toNat < 32 then
    .error (advisoryPayloadRejected ("semantic route " ++ fieldName ++ " must contain bounded text"))
  else rejectSecretText value ("semantic route " ++ fieldName)

/-- The checks on one tuple of paths. -/
def checkRoutePaths (fieldName : String) (values : List String) : Except Exn Unit := do
  raiseIf (values.length > 256)
    (advisoryPayloadRejected ("semantic route " ++ fieldName ++ " must be a bounded tuple"))
  values.forM fun value =>
    if value.toList.length > 1024 then
      .error (advisoryPayloadRejected ("semantic route " ++ fieldName ++ " contains an invalid path"))
    else
      match normalizePath value with
      | .ok _ => .ok ()
      | .error _ =>
        .error (advisoryPayloadRejected ("semantic route " ++ fieldName ++ " contains an unsafe path"))

/-- `SemanticRouteSlice.__post_init__` -/
def SemanticRouteSliceFields.check (x : SemanticRouteSliceFields) : Except Exn Unit := do
  raiseIf (isSemanticRouteId x.route = false)
    (advisoryPayloadRejected "semantic route must be one stable lowercase identifier")
  checkRouteText "title" x.title
  checkRouteText "lifecycle" x.lifecycle
  checkRouteText "summary" x.summary
  checkRoutePaths "authority" x.authority
  checkRoutePaths "implementation" x.implementation
  checkRoutePaths "configuration" x.configuration
  checkRoutePaths "tests" x.tests
  checkRoutePaths "release_gates" x.releaseGates
  raiseIf (x.dependencies.length > 256)
    (advisoryPayloadRejected "semantic route dependencies must be a bounded tuple")
  raiseIf (∃ dependency ∈ x.dependencies, isSemanticRouteId dependency = false)
    (advisoryPayloadRejected "semantic route dependencies contain an invalid identifier")

/-- A route that its constructor accepts. -/
structure SemanticRouteSlice where
  fields : SemanticRouteSliceFields
  accepted : fields.check = .ok ()

/-- The texts of a route that are searched for secrets. -/
def SemanticRouteSliceFields.searched (x : SemanticRouteSliceFields) : List String :=
  [x.title, x.lifecycle, x.summary]

/-- The texts of a route that are not: its identifier, its paths and its dependencies. -/
def SemanticRouteSliceFields.unsearched (x : SemanticRouteSliceFields) : List String :=
  x.route :: (x.authority ++ x.implementation ++ x.configuration ++ x.tests ++ x.releaseGates ++
    x.dependencies)

omit [Host] in
theorem checkRouteText_ok {fieldName value : String} (accepted : checkRouteText fieldName value = .ok ()) :
    ¬ SecretLike value := by
  rw [checkRouteText, rejectSecretText] at accepted
  split at accepted
  · cases accepted
  · split at accepted
    · cases accepted
    · assumption

theorem searched_clean (route : SemanticRouteSlice) :
    ∀ text ∈ route.fields.searched, ¬ SecretLike text := by
  obtain ⟨x, accepted⟩ := route
  rw [SemanticRouteSliceFields.check] at accepted
  obtain ⟨_, _, rest⟩ := of_bind_ok accepted
  obtain ⟨⟨⟩, title, rest'⟩ := of_bind_ok rest
  obtain ⟨⟨⟩, lifecycle, rest''⟩ := of_bind_ok rest'
  obtain ⟨⟨⟩, summary, _⟩ := of_bind_ok rest''
  simp only [SemanticRouteSliceFields.searched, List.forall_mem_cons, List.not_mem_nil,
    false_imp_iff, implies_true, and_true]
  exact ⟨checkRouteText_ok title, checkRouteText_ok lifecycle, checkRouteText_ok summary⟩

/-! ## Reports -/

structure AdvisoryReport where
  summary : String
  findings : List String
  citations : List String
  proposedTarget : Option String
  claimedApproval : Option String
  proposedPlan : Option Payload
  extra : List (Option String × Payload)

/-- The exceptions of a report's texts become rejections of the report. -/
def asReportRejection (e : Exn) : Exn :=
  if e.className = "AdvisoryPayloadRejected" ∨ e.className = "AdvisoryDispatchDenied" then
    advisoryReportRejected e.message
  else e

/-- `if report.extra: sanitize_payload(report.extra)` -/
def checkExtra (report : AdvisoryReport) : Except Exn Unit :=
  if report.extra.isEmpty then .ok () else discard (sanitizePayload (.mapping report.extra))

/-- The checks of `_validate_report` that may raise for a text of the report. -/
def checkReportTexts (report : AdvisoryReport) : Except Exn Unit := do
  rejectSecretText report.summary "report summary"
  report.findings.forM fun finding => do
    raiseIf (strip finding = "" ∨ finding.toList.length > MAX_TEXT)
      (advisoryReportRejected "report finding must contain bounded text")
    rejectSecretText finding "report finding"
  checkExtra report
  report.citations.forM fun citation => discard (normalizePath citation)

/-- `_validate_report` -/
def validateReport (report : AdvisoryReport) : Except Exn Unit := do
  raiseIf (strip report.summary = "" ∨ report.summary.toList.length > MAX_TEXT)
    (advisoryReportRejected "report summary must contain bounded text")
  raiseIf (report.findings.length > 64 ∨ report.citations.length > 64)
    (advisoryReportRejected "report exceeds the item limit")
  raiseIf report.proposedTarget.isSome (advisoryReportRejected "report cannot select a target")
  raiseIf report.claimedApproval.isSome (advisoryReportRejected "report cannot claim approval")
  raiseIf report.proposedPlan.isSome
    (advisoryReportRejected "report cannot create or alter a plan")
  (checkReportTexts report).mapError asReportRejection

omit [Host] in
theorem rejectSecretText_ok {value context : String} (accepted : rejectSecretText value context = .ok ()) :
    ¬ SecretLike value := by
  rw [rejectSecretText] at accepted
  split at accepted
  · cases accepted
  · assumption

/-- The keys and the texts of the extra data. -/
def AdvisoryReport.extraTexts (report : AdvisoryReport) : List String := textsOfMembers report.extra
def AdvisoryReport.extraKeys (report : AdvisoryReport) : List String := keysOfMembers report.extra

/-- What a report has passed. -/
structure Searched (report : AdvisoryReport) : Prop where
  summary : ¬ SecretLike report.summary
  findings : ∀ finding ∈ report.findings, ¬ SecretLike finding
  extra : ∀ text ∈ report.extraTexts, ¬ SecretLike text

theorem validateReport_ok {report : AdvisoryReport} (accepted : validateReport report = .ok ()) :
    Searched report := by
  rw [validateReport] at accepted
  obtain ⟨_, _, rest⟩ := of_bind_ok accepted
  obtain ⟨_, _, rest'⟩ := of_bind_ok rest
  obtain ⟨_, _, rest''⟩ := of_bind_ok rest'
  obtain ⟨_, _, rest'''⟩ := of_bind_ok rest''
  obtain ⟨_, _, checked⟩ := of_bind_ok rest'''
  obtain ⟨⟨⟩, texts⟩ : ∃ u : Unit, checkReportTexts report = .ok u := by
    cases texts : checkReportTexts report with
    | error e => rw [texts] at checked; cases checked
    | ok u => exact ⟨u, rfl⟩
  rw [checkReportTexts] at texts
  obtain ⟨⟨⟩, summary, others⟩ := of_bind_ok texts
  obtain ⟨⟨⟩, findings, others'⟩ := of_bind_ok others
  obtain ⟨_, extra, _⟩ := of_bind_ok others'
  refine ⟨rejectSecretText_ok summary, fun finding member => ?_, fun text member => ?_⟩
  · obtain ⟨_, _, clean⟩ := of_bind_ok (of_forM_ok findings member)
    exact rejectSecretText_ok clean
  · rw [AdvisoryReport.extraTexts] at member
    rw [checkExtra] at extra
    split at extra
    · rename_i empty
      rw [List.isEmpty_iff.mp empty] at member
      exact absurd member List.not_mem_nil
    · cases copied : sanitizePayload (.mapping report.extra) with
      | error e => rw [copied] at extra; cases extra
      | ok copy => exact (sanitizePayload_ok copied).2.2.2 text member

/-! ## Sessions -/

def PARENT_PROFILE_PATH : String := ".github/agents/MasterAgent.agent.md"
def RESEARCHER_PROFILE_PATH : String := ".github/agents/MasterAgent-Read-Researcher.agent.md"
def PLAN_REVIEWER_PROFILE_PATH : String := ".github/agents/MasterAgent-Plan-Reviewer.agent.md"

structure AgentProfile where
  path : String
  name : String
  description : String
  tools : List String
  userInvocable : Bool
  disableModelInvocation : Bool
  body : String
deriving DecidableEq

/-- An inventory as the loaders build it, which is the only way one is built: each profile is parsed
under the path that it is read from. -/
structure AgentInventory where
  parent : AgentProfile
  researcher : AgentProfile
  reviewer : AgentProfile
  parent_path : parent.path = PARENT_PROFILE_PATH
  researcher_path : researcher.path = RESEARCHER_PROFILE_PATH
  reviewer_path : reviewer.path = PLAN_REVIEWER_PROFILE_PATH

def AgentInventory.child (inventory : AgentInventory) : AdvisoryRole → AgentProfile
  | .research => inventory.researcher
  | .planReview => inventory.reviewer

inductive DelegationStatus where
  | completed | fallback | denied
deriving DecidableEq, Repr

structure AdvisoryEnvelope where
  taskId : String
  role : AdvisoryRole
  profileName : String
  depth : Int
  semanticRoute : SemanticRouteSlice
  payload : Json

structure AdvisoryDispatcher where
  profile : AgentProfile
  repository : RepositoryFixture

abbrev AdvisoryWorker := AdvisoryEnvelope → AdvisoryDispatcher → Except Exn AdvisoryReport

structure DelegationOutcome where
  status : DelegationStatus
  role : AdvisoryRole
  fallbackToParent : Bool
  reason : String
  report : Option AdvisoryReport

/-- `reserve(goal_id, role, max_research_tasks=…, max_plan_reviews=…)` -/
abbrev AdvisoryBudget := String → AdvisoryRole → Nat → Nat → Except Exn AdvisoryBudgetReservation

structure AdvisoryBroker where
  inventory : AgentInventory
  repository : RepositoryFixture
  budget : Option AdvisoryBudget

structure AdvisorySession where
  broker : AdvisoryBroker
  taskId : String
  goalId : String
  semanticRoute : Option SemanticRouteSlice
  researchAttempts : Int
  reviewAttempts : Int

def MAX_RESEARCH_TASKS : Nat := 3
def MAX_PLAN_REVIEWS : Nat := 1

/-- `AdvisoryBroker.start_session` -/
def AdvisoryBroker.startSession (broker : AdvisoryBroker) (parentName taskId : String)
    (goalId : Option String) (semanticRoute : Option SemanticRouteSlice) :
    Except Exn AdvisorySession := do
  raiseIf (parentName ≠ broker.inventory.parent.name)
    (advisoryDispatchDenied "session must be owned by selected MasterAgent")
  raiseIf (strip taskId = "" ∨ taskId.toList.length > 256)
    (advisoryPayloadRejected "task_id must contain 1-256 characters")
  let selectedGoal := goalId.getD taskId
  raiseIf (strip selectedGoal = "" ∨ selectedGoal ≠ strip selectedGoal ∨
      selectedGoal.toList.length > 256)
    (advisoryPayloadRejected "goal_id must contain 1-256 characters")
  .ok ⟨broker, taskId, selectedGoal, semanticRoute, 0, 0⟩

/-- `AdvisorySession._reserve` -/
def AdvisorySession.reserve (session : AdvisorySession) (role : AdvisoryRole) :
    Except Exn (Bool × AdvisorySession) :=
  match session.broker.budget, role with
  | some budget, role => do
    let reservation ← budget session.goalId role MAX_RESEARCH_TASKS MAX_PLAN_REVIEWS
    .ok (reservation.allowed,
      { session with
        researchAttempts := reservation.researchAttempts
        reviewAttempts := reservation.reviewAttempts })
  | none, .research =>
    if session.researchAttempts ≥ MAX_RESEARCH_TASKS then .ok (false, session)
    else .ok (true, { session with researchAttempts := session.researchAttempts + 1 })
  | none, .planReview =>
    if session.reviewAttempts ≥ MAX_PLAN_REVIEWS then .ok (false, session)
    else .ok (true, { session with reviewAttempts := session.reviewAttempts + 1 })

/-- `_content_minimized_worker_failure` -/
def contentMinimizedWorkerFailure (error : Exn) : String :=
  match error.className with
  | "CopilotSdkUnavailable" =>
    "optional Copilot SDK is unavailable; keep work on the parent path"
  | "CopilotRepositoryChanged" =>
    "advisory repository state changed during delegation; use parent fallback"
  | "CopilotRepositoryScanRejected" =>
    "advisory repository state could not be bound; use parent fallback"
  | "CopilotScopeRejected" => "advisory route scope failed closed; keep work on the parent path"
  | "CopilotResponseRejected" =>
    "advisory worker output was rejected; keep work on the parent path"
  | _ => "advisory worker failed closed; keep work on the parent path"

/-- A delegation that returns: its outcome, the session after it and what the worker was called with. -/
structure Delegated where
  outcome : DelegationOutcome
  session : AdvisorySession
  handed : Option AdvisoryEnvelope

/-- An outcome that keeps the work on the parent. -/
def keptOnParent (status : DelegationStatus) (role : AdvisoryRole) (reason : String) :
    DelegationOutcome :=
  ⟨status, role, true, reason, none⟩

/-- The worker's run and the validation of its report. -/
def outcomeOf (role : AdvisoryRole) (ran : Except Exn AdvisoryReport) : DelegationOutcome :=
  match (do let report ← ran; validateReport report; .ok report) with
  | .ok report =>
    ⟨.completed, role, false, "untrusted report returned for parent re-validation", some report⟩
  | .error error => keptOnParent .fallback role (contentMinimizedWorkerFailure error)

/-- `except (OSError, RuntimeError, ValueError)` -/
def isUnavailable (error : Exn) : Bool :=
  error.kind = .osError || error.kind = .runtime || error.kind.isValueError

/-- `AdvisorySession.delegate` from the reservation on. -/
def AdvisorySession.delegateSanitized (session : AdvisorySession) (role : AdvisoryRole)
    (semanticRoute : SemanticRouteSlice) (sanitized : Json) (worker : Option AdvisoryWorker)
    (depth : Int) : Except Exn Delegated :=
  match session.reserve role with
  | .error error =>
    if isUnavailable error then
      .ok ⟨keptOnParent .fallback role
        "advisory budget state is unavailable; keep work on the parent path", session, none⟩
    else .error error
  | .ok (false, session) =>
    .ok ⟨keptOnParent .fallback role "delegation budget exhausted; keep work on the parent path",
      session, none⟩
  | .ok (true, session) =>
    match worker with
    | none =>
      .ok ⟨keptOnParent .fallback role
        "no approved host adapter is available; complete the task directly", session, none⟩
    | some worker =>
      let profile := session.broker.inventory.child role
      let envelope : AdvisoryEnvelope :=
        ⟨session.taskId, role, profile.name, depth, semanticRoute, sanitized⟩
      .ok ⟨outcomeOf role (worker envelope ⟨profile, session.broker.repository⟩), session,
        some envelope⟩

/-- `AdvisorySession.delegate` -/
def AdvisorySession.delegate (session : AdvisorySession) (role : AdvisoryRole) (payload : Payload)
    (worker : Option AdvisoryWorker) (depth : Int) : Except Exn Delegated :=
  if depth ≠ 0 then
    .ok ⟨keptOnParent .denied role "nested delegation is denied; keep the task on the parent",
      session, none⟩
  else
    match session.semanticRoute with
    | none =>
      .ok ⟨keptOnParent .denied role "one validated parent-selected semantic route is required",
        session, none⟩
    | some semanticRoute =>
      match sanitizePayload payload with
      | .ok sanitized => session.delegateSanitized role semanticRoute sanitized worker depth
      | .error error =>
        if error.className = "AdvisoryPayloadRejected" then
          .ok ⟨keptOnParent .denied role error.str, session, none⟩
        else .error error

/-! ## What a delegation hands over -/

/-- The texts of an envelope: those of the session and the route, and the payload's keys and values. -/
def AdvisoryEnvelope.texts (envelope : AdvisoryEnvelope) : List String :=
  envelope.taskId :: envelope.profileName ::
    (envelope.semanticRoute.fields.searched ++ envelope.semanticRoute.fields.unsearched ++
      jsonKeys envelope.payload ++ jsonTexts envelope.payload)

/-- The texts of a report. -/
def AdvisoryReport.texts (report : AdvisoryReport) : List String :=
  report.summary :: (report.findings ++ report.citations ++ report.extraKeys ++ report.extraTexts)

/-- No text looks like a secret. -/
def Clean (texts : List String) : Prop := ∀ text ∈ texts, ¬ SecretLike text

instance (texts : List String) : Decidable (Clean texts) :=
  inferInstanceAs (Decidable (∀ text ∈ texts, ¬ SecretLike text))

omit [Host] in
theorem clean_append {texts others : List String} :
    Clean (texts ++ others) ↔ Clean texts ∧ Clean others :=
  List.forall_mem_append

omit [Host] in
theorem clean_cons {text : String} {texts : List String} :
    Clean (text :: texts) ↔ ¬ SecretLike text ∧ Clean texts :=
  List.forall_mem_cons

/-- A payload and a route that were accepted, whatever task they are put into. -/
theorem accepted_clean {payload : Payload} {copy : Json} (accepted : sanitizePayload payload = .ok copy)
    (route : SemanticRouteSlice) (taskId profileName : String) (role : AdvisoryRole) (depth : Int) :
    Bounded copy ∧
      (Clean (AdvisoryEnvelope.texts ⟨taskId, role, profileName, depth, route, copy⟩) ↔
        Clean (taskId :: profileName :: (route.fields.unsearched ++ payload.keys))) := by
  obtain ⟨bounded, texts, keys, clean⟩ := sanitizePayload_ok accepted
  refine ⟨bounded, ?_⟩
  have searched : Clean route.fields.searched := searched_clean route
  have values : Clean payload.texts := clean
  simp only [AdvisoryEnvelope.texts, texts, keys, clean_cons, clean_append, searched, values,
    true_and, and_true]

theorem reserve_same {session after : AdvisorySession} {role : AdvisoryRole} {allowed : Bool}
    (reserved : session.reserve role = .ok (allowed, after)) :
    after.broker = session.broker ∧ after.taskId = session.taskId := by
  unfold AdvisorySession.reserve at reserved
  split at reserved
  · obtain ⟨reservation, _, done⟩ := of_bind_ok reserved
    cases done
    exact ⟨rfl, rfl⟩
  · split at reserved <;> cases reserved <;> exact ⟨rfl, rfl⟩
  · split at reserved <;> cases reserved <;> exact ⟨rfl, rfl⟩

/-- A report is returned as completed only where it was validated. -/
theorem outcomeOf_completed {role : AdvisoryRole} {ran : Except Exn AdvisoryReport}
    (completed : (outcomeOf role ran).status = .completed) :
    ∃ report, ran = .ok report ∧ (outcomeOf role ran).report = some report ∧
      validateReport report = .ok () := by
  cases checked : (do let report ← ran; validateReport report; .ok report : Except Exn AdvisoryReport) with
  | error e =>
    simp only [outcomeOf, checked, keptOnParent] at completed
    cases completed
  | ok report =>
    obtain ⟨answered, returned, validated⟩ := of_bind_ok checked
    obtain ⟨⟨⟩, valid, done⟩ := of_bind_ok validated
    cases done
    exact ⟨report, returned, by simp only [outcomeOf, checked], valid⟩

/-- What a delegation does: either it keeps the work on the parent and calls no worker, or it hands
over the copy of the payload. -/
theorem delegate_cases {session : AdvisorySession} {role : AdvisoryRole} {payload : Payload}
    {worker : Option AdvisoryWorker} {depth : Int} {run : Delegated}
    (delegated : session.delegate role payload worker depth = .ok run) :
    (run.handed = none ∧ run.outcome.status ≠ .completed) ∨
    ∃ route copy call, session.semanticRoute = some route ∧ sanitizePayload payload = .ok copy ∧
      worker = some call ∧
      run.handed = some ⟨session.taskId, role, (session.broker.inventory.child role).name, depth,
        route, copy⟩ ∧
      run.outcome = outcomeOf role (call
        ⟨session.taskId, role, (session.broker.inventory.child role).name, depth, route, copy⟩
        ⟨session.broker.inventory.child role, session.broker.repository⟩) := by
  unfold AdvisorySession.delegate at delegated
  split at delegated
  · cases delegated
    exact .inl ⟨rfl, nofun⟩
  · split at delegated
    · cases delegated
      exact .inl ⟨rfl, nofun⟩
    · rename_i route selected
      split at delegated
      · rename_i copy sanitized
        unfold AdvisorySession.delegateSanitized at delegated
        split at delegated
        · split at delegated
          · cases delegated
            exact .inl ⟨rfl, nofun⟩
          · cases delegated
        · cases delegated
          exact .inl ⟨rfl, nofun⟩
        · rename_i after reserved
          obtain ⟨broker, taskId⟩ := reserve_same reserved
          cases worker with
          | none =>
            cases delegated
            exact .inl ⟨rfl, nofun⟩
          | some call =>
            cases delegated
            rw [← broker, ← taskId]
            exact .inr ⟨route, copy, call, selected, sanitized, rfl, rfl, rfl⟩
      · split at delegated
        · cases delegated
          exact .inl ⟨rfl, nofun⟩
        · cases delegated

/-- Which texts decide whether a secret passes. The payload and the route that are accepted keep the
limits and the forbidden words out, and their searched texts look like no secret. The other texts are
handed over unsearched, and so are the citations and the keys of a report that is returned. -/
theorem delegated_payloads :
    (∀ (payload : Payload) (copy : Json) (route : SemanticRouteSlice) (taskId profileName : String)
        (role : AdvisoryRole) (depth : Int), sanitizePayload payload = .ok copy →
      Bounded copy ∧
        (Clean (AdvisoryEnvelope.texts ⟨taskId, role, profileName, depth, route, copy⟩) ↔
          Clean (taskId :: profileName :: (route.fields.unsearched ++ payload.keys)))) ∧
    (∀ (session : AdvisorySession) (role : AdvisoryRole) (payload : Payload)
        (worker : Option AdvisoryWorker) (depth : Int) (run : Delegated),
      session.delegate role payload worker depth = .ok run →
      (∀ envelope, run.handed = some envelope →
        ∃ route, session.semanticRoute = some route ∧ Bounded envelope.payload ∧
          (Clean envelope.texts ↔
            Clean (session.taskId :: (session.broker.inventory.child role).name ::
              (route.fields.unsearched ++ payload.keys)))) ∧
      (run.outcome.status = .completed →
        ∃ call envelope report, worker = some call ∧ run.handed = some envelope ∧
          call envelope ⟨session.broker.inventory.child role, session.broker.repository⟩ = .ok report ∧
          run.outcome.report = some report ∧
          (Clean report.texts ↔ Clean (report.citations ++ report.extraKeys)))) := by
  refine ⟨fun payload copy route taskId profileName role depth accepted =>
    accepted_clean accepted route taskId profileName role depth, ?_⟩
  intro session role payload worker depth run delegated
  obtain ⟨none_handed, not_completed⟩ | ⟨route, copy, call, selected, accepted, given, handed, outcome⟩ :=
    delegate_cases delegated
  · refine ⟨fun envelope handed => ?_, fun completed => absurd completed not_completed⟩
    rw [none_handed] at handed
    cases handed
  · refine ⟨fun envelope called => ?_, fun completed => ?_⟩
    · rw [handed] at called
      cases called
      exact ⟨route, selected, accepted_clean accepted route _ _ role depth⟩
    · rw [outcome] at completed ⊢
      obtain ⟨report, ran, returned, valid⟩ := outcomeOf_completed completed
      have searched := validateReport_ok valid
      have findings : Clean report.findings := searched.findings
      have extra : Clean report.extraTexts := searched.extra
      refine ⟨call, _, report, given, handed, ran, returned, ?_⟩
      simp only [AdvisoryReport.texts, clean_cons, clean_append, searched.summary, findings, extra,
        not_false_eq_true, true_and, and_true]

end MasterAgent.Advisory

/-! ## Two delegations -/

namespace MasterAgent.Advisory.Delegation.Samples
open Base

attribute [local instance] spellingHost asciiTables

def overview : SemanticRouteSlice :=
  ⟨⟨"docs", "Docs", "stable", "Notes", ["a.md"], [], [], [], [], []⟩, by decide +kernel⟩

def broker : AdvisoryBroker :=
  ⟨⟨⟨PARENT_PROFILE_PATH, "P", "p", [], true, true, "b"⟩,
    ⟨RESEARCHER_PROFILE_PATH, "R", "r", ["read"], false, true, "b"⟩,
    ⟨PLAN_REVIEWER_PROFILE_PATH, "V", "v", ["read"], false, true, "b"⟩, rfl, rfl, rfl⟩,
    ⟨[], by decide, by decide, by decide⟩, none⟩

def session : AdvisorySession := ⟨broker, "t", "t", some overview, 0, 0⟩

/-- A worker that cites one path. -/
def citing (path : String) : AdvisoryWorker := fun _ _ => .ok ⟨"Read", [], [path], none, none, none, []⟩

def question (key : String) : Payload := .mapping [(some key, .str "why")]

/-- The run that hands one key over and returns one citation. -/
def run (key path : String) : Delegated :=
  ⟨⟨.completed, .research, false, "untrusted report returned for parent re-validation",
      some ⟨"Read", [], [path], none, none, none, []⟩⟩,
    { session with researchAttempts := 1 },
    some ⟨"t", .research, "R", 0, overview, .obj [(key, .str "why")]⟩⟩

theorem delegate_run {key path : String}
    (sanitized : sanitizePayload (question key) = .ok (.obj [(key, .str "why")]))
    (valid : validateReport ⟨"Read", [], [path], none, none, none, []⟩ = .ok ()) :
    session.delegate .research (question key) (some (citing path)) 0 = .ok (run key path) := by
  have passed : outcomeOf .research (.ok ⟨"Read", [], [path], none, none, none, []⟩) =
      (run key path).outcome := by
    simp only [outcomeOf, ok_bind, valid, run]
  have reserved : session.reserve .research = .ok (true, { session with researchAttempts := 1 }) := rfl
  have selected : session.semanticRoute = some overview := rfl
  simp only [AdvisorySession.delegate, ne_eq, not_true, if_false, selected, sanitized,
    AdvisorySession.delegateSanitized, reserved, citing, passed]
  rfl

/-- A key and a citation that look like nothing are handed over and returned, and both sides are clean. -/
theorem plain_clean :
    session.delegate .research (question "q") (some (citing "a.md")) 0 = .ok (run "q" "a.md") ∧
    (∀ envelope, (run "q" "a.md").handed = some envelope → Clean envelope.texts) ∧
    ∃ report, (run "q" "a.md").outcome.report = some report ∧ Clean report.texts := by
  have delegated := @delegate_run "q" "a.md" (by rfl) (by rfl)
  obtain ⟨handed, completed⟩ := delegated_payloads.2 session .research (question "q")
    (some (citing "a.md")) 0 _ delegated
  refine ⟨delegated, fun envelope called => ?_, ?_⟩
  · obtain ⟨route, selected, -, clean⟩ := handed envelope called
    cases selected
    exact clean.mpr (by decide +kernel)
  · obtain ⟨_, _, report, _, _, _, returned, clean⟩ := completed rfl
    cases returned
    exact ⟨_, rfl, clean.mpr (by decide +kernel)⟩

def leaked : String := "ghp_abcdefgh1"

/-- A key of the payload and a citation of the report match a secret pattern. -/
theorem leaked_both_ways :
    session.delegate .research (question leaked) (some (citing leaked)) 0 = .ok (run leaked leaked) ∧
    (∃ envelope, (run leaked leaked).handed = some envelope ∧ ¬ Clean envelope.texts) ∧
    (run leaked leaked).outcome.status = .completed ∧
    ∃ report, (run leaked leaked).outcome.report = some report ∧ ¬ Clean report.texts := by
  have found : SecretLike leaked := by decide +kernel
  refine ⟨delegate_run (by rfl) (by rfl), ⟨_, rfl, fun clean => ?_⟩, rfl, _, rfl, fun clean => ?_⟩
  · have listed : leaked ∈ ["t", "R", "Docs", "stable", "Notes", "docs", "a.md", leaked, "why"] := by
      decide
    exact clean leaked listed found
  · have listed : leaked ∈ ["Read", leaked] := by decide
    exact clean leaked listed found

end MasterAgent.Advisory.Delegation.Samples
