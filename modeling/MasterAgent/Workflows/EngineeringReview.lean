import MasterAgent.Connectors.Confluence
import MasterAgent.Models.Plan
import MasterAgent.Workflows.Citations

/-!
# The engineering work item review

The workflow `T1-EWIR-001` reads a Jira issue, a repository, a pull request with its builds and
diffstat, and configured pages. From the report of the run it publishes a review: the evidence it
accepts, what it found, what failed, and an outcome. Every pass over the evidence is a function of
its own here, as in the source; the kinds of stale evidence are the only link between them.
-/

namespace MasterAgent.EngineeringReview
open Base Connectors Citations
open Confluence (DeploymentType)

/-! ## Settings -/

def demand (holds : Bool) (message : String) : Check := (holds, configurationError message)

def deploymentStr : DeploymentType → String
  | .cloud => "cloud"
  | .dataCenter => "data_center"

structure SettingsFields where
  configurationSha256 : String
  dataClassification : DataClassification
  bitbucketDeployment : DeploymentType
  bitbucketOrigin : String
  bitbucketWorkspace : String
  bitbucketProject : String
  bitbucketRepository : String
  bitbucketPullRequestId : String
  buildStatusLimit : Int
  diffstatLimit : Int
  includeDiffstat : Bool
  confluenceOrigin : String
  confluenceSpaceId : String
  confluenceSpaceKey : String
  confluencePageIds : List String
deriving DecidableEq

/-- `bitbucket_owner` -/
def SettingsFields.bitbucketOwner (x : SettingsFields) : String :=
  if x.bitbucketDeployment = .cloud then x.bitbucketWorkspace else x.bitbucketProject

/-- `[A-Za-z0-9][A-Za-z0-9._-]{0,199}`, matched in full. -/
def isReviewIdentifier (s : String) : Bool :=
  match s.toList with
  | [] => false
  | c :: cs => c.isAlphanum && cs.length ≤ 199 &&
      cs.all fun d => d.isAlphanum || d == '.' || d == '_' || d == '-'

/-- A decimal numeral without leading zeros that is not zero. -/
def isPositiveNumeral (s : String) : Bool :=
  match s.toList with
  | [] => false
  | c :: cs => c.isDigit && c != '0' && cs.all Char.isDigit

/-- `_require_identifier` -/
def requireIdentifier (value name : String) : Check :=
  demand (isReviewIdentifier value) ("engineering review " ++ name ++ " is invalid")

/-- `_require_origin` -/
def requireOrigin [Host] [Urls] (value name : String) : Check :=
  match Host.urlsplit value, Urls.port value with
  | .ok parsed, .ok port =>
    demand (parsed.scheme == "https" && parsed.hostname.any (!·.isEmpty) &&
        parsed.username.isNone && parsed.password.isNone &&
        (parsed.path == "" || parsed.path == "/") && parsed.query == "" && parsed.fragment == "" &&
        (port == none || port == some 443))
      ("engineering review " ++ name ++ " must be a credential-free HTTPS origin")
  | _, _ => demand false ("engineering review " ++ name ++ " is invalid")

/-- What `EngineeringWorkItemReviewSettings.__post_init__` requires. -/
def SettingsFields.checks [Host] [Urls] (x : SettingsFields) : List Check :=
  [demand (isSha256 x.configurationSha256) "engineering review configuration digest is invalid",
    requireOrigin x.bitbucketOrigin "bitbucket.origin",
    requireOrigin x.confluenceOrigin "confluence.origin",
    requireIdentifier x.bitbucketRepository "bitbucket.repository"] ++
  (match x.bitbucketDeployment with
    | .cloud => [requireIdentifier x.bitbucketWorkspace "bitbucket.workspace",
        demand x.bitbucketProject.isEmpty
          "Cloud engineering review configuration forbids bitbucket.project"]
    | .dataCenter => [requireIdentifier x.bitbucketProject "bitbucket.project",
        demand x.bitbucketWorkspace.isEmpty
          "Data Center engineering review configuration forbids bitbucket.workspace"]) ++
  [demand (isPositiveNumeral x.bitbucketPullRequestId)
      "engineering review pull_request_id must be a canonical positive integer",
    demand (1 ≤ x.buildStatusLimit && x.buildStatusLimit ≤ 100)
      "engineering review build_status_limit must be between 1 and 100",
    demand (1 ≤ x.diffstatLimit && x.diffstatLimit ≤ 100)
      "engineering review diffstat_limit must be between 1 and 100",
    requireIdentifier x.confluenceSpaceId "confluence.space_id",
    requireIdentifier x.confluenceSpaceKey "confluence.space_key",
    demand (x.confluencePageIds.length ≤ 3)
      "engineering review accepts at most three Confluence pages",
    demand (x.confluencePageIds.Nodup &&
        x.confluencePageIds.all fun id => isPositiveNumeral id && id.length ≤ 40)
      "engineering review Confluence page IDs must be unique canonical positive integers"]

/-- `EngineeringWorkItemReviewSettings` -/
structure Settings [Host] [Urls] extends SettingsFields where
  valid : firstError toSettingsFields.checks = none

/-! ## Reports -/

/-- What the review reads of a `ProviderDataEgressBinding`. -/
structure ProviderDataEgressBinding where
  provider : String
  capability : String
  actionFingerprint : String
  dataClassification : DataClassification
  /-- The route is `ProviderDataRoute.AUDITED`. -/
  audited : Bool
  connectorConfigurationSha256 : String
  outputSchema : String
deriving DecidableEq

/-- What the review reads of a report. -/
structure ActionReport where
  actionId : Uuid
  capability : String
  state : ActionState
  message : String
  result : Option ExecutionResult
  egress : Option ProviderDataEgressBinding
deriving DecidableEq

/-- The payload of a result. -/
def ActionReport.payload (r : ActionReport) : Option Fields := r.result.bind (·.after)

structure RunReport where
  runId : Uuid
  planId : Uuid
  planFingerprint : String
  dryRun : Bool
  actions : List ActionReport
deriving DecidableEq

/-! ## The registered plan -/

def jiraRead : String := "jira.issue.review_context.read"
def repositoryRead : String := "bitbucket.repository.read"
def pullRequestRead : String := "bitbucket.pull_request.read"
def buildStatusRead : String := "bitbucket.build_status.read"
def diffstatRead : String := "bitbucket.pull_request.diffstat"
def pageRead : String := "confluence.page.read"

def WORKFLOW_ID : String := "T1-EWIR-001"

def WORKFLOW_FINGERPRINT [Host] : String :=
  Host.sha256 "master-agent/T1-EWIR-001/engineering-work-item-review@1"

def JIRA_REVIEW_FIELDS : List String :=
  ["id", "key", "summary", "status", "status_category", "assignee", "priority", "issue_type",
    "project_key", "labels", "blocked", "updated_at", "resolved_at", "web_url", "description",
    "acceptance_criteria", "issue_links", "external_relations"]

/-- One entry of `_action_shape`. -/
structure ActionShape where
  capability : String
  system : String
  resourceType : String
  resourceId : String
  expectedVersion : Option String
  parameters : Fields
  risk : RiskLevel
  authoritySource : AuthoritySource
  requiresApproval : Bool
  idempotencyKey : String
  justification : String
  dataClassification : DataClassification
  dependencies : List Nat
deriving DecidableEq

/-- `_action_shape`. The dependencies of a plan are actions of it. -/
def actionShape (actions : List AgentAction) : List ActionShape :=
  actions.map fun a =>
    ⟨a.capability, a.target.system, a.target.resourceType, a.target.resourceId,
      a.target.expectedVersion, a.parameters, a.risk, a.authoritySource, a.requiresApproval,
      a.idempotencyKey, a.justification, a.dataClassification,
      a.dependencies.map fun id => (actions.map (·.actionId)).idxOf id⟩

/-- A read of the workflow. -/
def readShape (x : SettingsFields) (capability system resourceType resourceId : String)
    (parameters : Fields) (idempotencyKey justification : String) (dependencies : List Nat) :
    ActionShape :=
  ⟨capability, system, resourceType, resourceId, none, Json.mkFields parameters, .readOnly,
    .registeredWorkflow, false, WORKFLOW_ID ++ idempotencyKey, justification, x.dataClassification,
    dependencies⟩

/-- The shape of `_workflow_actions`. The targets and parameters are those of actions that the plan
already holds whenever the shapes agree, so that the constructors of the expected actions accept
them. -/
def workflowShape (issueKey : String) (x : SettingsFields) : List ActionShape :=
  let repository := x.bitbucketOwner ++ "/" ++ x.bitbucketRepository
  let pullRequest := x.bitbucketPullRequestId
  let coordinates := [("repository", Json.str x.bitbucketRepository),
    (if x.bitbucketDeployment = .cloud then "workspace" else "project", .str x.bitbucketOwner)]
  [readShape x jiraRead "jira" "issue" issueKey
      [("fields", textArray JIRA_REVIEW_FIELDS),
        ("workflow_configuration_sha256", .str x.configurationSha256),
        ("bitbucket_origin", .str x.bitbucketOrigin),
        ("bitbucket_owner", .str x.bitbucketOwner),
        ("bitbucket_repository", .str x.bitbucketRepository),
        ("bitbucket_pull_request_id", .str pullRequest),
        ("confluence_origin", .str x.confluenceOrigin),
        ("confluence_space_id", .str x.confluenceSpaceId),
        ("confluence_space_key", .str x.confluenceSpaceKey),
        ("confluence_page_ids", textArray x.confluencePageIds)]
      (":jira:" ++ issueKey) "Read and independently verify the exact Jira review context." [],
    readShape x repositoryRead "bitbucket" "repository" repository coordinates
      (":repository:" ++ repository) "Read and independently verify the configured repository." [0],
    readShape x pullRequestRead "bitbucket" "pull_request" pullRequest coordinates
      (":pull-request:" ++ repository ++ ":" ++ pullRequest)
      "Read and independently verify the exact related pull request." [1],
    readShape x buildStatusRead "bitbucket" "pull_request" pullRequest
      (coordinates ++ [("pull_request_id", .str pullRequest), ("limit", .int x.buildStatusLimit)])
      (":build:" ++ repository ++ ":" ++ pullRequest)
      "Read and independently verify build evidence for the current PR head." [2]] ++
  (if x.includeDiffstat then
    [readShape x diffstatRead "bitbucket" "pull_request" pullRequest
      (coordinates ++ [("limit", .int x.diffstatLimit)])
      (":diffstat:" ++ repository ++ ":" ++ pullRequest)
      "Read the optional bounded pull-request diff summary." [2]] else []) ++
  x.confluencePageIds.map fun pageId =>
    readShape x pageRead "confluence" "page" pageId
      [("space_id", .str x.confluenceSpaceId), ("space_key", .str x.confluenceSpaceKey)]
      (":confluence:" ++ pageId)
      "Read and independently verify one exact requirements or decision page." [3]

/-- `_jira_issue_key` -/
def jiraIssueKey (actions : List AgentAction) : String :=
  (actions.find? (·.capability == jiraRead)).elim "" (·.target.resourceId)

/-! ## The descriptor of the artifact root -/

/-- A `PinnedDirectory`. -/
structure OutputRoot where
  /-- `self.path == Path(text)` -/
  isPath : String → Bool
  objectIdentity : PlatformObjectIdentity
  /-- `self.validate()` -/
  validate : Except Exn Unit

section
variable [Host]

/-- `str(data.get(key) or "")` -/
def textOf (data : Fields) (key : String) : String :=
  pyStr (orElse (getValue (.obj data) key) (.str ""))

/-- The test of a guard that raises `ValidationError`. -/
def guardThat (holds : Bool) (message : String) : Except Exn Unit :=
  if holds then .ok () else .error (validationError message)

/-- `validate_engineering_work_item_review_plan` -/
def validatePlan [Urls] (plan : ChangePlan) (settings : Settings) : Except Exn Unit := do
  guardThat (plan.workflowId == some WORKFLOW_ID) "engineering review plan has the wrong workflow ID"
  guardThat (plan.workflowFingerprint == some WORKFLOW_FINGERPRINT)
    "engineering review plan differs from its registered implementation"
  match plan.actions.filter (·.capability == jiraRead) with
  | [jira] =>
    guardThat (actionShape plan.actions ==
        workflowShape jira.target.resourceId settings.toSettingsFields)
      "engineering review plan action shape differs from the registered workflow"
  | _ => .error (validationError "engineering review plan must contain one Jira target")

/-- `_validate_output_root` -/
def validateOutputRoot (plan : ChangePlan) (root : OutputRoot) : Except Exn Unit :=
  match plan.executionContext.bind (·.fields.runtime) with
  | none => .error (validationError "engineering review requires an approval-bound artifact root")
  | some runtime => do
    root.validate
    let differs := validationError "engineering review output differs from the bound artifact root"
    match runtime.fields.runtimePaths.find? (·.fields.name == "artifact.root") with
    | none => .error differs
    | some binding =>
      if !root.isPath runtime.fields.artifactRoot then .error differs
      else if binding.fields.path != runtime.fields.artifactRoot then .error differs
      else do
        let identity ← binding.fields.identity
        if identity != root.objectIdentity then .error differs else .ok ()

/-- A result is of the reported action, and has not changed since. -/
def validateResult (r : ActionReport) : Except Exn Unit :=
  match r.result with
  | none => .ok ()
  | some result => do
    guardThat (result.actionId == r.actionId)
      "engineering review result differs from its planned action"
    result.validateIntegrity

/-- The requirements on a report that is verified. -/
def validateVerified (context : ExecutionContext) (action : AgentAction) (r : ActionReport) :
    Except Exn Unit :=
  match r.result.filter (·.state == .succeeded), r.payload with
  | some _, some payload =>
    match context.fields.connectors.find? (·.fields.system == action.target.system) with
    | none => .error (keyError action.target.system)
    | some connector => do
      guardThat (textOf payload "system" == action.target.system &&
          textOf payload "deployment" == connector.fields.deployment)
        "engineering review provider envelope differs from its connector"
      guardThat (r.egress.any fun egress => egress.provider == action.target.system &&
          egress.capability == action.capability &&
          egress.actionFingerprint == action.effectFingerprint &&
          egress.dataClassification == action.dataClassification && egress.audited &&
          egress.connectorConfigurationSha256 == connector.fields.configIdentitySha256 &&
          egress.outputSchema == getStr (.obj payload) "schema" "")
        "engineering review provider-data binding differs from its action"
  | _, _ => .error (validationError "engineering review verified action has no successful result")

/-- The part of `_validate_report_binding` for one report of a planned action. -/
def validateActionReport (context : ExecutionContext) (action : AgentAction) (r : ActionReport) :
    Except Exn Unit := do
  guardThat (r.capability == action.capability)
    "engineering review report capability differs from its planned action"
  guardThat (r.state != .reused) "engineering review provider reads cannot be reused"
  validateResult r
  if r.state = .verified then validateVerified context action r else .ok ()

/-- `action_by_id[id]` -/
def actionById (plan : ChangePlan) (id : Uuid) : Except Exn AgentAction :=
  match plan.actions.find? (·.actionId == id) with
  | some action => .ok action
  | none => .error (keyError id.str)

/-- `_validate_report_binding` -/
def validateReportBinding (report : RunReport) (plan : ChangePlan) (settings : SettingsFields) :
    Except Exn Unit := do
  guardThat (!report.dryRun) "engineering review cannot render a dry-run report"
  guardThat (report.planId == plan.planId && report.planFingerprint == plan.fingerprint)
    "engineering review report differs from the exact plan"
  match plan.executionContext.filter (·.fields.runtime.isSome) with
  | none =>
    .error (validationError "engineering review requires an approval-bound execution context")
  | some context => do
    let bound := context.fields.connectors.map (·.fields.system)
    let systems := plan.actions.map (·.target.system)
    guardThat ((bound.all fun s => systems.contains s) && systems.all fun s => bound.contains s)
      "engineering review connector bindings differ from selected systems"
    guardThat ((context.fields.connectors.find? (·.fields.system == "bitbucket")).any fun c =>
        c.fields.deployment == deploymentStr settings.bitbucketDeployment)
      "engineering review Bitbucket deployment differs from its exact configuration"
    let reported : List Uuid := report.actions.map (·.actionId)
    let planned : List Uuid := plan.actions.map (·.actionId)
    guardThat (decide reported.Nodup && (reported.all fun id => planned.contains id) &&
        planned.all fun id => reported.contains id)
      "engineering review report must contain every planned action exactly once"
    report.actions.forM fun r => do
      let action ← actionById plan r.actionId
      validateActionReport context action r

end

end MasterAgent.EngineeringReview
