import MasterAgent.Workflows.EngineeringReview

/-!
# Passes of the engineering review

What the renderer computes from a validated report: the verified payloads, which of them are stale,
the reportable rest with its citations, the failures, ambiguities, outcome and findings, and the
Markdown text.
-/

namespace MasterAgent.EngineeringReview
open Base Connectors Citations

/-! ## Payloads -/

/-- A verified report with its planned action and its payload. -/
structure Verified where
  report : ActionReport
  action : AgentAction
  payload : Fields

/-- `_mapping(data.get(key))` -/
def member (data : Fields) (key : String) : Option Fields :=
  match data.lookup key with
  | some (.obj members) => some members
  | _ => none

section
variable [Host]

/-- `_verified_payloads`. That every report is of a planned action is checked before. -/
def verifiedPayloads (report : RunReport) (plan : ChangePlan) : List Verified :=
  report.actions.filterMap fun r =>
    (plan.actions.find? (·.actionId == r.actionId)).bind fun action =>
      if r.state = .verified then r.payload.map (Verified.mk r action) else none

omit [Host] in
/-- `_payload_for` -/
def payloadFor (verified : List Verified) (capability : String) : Option Fields :=
  (verified.find? (·.report.capability == capability)).map (·.payload)

omit [Host] in
/-- `_record_for` -/
def recordFor (verified : List Verified) (capability field : String) : Option Fields :=
  (payloadFor verified capability).bind (member · field)

omit [Host] in
/-- `_exact_string(data.get(key))` -/
def exactString (data : Fields) (key : String) : Option String :=
  match data.lookup key with
  | some (.str text) => if (strip text).isEmpty then none else some (strip text)
  | _ => none

/-! ## Identities -/

def jiraMatches (plan : ChangePlan) (payload : Fields) : Bool :=
  (member payload "issue").any fun issue => textOf issue "key" == jiraIssueKey plan.actions

def repositoryMatches (x : SettingsFields) (payload : Fields) : Bool :=
  (member payload "repository").any fun repository =>
    textOf repository "slug" == x.bitbucketRepository &&
      textOf repository "owner_or_project" == x.bitbucketOwner

def pullRequestMatches (x : SettingsFields) (payload : Fields) : Bool :=
  (member payload "pull_request").any fun pullRequest =>
    textOf pullRequest "id" == x.bitbucketPullRequestId

/-- The pull request of a build or diffstat payload is the configured one. -/
def namesPullRequest (x : SettingsFields) (payload : Fields) : Bool :=
  textOf payload "pull_request_id" == x.bitbucketPullRequestId

def pageMatches (x : SettingsFields) (action : AgentAction) (payload : Fields) : Bool :=
  (member payload "page").any fun page =>
    textOf page "id" == action.target.resourceId && textOf page "space_id" == x.confluenceSpaceId &&
      textOf page "space_key" == x.confluenceSpaceKey

omit [Host] in
/-- Both payloads name a commit, and it is the same one. -/
def sameCommit (first : Fields) (key : String) (second : Fields) (key' : String) : Bool :=
  (exactString first key).isSome && exactString first key == exactString second key'

omit [Host] in
/-- The build is of the pull request's source commit. -/
def sameHead (pullRequest build : Fields) : Bool :=
  (member pullRequest "pull_request").any fun pr => sameCommit pr "source_commit" build "commit"

omit [Host] in
/-- The diffstat is of the pull request's commits. -/
def sameCommits (pullRequest diffstat : Fields) : Bool :=
  (member pullRequest "pull_request").any fun pr =>
    sameCommit pr "source_commit" diffstat "source_commit" &&
      sameCommit pr "destination_commit" diffstat "destination_commit"

/-! ## Stale evidence -/

structure Stale where
  kind : String
  resourceId : Option String
deriving DecidableEq

/-- The build of the configured pull request has another head. -/
def headDiffers (x : SettingsFields) (pullRequest build : Option Fields) : Bool :=
  match pullRequest, build with
  | some pr, some build =>
    pullRequestMatches x pr && namesPullRequest x build && !sameHead pr build
  | _, _ => false

/-- The diffstat of the configured pull request has other commits, or there is no pull request to
compare it with. -/
def commitsDiffer (x : SettingsFields) (pullRequest diffstat : Option Fields) : Bool :=
  diffstat.any fun diffstat => namesPullRequest x diffstat &&
    !(pullRequest.any fun pr => pullRequestMatches x pr && sameCommits pr diffstat)

def stalePage (x : SettingsFields) (v : Verified) : Option Stale :=
  if v.report.capability == pageRead && !pageMatches x v.action v.payload then
    some ⟨"confluence_page_identity", some v.action.target.resourceId⟩
  else none

/-- The tests of the evidence besides the pages, under the kinds that they report. -/
def staleChecks (verified : List Verified) (plan : ChangePlan) (x : SettingsFields) :
    List (String × Bool) :=
  let pullRequest := payloadFor verified pullRequestRead
  let build := payloadFor verified buildStatusRead
  let diffstat := payloadFor verified diffstatRead
  [("jira_issue_identity", (payloadFor verified jiraRead).any (!jiraMatches plan ·)),
    ("bitbucket_repository_identity",
      (payloadFor verified repositoryRead).any (!repositoryMatches x ·)),
    ("bitbucket_pull_request_identity", pullRequest.any (!pullRequestMatches x ·)),
    ("bitbucket_build_pull_request_identity", build.any (!namesPullRequest x ·)),
    ("bitbucket_diffstat_pull_request_identity", diffstat.any (!namesPullRequest x ·)),
    ("pull_request_build_head", headDiffers x pullRequest build),
    ("pull_request_diffstat_commits", commitsDiffer x pullRequest diffstat)]

/-- `_evidence_staleness` -/
def evidenceStaleness (verified : List Verified) (plan : ChangePlan) (x : SettingsFields) :
    List Stale :=
  ((staleChecks verified plan x).filter (·.2)).map (fun check => ⟨check.1, none⟩) ++
    verified.filterMap (stalePage x)

/-! ## Reportable evidence -/

omit [Host] in
/-- `capability_kind` -/
def identityKind (capability : String) : Option String :=
  [(jiraRead, "jira_issue_identity"), (repositoryRead, "bitbucket_repository_identity"),
    (pullRequestRead, "bitbucket_pull_request_identity")].lookup capability

omit [Host] in
def quarantined (stale : List Stale) (action : AgentAction) : Bool :=
  let kinds := stale.map (·.kind)
  let pages := (stale.filter (·.kind == "confluence_page_identity")).map (·.resourceId.getD "")
  (identityKind action.capability).any kinds.contains ||
  (action.capability == buildStatusRead &&
    (kinds.contains "bitbucket_build_pull_request_identity" ||
      kinds.contains "pull_request_build_head")) ||
  (action.capability == diffstatRead &&
    (kinds.contains "bitbucket_diffstat_pull_request_identity" ||
      kinds.contains "pull_request_diffstat_commits")) ||
  (action.capability == pageRead && pages.contains action.target.resourceId)

omit [Host] in
/-- `_reportable_verified_payloads` -/
def reportable (verified : List Verified) (stale : List Stale) : List Verified :=
  verified.filter fun v => !quarantined stale v.action

structure Evidence where
  jira : Option Fields
  repository : Option Fields
  pullRequest : Option Fields
  buildStatus : Option Fields
  diffstat : Option Fields
  pages : List Fields

omit [Host] in
/-- `_evidence_payloads` -/
def evidencePayloads (verified : List Verified) : Evidence :=
  ⟨payloadFor verified jiraRead, payloadFor verified repositoryRead,
    payloadFor verified pullRequestRead, payloadFor verified buildStatusRead,
    payloadFor verified diffstatRead,
    (verified.filter (·.report.capability == pageRead)).map (·.payload)⟩

omit [Host] in
/-- `_security_findings` -/
def securityFindings (verified : List Verified) : List Fields :=
  verified.flatMap fun v =>
    match (member v.payload "security").bind (·.lookup "prompt_injection_findings") with
    | some (.arr values) => mappings values
    | _ => []

/-! ## Citations -/

/-- The citations with the one that each action is cited by. -/
structure Cited where
  byId : List (String × Fields)
  byAction : List (Uuid × String)

/-- A list of the citation of one resource. -/
def citationOf [Urls] (system resourceType resourceId title : String)
    (url version : Option String) : Except Exn (List Fields) := do
  let citation ← makeResourceCitation system resourceType resourceId title url version
  pure [citation]

/-- The citations of a payload, before the default of its action. -/
def broughtCitations [Urls] (v : Verified) : Except Exn (List Fields) :=
  let resourceId := v.action.target.resourceId
  let reference := v.report.result.bind (·.connectorReference)
  if v.action.capability = buildStatusRead then
    citationOf "bitbucket" "build_status" ("pull-request:" ++ resourceId)
      ("Build status for pull request " ++ resourceId) reference none
  else if v.action.capability = diffstatRead then
    citationOf "bitbucket" "pull_request_diffstat" resourceId
      ("Diffstat for pull request " ++ resourceId) reference none
  else .ok (citationIndex v.payload)

def candidates [Urls] (v : Verified) : Except Exn (List Fields) := do
  let target := v.action.target
  let found ← broughtCitations v
  if found = [] then
    citationOf target.system target.resourceType target.resourceId target.uri
      (v.report.result.bind (·.connectorReference)) target.expectedVersion
  else pure found

def cite [Urls] (cited : Cited) (v : Verified) : Except Exn Cited := do
  let found ← candidates v
  let named := found.find? fun c => getStr (.obj c) "resource_id" "" == v.action.target.resourceId
  match named.or found.head? with
  | none => .error (runtimeError "list index out of range")
  | some selected => do
    let id ← itemStr (.obj selected) "citation_id"
    pure ⟨found.foldl setDefault cited.byId, (v.report.actionId, id) :: cited.byAction⟩

/-- `_verified_citations` -/
def verifiedCitations [Urls] (verified : List Verified) : Except Exn Cited :=
  verified.foldlM cite ⟨[], []⟩

omit [Host] in
/-- `_citation_for_capability` -/
def citationFor (cited : Cited) (verified : List Verified) (capability : String) : Option String :=
  (verified.find? (·.report.capability == capability)).bind fun v =>
    cited.byAction.lookup v.report.actionId

/-! ## Failures -/

structure Failure where
  capability : String
  state : String
  stage : String
  system : String
  resourceType : String
  resourceId : String
  message : String
deriving DecidableEq

omit [Host] in
/-- `capability_by_kind` -/
def capabilityByKind (kind : String) : Option String :=
  [("jira_issue_identity", jiraRead), ("bitbucket_repository_identity", repositoryRead),
    ("bitbucket_pull_request_identity", pullRequestRead),
    ("bitbucket_build_pull_request_identity", buildStatusRead),
    ("pull_request_build_head", buildStatusRead),
    ("bitbucket_diffstat_pull_request_identity", diffstatRead),
    ("pull_request_diffstat_commits", diffstatRead),
    ("confluence_page_identity", pageRead)].lookup kind

omit [Host] in
/-- The binding that evidence of a kind has failed. -/
def failedBinding (kind : String) : String :=
  if ["pull_request_build_head", "pull_request_diffstat_commits"].contains kind then
    "exact pull-request head"
  else if ["bitbucket_build_pull_request_identity",
      "bitbucket_diffstat_pull_request_identity"].contains kind then
    "exact pull-request identity"
  else "exact configured target identity"

omit [Host] in
def quarantineRecord (actions : List AgentAction) (stale : Stale) : Option Failure :=
  (capabilityByKind stale.kind).bind fun capability =>
    let resourceId := stale.resourceId.getD ""
    (actions.find? fun a => a.capability == capability &&
        (resourceId.isEmpty || a.target.resourceId == resourceId)).map fun a =>
      ⟨a.capability, "quarantined", "post_verification_identity_binding", a.target.system,
        a.target.resourceType, a.target.resourceId,
        "independently verified evidence failed the workflow's " ++ failedBinding stale.kind ++
          " binding and was quarantined"⟩

/-- `_failure_records` -/
def failureRecords (report : RunReport) (plan : ChangePlan) (stale : List Stale) : List Failure :=
  (report.actions.filterMap fun r =>
    if r.state = .verified then none
    else (plan.actions.find? (·.actionId == r.actionId)).map fun a =>
      ⟨r.capability, r.state.str, "provider_read_and_independent_verification", a.target.system,
        a.target.resourceType, a.target.resourceId,
        "configured evidence was not independently verified"⟩) ++
  stale.filterMap (quarantineRecord plan.actions)

/-! ## Ambiguous relations -/

structure Ambiguity where
  kind : String
  configured : Json
  observed : Json
deriving DecidableEq

/-- `sorted({…})` of the relations of a provider. -/
def relationsOf (issue : Fields) (provider : String) (keys : List String) : List (List String) :=
  match issue.lookup "external_relations" with
  | some (.arr items) =>
    let named := (mappings items).filter fun item => item.lookup "provider" == some (.str provider)
    (named.map fun item => keys.map (textOf item)).dedup.insertionSort (· ≤ ·)
  | _ => []

omit [Host] in
/-- A relation, under the names of its texts. -/
def relationJson (names : List String) (relation : List String) : Json :=
  .mkObj (names.zip (relation.map .str))

omit [Host] in
/-- A page relation leaves the configured scope. -/
def outsidePages (x : SettingsFields) : List String → Bool
  | [space, pageId] => space != x.confluenceSpaceKey || !x.confluencePageIds.contains pageId
  | _ => false

/-- `_relation_ambiguities` -/
def relationAmbiguities (verified : List Verified) (x : SettingsFields) : List Ambiguity :=
  match recordFor verified jiraRead "issue" with
  | none => []
  | some issue =>
    let names := ["owner_or_project", "repository", "pull_request_id"]
    let configured := [x.bitbucketOwner, x.bitbucketRepository, x.bitbucketPullRequestId]
    let bitbucket := relationsOf issue "bitbucket" names
    let confluence := relationsOf issue "confluence" ["space", "page_id"]
    (if bitbucket.any (· != configured) then
      [⟨"bitbucket_relation", relationJson names configured,
        .arr (bitbucket.map (relationJson names))⟩] else []) ++
    (if confluence.any (outsidePages x) then
      [⟨"confluence_relation", .mkObj [("space", .str x.confluenceSpaceKey),
          ("page_ids", textArray (sortedSet x.confluencePageIds))],
        .arr (confluence.map (relationJson ["space", "page_id"]))⟩] else [])

/-! ## Outcome -/

/-- `EngineeringReviewOutcome` -/
inductive Outcome where
  | complete | incomplete | failed | stale | ambiguous
deriving DecidableEq, Repr

def Outcome.str : Outcome → String
  | complete => "complete"
  | incomplete => "partial"
  | failed => "failed"
  | stale => "stale"
  | ambiguous => "ambiguous"

omit [Host] in
/-- `part in text` -/
def occurs (part text : String) : Bool := decide (part.toList <:+: text.toList)

/-- The message of a report carries a marker of stale evidence. -/
def marked (r : ActionReport) : Bool :=
  ["changed between retrieval", "version conflict", "stale"].any fun marker =>
    occurs marker (casefold r.message)

/-- `_is_stale` -/
def isStale (r : ActionReport) : Bool :=
  r.state == .indeterminate || r.state == .conflicted || marked r

omit [Host] in
def coreCapabilities : List String := [jiraRead, repositoryRead, pullRequestRead, buildStatusRead]

omit [Host] in
def unverified (r : ActionReport) : Bool := r.state != .verified || r.payload.isNone

/-- `_classify_outcome` -/
def classifyOutcome (report : RunReport) (plan : ChangePlan) (ambiguities : List Ambiguity)
    (stale : List Stale) : Outcome :=
  let core (r : ActionReport) : Bool := (plan.actions.find? (·.actionId == r.actionId)).any fun a =>
    coreCapabilities.contains a.capability
  if !stale.isEmpty || report.actions.any isStale then .stale
  else if !ambiguities.isEmpty then .ambiguous
  else if report.actions.any fun r => core r && unverified r then .failed
  else if report.actions.any unverified then .incomplete
  else .complete

/-! ## Findings -/

structure Finding where
  kind : String
  summary : String
  citationIds : List String
deriving DecidableEq

omit [Host] in
/-- `_finding` -/
def finding (kind summary : String) (citationIds : List (Option String)) : Finding :=
  ⟨kind, summary, (citationIds.reduceOption.filter (!·.isEmpty)).eraseDups⟩

omit [Host] in
/-- The criteria of `acceptance_criteria` that are objects. -/
def acceptanceItems (jira : Option Fields) : List Fields :=
  match jira.bind (·.lookup "acceptance_criteria") with
  | some (.arr items) => mappings items
  | _ => []

def acceptanceFindings (jira : Option Fields) (citation : Option String) : List Finding :=
  let filled := (acceptanceItems jira).any fun item =>
    !(strip (getStr (.obj item) "text" "")).isEmpty
  if jira.isSome && !filled then
    [finding "missing_acceptance_criteria"
      "Jira returned no non-empty configured acceptance criteria." [citation]]
  else []

def traceabilityFindings (jira pullRequest : Option Fields) (jiraCitation prCitation : Option String) :
    List Finding :=
  match jira, pullRequest with
  | some issue, some pr =>
    let key := getStr (.obj issue) "key" ""
    let text := textOf pr "title" ++ " " ++ textOf pr "description"
    if !key.isEmpty && !occurs (casefold key) (casefold text) then
      [finding "pull_request_traceability"
        "The pull-request title and description do not reference the exact Jira key."
        [jiraCitation, prCitation]]
    else []
  | _, _ => []

/-- `int(summary.get(key, default) or 0)` -/
def countOf (summary : Fields) (key : String) (default : Json) : Except Exn Int :=
  pyInt (orElse ((summary.lookup key).getD default) (.int 0))

def buildFindings (build : Option Fields) (citation : Option String) : Except Exn (List Finding) :=
  match build.bind (member · "summary") with
  | none => .ok []
  | some summary => do
    let failed ← countOf summary "failed" (.int 0)
    let other ← countOf summary "other" (.int 0)
    pure ((if failed > 0 then [finding "failing_build"
        "Bitbucket reports one or more failed build statuses." [citation]] else []) ++
      if other > 0 then [finding "non_success_build_state"
        ("Bitbucket reports one or more build statuses in another " ++
          "terminal or provider-defined state.") [citation]] else [])

omit [Host] in
def staleSummary (stale : Stale) : String :=
  match stale.kind with
  | "pull_request_build_head" =>
    "Build evidence failed the workflow's exact pull-request head binding and was quarantined."
  | "bitbucket_build_pull_request_identity" =>
    "Build evidence was quarantined because its pull-request identity " ++
      "did not match the exact configured target."
  | "pull_request_diffstat_commits" =>
    "Diffstat evidence failed the workflow's exact pull-request commit " ++
      "binding and was quarantined."
  | "bitbucket_diffstat_pull_request_identity" =>
    "Diffstat evidence was quarantined because its pull-request identity " ++
      "did not match the exact configured target."
  | "confluence_page_identity" =>
    "Confluence evidence for page " ++ stale.resourceId.getD "configured page" ++
      " was quarantined because its page or space identity was not exact."
  | "jira_issue_identity" =>
    "Jira evidence was quarantined because its issue identity was not exact."
  | "bitbucket_repository_identity" =>
    "Bitbucket repository evidence was quarantined because its identity was not exact."
  | "bitbucket_pull_request_identity" =>
    "Bitbucket pull-request evidence was quarantined because its identity was not exact."
  | _ => "Verified provider evidence differs from its exact target."

/-- `_findings` -/
def findings (verified : List Verified) (x : SettingsFields) (ambiguities : List Ambiguity)
    (stale : List Stale) (cited : Cited) : Except Exn (List Finding) := do
  let jira := recordFor verified jiraRead "issue"
  let pullRequest := recordFor verified pullRequestRead "pull_request"
  let jiraCitation := citationFor cited verified jiraRead
  let prCitation := citationFor cited verified pullRequestRead
  let builds ← buildFindings (payloadFor verified buildStatusRead)
    (citationFor cited verified buildStatusRead)
  pure (acceptanceFindings jira jiraCitation ++
    traceabilityFindings jira pullRequest jiraCitation prCitation ++ builds ++
    (if !x.confluencePageIds.isEmpty && !verified.any (·.report.capability == pageRead) then
      [⟨"missing_confluence_evidence", "No configured Confluence evidence is reportable.", []⟩]
      else []) ++
    ambiguities.map (fun ambiguity => finding "ambiguous_relation"
      ("Verified Jira relation evidence conflicts with " ++ ambiguity.kind ++ " scope.")
      [jiraCitation]) ++
    stale.map fun s => finding ("stale_" ++ s.kind) (staleSummary s) [])

end

end MasterAgent.EngineeringReview
