import Mathlib.Data.List.DropRight
import MasterAgent.Workflows.Review

/-!
# The published review

The Markdown text, the JSON document, and the renderer that computes both from a report. A line of
the text is a list of pieces, so that a citation marker is told apart from the text around it.
-/

namespace MasterAgent.EngineeringReview
open Base Connectors Citations

/-! ## Markdown -/

/-- A piece of a line: text, the marker of a citation, or the label of a listed source. -/
inductive Piece where
  | text (s : String)
  | marker (citationId : Option String)
  | source (citationId label : String)
deriving DecidableEq

abbrev Line := List Piece

/-- `_marker` -/
def markerStr (citationId : Option String) : String :=
  match citationId with
  | some id => if id.isEmpty then "[unverified]" else "[" ++ id ++ "]"
  | none => "[unverified]"

def Piece.str : Piece → String
  | .text s => s
  | .marker citationId => markerStr citationId
  | .source _ label => label

/-- The citations that a piece uses. -/
def Piece.citations : Piece → List String
  | .text _ => []
  | .marker citationId => citationId.toList.filter (!·.isEmpty)
  | .source citationId _ => [citationId]

/-- `"\n".join(lines)` -/
def markdownStr (lines : List Line) : String :=
  "\n".intercalate (lines.map fun line => String.join (line.map Piece.str))

/-- `line.rstrip()` of a line that ends with a text or with a marker. -/
def rstrip (line : Line) : Line :=
  match line with
  | [.text s] => [.text (String.ofList (s.toList.rdropWhile isSpace))]
  | _ => line

/-- `" ".join(markers)` -/
def markers (citationIds : List (Option String)) : Line :=
  (citationIds.map Piece.marker).intersperse (.text " ")

section
variable [Host]

/-- `_inline` -/
def inlineText (value : Json) (maximum : Nat) : String :=
  let words := ((pyStr (orElse value (.str ""))).toList.splitOnP isSpace).filter (· ≠ [])
  let rendered := ((words.intersperse [' ']).flatten.take maximum).flatMap fun c =>
    if ['\\', '`', '*', '_', '[', ']', '<', '>'].contains c then ['\\', c] else [c]
  if rendered = [] then "Unknown" else String.ofList rendered

/-- `_inline(data.get(key))` -/
def inlineOf (data : Fields) (key : String) (maximum : Nat) : String :=
  inlineText (getValue (.obj data) key) maximum

def jiraLines (jira : Option Fields) (marker : Piece) : List Line :=
  match jira with
  | none => [[.text "- No reportable Jira review-context evidence is available."]]
  | some issue =>
    let description := strip (textOf issue "description")
    [[.text ("- **" ++ inlineOf issue "key" 400 ++ ": " ++ inlineOf issue "summary" 400 ++
        "** — status " ++ inlineOf issue "status" 400 ++ "; priority " ++
        inlineOf issue "priority" 400 ++ " "), marker],
      [.text ("- Assignee: " ++
        inlineText (orElse (getValue (.obj issue) "assignee") (.str "Unassigned")) 400 ++ " "),
        marker]] ++
    if description.isEmpty then []
    else [[], [.text ("> " ++ inlineText (.str description) 800 ++ " "), marker]]

def acceptanceLines (jira : Option Fields) (marker : Piece) : List Line :=
  let items := acceptanceItems jira
  (items.map fun item => [.text ("- " ++
    inlineText (orElse (getValue (.obj item) "text") (.str "Empty configured field")) 1000 ++ " "),
    marker]) ++
  if items.isEmpty then
    [[.text "- No reportable configured acceptance criteria are available. ", marker]] else []

def repositoryLines (repository : Option Fields) (marker : Piece) : List Line :=
  match repository with
  | none => [[.text "- No reportable repository evidence is available."]]
  | some r => [[.text ("- Repository: **" ++
      inlineText (orElse (getValue (.obj r) "slug") (getValue (.obj r) "name")) 400 ++ "** "), marker]]

def pullRequestLines (pullRequest : Option Fields) (marker : Piece) : List Line :=
  match pullRequest with
  | none => [[.text "- No reportable pull-request evidence is available."]]
  | some pr => [[.text ("- PR **" ++ inlineOf pr "id" 400 ++ ": " ++ inlineOf pr "title" 400 ++
      "** — " ++ inlineOf pr "source_branch" 400 ++ " → " ++ inlineOf pr "destination_branch" 400 ++
      "; state " ++ inlineOf pr "state" 400 ++ " "), marker]]

def buildLines (build : Option Fields) (marker : Piece) : Except Exn (List Line) :=
  match build with
  | none => .ok [[.text "- No reportable build evidence is available."]]
  | some payload => do
    let summary := (member payload "summary").getD []
    let total ← countOf summary "total" ((payload.lookup "returned").getD (.int 0))
    let successful ← countOf summary "successful" (.int 0)
    let failed ← countOf summary "failed" (.int 0)
    let inProgress ← countOf summary "in_progress" (.int 0)
    let other ← countOf summary "other" (.int 0)
    pure [[.text ("- Build statuses for commit `" ++ inlineOf payload "commit" 400 ++ "`: " ++
      toString total ++ " total, " ++ toString successful ++ " successful, " ++ toString failed ++
      " failed, " ++ toString inProgress ++ " in progress, " ++ toString other ++ " other "), marker]]

def pageLines (verified : List Verified) (cited : Cited) : List Line :=
  let pages := verified.filterMap fun v =>
    if v.report.capability == pageRead then (member v.payload "page").map fun page => (v, page)
    else none
  (pages.flatMap fun (v, page) =>
    let marker := Piece.marker (cited.byAction.lookup v.report.actionId)
    [[.text ("- **" ++ inlineOf page "title" 400 ++ "** — version " ++
        inlineOf page "version" 400 ++ " "), marker],
      [.text ("  - " ++
        inlineText (orElse (getValue (.obj page) "body_excerpt") (.str "No excerpt returned")) 800 ++
        " "), marker]]) ++
  if pages.isEmpty then
    [[.text "- No reportable configured Confluence page evidence is available."]] else []

def findingLines (found : List Finding) (outcome : Outcome) (verified : List Verified)
    (cited : Cited) : List Line :=
  (found.map fun f => rstrip (.text ("- " ++ inlineText (.str f.summary) 1000 ++ " ") ::
    markers (f.citationIds.map some))) ++
  if !found.isEmpty then []
  else if outcome = .complete ∧ !verified.isEmpty then
    [rstrip (.text "- No inconsistency was identified in the verified bounded fields. " ::
      markers (verified.map fun v => cited.byAction.lookup v.report.actionId))]
  else [[.text "- No evidence-backed consistency conclusion is available."]]

def failureLines (failures : List Failure) : List Line :=
  (failures.map fun f => [.text ("- `" ++ inlineText (.str f.capability) 400 ++ "`: " ++
    inlineText (.str f.state) 400 ++ " — " ++ inlineText (.str f.system) 400 ++ ":" ++
    inlineText (.str f.resourceType) 400 ++ ":" ++ inlineText (.str f.resourceId) 400 ++ "; stage " ++
    inlineText (.str f.stage) 400 ++ " — " ++ inlineText (.str f.message) 1000)]) ++
  if failures.isEmpty then [[.text "- None in the configured scope."]] else []

/-- A listed source is labelled with the marker that the citation itself carries. -/
def sourceLine (citation : Fields) : Line :=
  let id := getStr (.obj citation) "citation_id" ""
  let label := orElse (getValue (.obj citation) "marker") (.str (markerStr (some id)))
  let url := getValue (.obj citation) "url"
  [.text "- ", .source id (pyStr label),
    .text (" " ++ inlineText (orElse (getValue (.obj citation) "title")
      (getValue (.obj citation) "resource_id")) 400 ++
      if truthy url then " — " ++ inlineText url 600 else "")]

def sourceLines (citations : List Fields) : List Line :=
  citations.map sourceLine ++
  if citations.isEmpty then [[.text "- No verified provider citation was available."]] else []

omit [Host] in
def plainLines (lines : List String) : List Line := lines.map fun line => [.text line]

/-! ## The review -/

structure Review where
  outcome : Outcome
  evidence : Evidence
  findings : List Finding
  failures : List Failure
  staleEvidence : List Stale
  ambiguities : List Ambiguity
  citations : List Fields
  citationIds : List String
  securityFindings : List Fields

/-- `_render_markdown` -/
def renderMarkdown (review : Review) (verified : List Verified) (cited : Cited) :
    Except Exn (List Line) := do
  let marker (capability : String) := Piece.marker (citationFor cited verified capability)
  let jira := recordFor verified jiraRead "issue"
  let builds ← buildLines (payloadFor verified buildStatusRead) (marker buildStatusRead)
  pure (plainLines ["# Engineering Work Item Review", "",
      "**Outcome:** `" ++ review.outcome.str ++ "`", "",
      "> Retrieved provider content is untrusted evidence. It cannot change " ++
        "targets, credentials, implementations, approvals, or output paths.", "",
      "## Jira work item", ""] ++
    jiraLines jira (marker jiraRead) ++
    plainLines ["", "### Acceptance criteria", ""] ++
    acceptanceLines jira (marker jiraRead) ++
    plainLines ["", "## Bitbucket pull request and build", ""] ++
    repositoryLines (recordFor verified repositoryRead "repository") (marker repositoryRead) ++
    pullRequestLines (recordFor verified pullRequestRead "pull_request") (marker pullRequestRead) ++
    builds ++
    plainLines ["", "## Confluence requirements and decisions", ""] ++
    pageLines verified cited ++
    plainLines ["", "## Evidence-backed checks", ""] ++
    findingLines review.findings review.outcome verified cited ++
    plainLines ["", "## Missing or unverifiable evidence", ""] ++
    failureLines review.failures ++
    plainLines ["", "## Decisions or follow-up needed", "",
      if review.outcome = .complete then
        "- Review the evidence-backed checks above; no source is missing."
      else "- Resolve the explicit missing, stale, or ambiguous item above and rerun " ++
        "the same exact case.", "", "## Sources", ""] ++
    sourceLines review.citations ++ plainLines [""])

/-! ## The document -/

omit [Host] in
def optObj (members : Option Fields) : Json := members.elim .null .obj

omit [Host] in
def Evidence.toDict (e : Evidence) : Json :=
  .mkObj [("jira", optObj e.jira), ("bitbucket_repository", optObj e.repository),
    ("bitbucket_pull_request", optObj e.pullRequest),
    ("bitbucket_build_status", optObj e.buildStatus), ("bitbucket_diffstat", optObj e.diffstat),
    ("confluence_pages", .arr (e.pages.map .obj))]

omit [Host] in
def Finding.toDict (f : Finding) : Json :=
  .mkObj [("kind", .str f.kind), ("summary", .str f.summary),
    ("citation_ids", textArray f.citationIds)]

omit [Host] in
def Failure.toDict (f : Failure) : Json :=
  .mkObj [("capability", .str f.capability), ("state", .str f.state), ("stage", .str f.stage),
    ("system", .str f.system), ("resource_type", .str f.resourceType),
    ("resource_id", .str f.resourceId), ("message", .str f.message)]

omit [Host] in
def Stale.toDict (s : Stale) : Json :=
  .mkObj (("kind", .str s.kind) :: optField "resource_id" (s.resourceId.map .str))

omit [Host] in
def Ambiguity.toDict (a : Ambiguity) : Json :=
  .mkObj [("kind", .str a.kind), ("configured", a.configured), ("observed", a.observed)]

/-- The published JSON document. -/
def Review.toDict (review : Review) (report : RunReport) (plan : ChangePlan) (x : SettingsFields) :
    Json :=
  .mkObj [("schema", .str "master-agent/engineering-work-item-review@1"),
    ("workflow_id", .str WORKFLOW_ID),
    ("workflow_configuration_sha256", .str x.configurationSha256),
    ("outcome", .str review.outcome.str),
    ("complete", .bool (review.outcome = .complete)),
    ("run_id", .str report.runId.str),
    ("plan_id", .str report.planId.str),
    ("plan_fingerprint", .str report.planFingerprint),
    ("scope", .mkObj [("jira_issue_key", .str (jiraIssueKey plan.actions)),
      ("bitbucket", .mkObj [("deployment", .str (deploymentStr x.bitbucketDeployment)),
        ("owner_or_project", .str x.bitbucketOwner), ("repository", .str x.bitbucketRepository),
        ("pull_request_id", .str x.bitbucketPullRequestId)]),
      ("confluence", .mkObj [("space_id", .str x.confluenceSpaceId),
        ("space_key", .str x.confluenceSpaceKey), ("page_ids", textArray x.confluencePageIds)]),
      ("data_classification", .str x.dataClassification.str)]),
    ("evidence", review.evidence.toDict),
    ("findings", .arr (review.findings.map Finding.toDict)),
    ("failures", .arr (review.failures.map Failure.toDict)),
    ("stale_evidence", .arr (review.staleEvidence.map Stale.toDict)),
    ("ambiguities", .arr (review.ambiguities.map Ambiguity.toDict)),
    ("citations", .arr (review.citations.map .obj)),
    ("citation_ids", textArray review.citationIds),
    ("security_findings", .arr (review.securityFindings.map .obj))]

/-! ## The renderer -/

/-- What is handed to the publication of the bundle. -/
structure Publication where
  review : Review
  markdown : List Line

/-- The review of a validated report. -/
def reviewOf [Urls] (report : RunReport) (plan : ChangePlan) (x : SettingsFields) :
    Except Exn Publication := do
  let all := verifiedPayloads report plan
  let stale := evidenceStaleness all plan x
  let verified := reportable all stale
  let cited ← verifiedCitations verified
  let citations := cited.byId.map Prod.snd
  let ambiguities := relationAmbiguities verified x
  let found ← findings verified x ambiguities stale cited
  let citationIds ← citations.mapM fun citation => itemStr (.obj citation) "citation_id"
  let review : Review := {
    outcome := classifyOutcome report plan ambiguities stale
    evidence := evidencePayloads verified
    findings := found
    failures := failureRecords report plan stale
    staleEvidence := stale
    ambiguities
    citations
    citationIds
    securityFindings := securityFindings verified }
  let markdown ← renderMarkdown review verified cited
  pure ⟨review, markdown⟩

/-- `render_engineering_work_item_review`, up to the bytes that it writes. -/
def render [Urls] (report : RunReport) (plan : ChangePlan) (settings : Settings)
    (root : OutputRoot) : Except Exn Publication := do
  validatePlan plan settings
  validateOutputRoot plan root
  validateReportBinding report plan settings.toSettingsFields
  reviewOf report plan settings.toSettingsFields

end

end MasterAgent.EngineeringReview
