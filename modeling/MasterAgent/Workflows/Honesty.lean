import MasterAgent.Workflows.Render

/-!
# Honesty of the engineering review

What a published review says is compared with the report that it was made of. The commits and
identities of a payload are the texts that the workflow reads of it.

Results:

1. `Bound.of_render`: what a report that reaches publication has in common with the plan;
2. `quarantined_iff`: when the payload of an action is quarantined;
3. `complete_iff`, `evidence_exact`, `failures_cover`, `citations_listed`: the parts of honesty;
4. `review_honest_iff`: exactly when a published review is honest.
-/

namespace MasterAgent.EngineeringReview
open Base Connectors Citations

/-! ## The claims of a review -/

section
variable [Host]

omit [Host] in
/-- The report of the action is verified and carries this payload. -/
def Verifies (report : RunReport) (action : AgentAction) (payload : Fields) : Prop :=
  ∃ r ∈ report.actions, r.actionId = action.actionId ∧ r.state = .verified ∧
    r.payload = some payload

omit [Host] in
/-- A verified payload of an action with this capability. -/
def Reads (report : RunReport) (plan : ChangePlan) (capability : String) (payload : Fields) : Prop :=
  ∃ action ∈ plan.actions, action.capability = capability ∧ Verifies report action payload

/-- The payload of an action carries the configured identity. -/
structure Exact (x : SettingsFields) (action : AgentAction) (payload : Fields) : Prop where
  jira : action.capability = jiraRead → ∃ issue, member payload "issue" = some issue ∧
    textOf issue "key" = action.target.resourceId
  repository : action.capability = repositoryRead →
    ∃ repository, member payload "repository" = some repository ∧
      textOf repository "slug" = x.bitbucketRepository ∧
      textOf repository "owner_or_project" = x.bitbucketOwner
  pullRequest : action.capability = pullRequestRead →
    ∃ pr, member payload "pull_request" = some pr ∧ textOf pr "id" = x.bitbucketPullRequestId
  buildStatus : action.capability = buildStatusRead →
    textOf payload "pull_request_id" = x.bitbucketPullRequestId
  diffstat : action.capability = diffstatRead →
    textOf payload "pull_request_id" = x.bitbucketPullRequestId
  page : action.capability = pageRead → ∃ page, member payload "page" = some page ∧
    textOf page "id" = action.target.resourceId ∧ textOf page "space_id" = x.confluenceSpaceId ∧
    textOf page "space_key" = x.confluenceSpaceKey

omit [Host] in
/-- Both payloads name one commit. -/
def SameCommit (first : Fields) (key : String) (second : Fields) (key' : String) : Prop :=
  ∃ commit, exactString first key = some commit ∧ exactString second key' = some commit

omit [Host] in
/-- The build is of the pull request's source commit. -/
def SameHead (pullRequest build : Fields) : Prop :=
  ∃ pr, member pullRequest "pull_request" = some pr ∧ SameCommit pr "source_commit" build "commit"

omit [Host] in
/-- The diffstat is of the pull request's commits. -/
def SameCommits (pullRequest diffstat : Fields) : Prop :=
  ∃ pr, member pullRequest "pull_request" = some pr ∧
    SameCommit pr "source_commit" diffstat "source_commit" ∧
    SameCommit pr "destination_commit" diffstat "destination_commit"

/-- No relation of the Jira issue points outside the configured scope. -/
def InScope (x : SettingsFields) (jira : Fields) : Prop :=
  ∀ issue items item, member jira "issue" = some issue →
    issue.lookup "external_relations" = some (.arr items) → Json.obj item ∈ items →
    (item.lookup "provider" = some (.str "bitbucket") →
      textOf item "owner_or_project" = x.bitbucketOwner ∧
      textOf item "repository" = x.bitbucketRepository ∧
      textOf item "pull_request_id" = x.bitbucketPullRequestId) ∧
    (item.lookup "provider" = some (.str "confluence") →
      textOf item "space" = x.confluenceSpaceKey ∧ textOf item "page_id" ∈ x.confluencePageIds)

/-- Every planned action is verified with its exact identity, and the evidence fits together. -/
structure Complete (report : RunReport) (plan : ChangePlan) (x : SettingsFields) : Prop where
  verified : ∀ action ∈ plan.actions, ∃ payload, Verifies report action payload ∧
    Exact x action payload
  head : ∀ pr build, Reads report plan pullRequestRead pr → Reads report plan buildStatusRead build →
    SameHead pr build
  commits : ∀ pr diffstat, Reads report plan pullRequestRead pr →
    Reads report plan diffstatRead diffstat → SameCommits pr diffstat
  scope : ∀ jira, Reads report plan jiraRead jira → InScope x jira

omit [Host] in
/-- The payload stands in the evidence under this capability. -/
def Evidence.Holds (e : Evidence) (capability : String) (payload : Fields) : Prop :=
  capability = jiraRead ∧ e.jira = some payload ∨
  capability = repositoryRead ∧ e.repository = some payload ∨
  capability = pullRequestRead ∧ e.pullRequest = some payload ∨
  capability = buildStatusRead ∧ e.buildStatus = some payload ∨
  capability = diffstatRead ∧ e.diffstat = some payload ∨
  capability = pageRead ∧ payload ∈ e.pages

omit [Host] in
/-- The failure is recorded for this action. -/
def Failure.Names (f : Failure) (action : AgentAction) : Prop :=
  f.capability = action.capability ∧ f.system = action.target.system ∧
    f.resourceType = action.target.resourceType ∧ f.resourceId = action.target.resourceId

/-- What a published review promises. -/
structure Honest (report : RunReport) (plan : ChangePlan) (x : SettingsFields)
    (published : Publication) : Prop where
  outcome : published.review.outcome = .complete ↔ Complete report plan x
  exact : ∀ capability payload, published.review.evidence.Holds capability payload →
    ∃ action ∈ plan.actions, action.capability = capability ∧ Verifies report action payload ∧
      Exact x action payload
  build : ∀ build, published.review.evidence.buildStatus = some build →
    ∃ pr, published.review.evidence.pullRequest = some pr ∧ SameHead pr build
  diffstat : ∀ diffstat, published.review.evidence.diffstat = some diffstat →
    ∃ pr, published.review.evidence.pullRequest = some pr ∧ SameCommits pr diffstat
  failures : ∀ action ∈ plan.actions, (∃ f ∈ published.review.failures, f.Names action) ∨
    ∃ payload, Verifies report action payload ∧ Exact x action payload ∧
      published.review.evidence.Holds action.capability payload
  findings : ∀ f ∈ published.review.findings, ∀ id ∈ f.citationIds,
    id ∈ published.review.citationIds
  markdown : ∀ line ∈ published.markdown, ∀ piece ∈ line, ∀ id ∈ piece.citations,
    id ∈ published.review.citationIds
  listed : ∀ id ∈ published.review.citationIds, ∃ citation ∈ published.review.citations,
    citation.lookup "citation_id" = some (.str id)

/-! ## Plans and reports -/

omit [Host] in
/-- The capabilities of a plan with the resources that they read. -/
def plannedReads (issueKey : String) (x : SettingsFields) : List (String × String) :=
  [(jiraRead, issueKey), (repositoryRead, x.bitbucketOwner ++ "/" ++ x.bitbucketRepository),
    (pullRequestRead, x.bitbucketPullRequestId), (buildStatusRead, x.bitbucketPullRequestId)] ++
  (if x.includeDiffstat then [(diffstatRead, x.bitbucketPullRequestId)] else []) ++
  x.confluencePageIds.map fun pageId => (pageRead, pageId)

omit [Host] in
theorem plannedReads_shape (issueKey : String) (x : SettingsFields) :
    (workflowShape issueKey x).map (fun s => (s.capability, s.resourceId)) =
      plannedReads issueKey x := by
  unfold workflowShape plannedReads
  cases x.includeDiffstat <;> simp [readShape, Function.comp_def]

/-- What a validated report has in common with the plan. -/
structure Bound (report : RunReport) (plan : ChangePlan) (x : SettingsFields) : Prop where
  reads : ∃ issueKey, plan.actions.map (fun a => (a.capability, a.target.resourceId)) =
    plannedReads issueKey x
  pages : x.confluencePageIds.Nodup ∧ ∀ pageId ∈ x.confluencePageIds, pageId.isEmpty = false
  planIds : (plan.actions.map (·.actionId)).Nodup
  reportIds : (report.actions.map (·.actionId)).Nodup
  reported : ∀ action ∈ plan.actions, ∃ r ∈ report.actions, r.actionId = action.actionId
  planned : ∀ r ∈ report.actions, ∃ action ∈ plan.actions, action.actionId = r.actionId ∧
    action.capability = r.capability

variable {report : RunReport} {plan : ChangePlan} {x : SettingsFields}

omit [Host] in
/-- A search finds the only member that it may find. -/
theorem find_unique {A : Type} {p : A → Bool} {items : List A} {a : A} (listed : a ∈ items)
    (holds : p a = true) (unique : ∀ b ∈ items, p b = true → b = a) : items.find? p = some a := by
  obtain ⟨found, isFound⟩ := Option.isSome_iff_exists.mp (List.find?_isSome.mpr ⟨a, listed, holds⟩)
  rw [isFound, unique found (List.mem_of_find?_eq_some isFound) (List.find?_some isFound)]

omit [Host] in
theorem identified {actions : List AgentAction} {action : AgentAction} {id : Uuid}
    (found : actions.find? (·.actionId == id) = some action) : action.actionId = id := by
  have holds := List.find?_some found
  exact beq_iff_eq.mp holds

namespace Bound

omit [Host] in
theorem reads_nodup {issueKey : String} (pages : x.confluencePageIds.Nodup) :
    (plannedReads issueKey x).Nodup := by
  have pageReads : (x.confluencePageIds.map fun pageId => (pageRead, pageId)).Nodup :=
    pages.map fun _ _ same => (Prod.mk.inj same).2
  unfold plannedReads
  cases x.includeDiffstat <;>
    simpa [jiraRead, repositoryRead, pullRequestRead, buildStatusRead, diffstatRead,
      pageRead] using pageReads

omit [Host] in
/-- One resource is read for each capability but the pages'. -/
theorem reads_once {issueKey capability first second : String} (notPage : capability ≠ pageRead)
    (here : (capability, first) ∈ plannedReads issueKey x)
    (there : (capability, second) ∈ plannedReads issueKey x) : first = second := by
  have cases_of : ∀ {resource : String}, (capability, resource) ∈ plannedReads issueKey x →
      capability = jiraRead ∧ resource = issueKey ∨
      capability = repositoryRead ∧ resource = x.bitbucketOwner ++ "/" ++ x.bitbucketRepository ∨
      (capability = pullRequestRead ∨ capability = buildStatusRead ∨ capability = diffstatRead) ∧
        resource = x.bitbucketPullRequestId := by
    intro resource listed
    unfold plannedReads at listed
    have pageless : (capability, resource) ∉ x.confluencePageIds.map fun id => (pageRead, id) := by
      rintro found
      obtain ⟨id, -, same⟩ := List.mem_map.mp found
      exact notPage (Prod.mk.inj same).1.symm
    rw [List.mem_append, or_iff_left pageless] at listed
    cases diffstat : x.includeDiffstat <;> simp [diffstat] at listed <;> tauto
  rcases cases_of here with ⟨isJira, rfl⟩ | ⟨isRepository, rfl⟩ | ⟨onPullRequest, rfl⟩ <;>
    rcases cases_of there with ⟨isJira', rfl⟩ | ⟨isRepository', rfl⟩ | ⟨onPullRequest', rfl⟩ <;>
    first
    | rfl
    | (subst_vars; simp [jiraRead, repositoryRead, pullRequestRead, buildStatusRead,
        diffstatRead] at *)

variable (bound : Bound report plan x)
include bound

/-- An action is determined by its capability and, for a page, its resource. -/
theorem action_unique {a b : AgentAction} (isA : a ∈ plan.actions) (isB : b ∈ plan.actions)
    (same : a.capability = b.capability)
    (page : a.capability = pageRead → a.target.resourceId = b.target.resourceId) : a = b := by
  obtain ⟨issueKey, reads⟩ := bound.reads
  have listed : ∀ c ∈ plan.actions, (c.capability, c.target.resourceId) ∈ plannedReads issueKey x :=
    fun c isC => reads ▸ List.mem_map_of_mem isC
  have resource : a.target.resourceId = b.target.resourceId := by
    by_cases isPage : a.capability = pageRead
    · exact page isPage
    · exact reads_once isPage (listed a isA) (same ▸ listed b isB)
  refine List.inj_on_of_nodup_map (reads ▸ reads_nodup bound.pages.1) isA isB ?_
  rw [same, resource]

theorem action_of_id {a b : AgentAction} (isA : a ∈ plan.actions) (isB : b ∈ plan.actions)
    (same : a.actionId = b.actionId) : a = b :=
  List.inj_on_of_nodup_map bound.planIds isA isB same

theorem report_of_id {r s : ActionReport} (isR : r ∈ report.actions) (isS : s ∈ report.actions)
    (same : r.actionId = s.actionId) : r = s :=
  List.inj_on_of_nodup_map bound.reportIds isR isS same

/-- The action of a report is found by its identifier. -/
theorem find_action {action : AgentAction} {id : Uuid} (isAction : action ∈ plan.actions)
    (same : action.actionId = id) :
    plan.actions.find? (·.actionId == id) = some action :=
  find_unique isAction (beq_iff_eq.mpr same) fun _ isOther other =>
    bound.action_of_id isOther isAction ((beq_iff_eq.mp other).trans same.symm)

theorem jiraIssueKey_eq {action : AgentAction} (isAction : action ∈ plan.actions)
    (isJira : action.capability = jiraRead) :
    jiraIssueKey plan.actions = action.target.resourceId := by
  have found : plan.actions.find? (·.capability == jiraRead) = some action := by
    refine find_unique isAction (beq_iff_eq.mpr isJira) fun other isOther jira => ?_
    have capability : other.capability = jiraRead := beq_iff_eq.mp jira
    exact bound.action_unique isOther isAction (capability.trans isJira.symm)
      fun page => absurd (capability.symm.trans page) (by decide)
  unfold jiraIssueKey
  rw [found]
  rfl

/-- A plan has no other capabilities. -/
theorem capabilities {action : AgentAction} (isAction : action ∈ plan.actions) :
    action.capability = jiraRead ∨ action.capability = repositoryRead ∨
      action.capability = pullRequestRead ∨ action.capability = buildStatusRead ∨
      action.capability = diffstatRead ∨ action.capability = pageRead := by
  obtain ⟨issueKey, reads⟩ := bound.reads
  have listed : (action.capability, action.target.resourceId) ∈ plannedReads issueKey x :=
    reads ▸ List.mem_map_of_mem isAction
  unfold plannedReads at listed
  cases diffstat : x.includeDiffstat <;> simp [diffstat] at listed <;> tauto

theorem page_nonempty {action : AgentAction} (isAction : action ∈ plan.actions)
    (isPage : action.capability = pageRead) : action.target.resourceId.isEmpty = false := by
  obtain ⟨issueKey, reads⟩ := bound.reads
  have listed : (action.capability, action.target.resourceId) ∈ plannedReads issueKey x :=
    reads ▸ List.mem_map_of_mem isAction
  rw [isPage] at listed
  refine bound.pages.2 _ ?_
  unfold plannedReads at listed
  cases diffstat : x.includeDiffstat <;>
    simpa [diffstat, jiraRead, repositoryRead, pullRequestRead, buildStatusRead, diffstatRead,
      pageRead] using listed

end Bound

/-! ## Verified payloads -/

theorem mem_verifiedPayloads {v : Verified} : v ∈ verifiedPayloads report plan ↔
    v.report ∈ report.actions ∧
      plan.actions.find? (·.actionId == v.report.actionId) = some v.action ∧
      v.report.state = .verified ∧ v.report.payload = some v.payload := by
  unfold verifiedPayloads
  rw [List.mem_filterMap]
  constructor
  · rintro ⟨r, listed, made⟩
    obtain ⟨action, found, kept⟩ := Option.bind_eq_some_iff.mp made
    split at kept
    · next state =>
      obtain ⟨payload, carried, rfl⟩ := Option.map_eq_some_iff.mp kept
      exact ⟨listed, found, state, carried⟩
    · cases kept
  · rintro ⟨listed, found, state, carried⟩
    refine ⟨v.report, listed, ?_⟩
    rw [found, Option.bind_some, if_pos state, carried]
    rfl

namespace Bound
variable (bound : Bound report plan x)
include bound

/-- What is known of a verified payload. -/
theorem verified_of {v : Verified} (listed : v ∈ verifiedPayloads report plan) :
    v.action ∈ plan.actions ∧ v.action.capability = v.report.capability ∧
      Verifies report v.action v.payload := by
  obtain ⟨isReport, found, state, carried⟩ := mem_verifiedPayloads.mp listed
  have isAction := List.mem_of_find?_eq_some found
  have same : v.action.actionId = v.report.actionId :=
    identified found
  obtain ⟨action, planned, isSame, capability⟩ := bound.planned v.report isReport
  obtain rfl := bound.action_of_id planned isAction (isSame.trans same.symm)
  exact ⟨isAction, capability, v.report, isReport, same.symm, state, carried⟩

theorem verified_mem {action : AgentAction} {payload : Fields} (isAction : action ∈ plan.actions)
    (verifies : Verifies report action payload) :
    ∃ v ∈ verifiedPayloads report plan, v.action = action ∧ v.payload = payload := by
  obtain ⟨r, isReport, same, state, carried⟩ := verifies
  exact ⟨⟨r, action, payload⟩,
    mem_verifiedPayloads.mpr ⟨isReport, bound.find_action isAction same.symm, state, carried⟩,
    rfl, rfl⟩

/-- Two verified payloads of one action are the same. -/
theorem verified_unique {v w : Verified} (isV : v ∈ verifiedPayloads report plan)
    (isW : w ∈ verifiedPayloads report plan) (same : v.action = w.action) : v = w := by
  obtain ⟨reportV, foundV, -, carriedV⟩ := mem_verifiedPayloads.mp isV
  obtain ⟨reportW, foundW, -, carriedW⟩ := mem_verifiedPayloads.mp isW
  have idV : v.action.actionId = v.report.actionId := identified foundV
  have idW : w.action.actionId = w.report.actionId := identified foundW
  have reports : v.report = w.report :=
    bound.report_of_id reportV reportW (idV.symm.trans (same ▸ idW))
  have payloads : v.payload = w.payload :=
    Option.some.inj (carriedV.symm.trans (reports ▸ carriedW))
  obtain ⟨_, _, _⟩ := v
  obtain ⟨_, _, _⟩ := w
  obtain rfl : _ = _ := reports
  obtain rfl : _ = _ := same
  obtain rfl : _ = _ := payloads
  rfl

theorem verifies_unique {action : AgentAction} {first second : Fields}
    (isAction : action ∈ plan.actions) (one : Verifies report action first)
    (other : Verifies report action second) : first = second := by
  obtain ⟨v, isV, rfl, rfl⟩ := bound.verified_mem isAction one
  obtain ⟨w, isW, same, rfl⟩ := bound.verified_mem isAction other
  rw [bound.verified_unique isV isW same.symm]

/-- The payload for a capability is the one that is there. -/
theorem payloadFor_iff {verified : List Verified} {capability : String} {payload : Fields}
    (known : ∀ v ∈ verified, v ∈ verifiedPayloads report plan) (notPage : capability ≠ pageRead) :
    payloadFor verified capability = some payload ↔
      ∃ v ∈ verified, v.action.capability = capability ∧ v.payload = payload := by
  constructor
  · intro found
    obtain ⟨v, isFound, same⟩ := Option.map_eq_some_iff.mp found
    have listed := List.mem_of_find?_eq_some isFound
    have holds := List.find?_some isFound
    have capable : v.report.capability = capability := beq_iff_eq.mp holds
    exact ⟨v, listed, (bound.verified_of (known v listed)).2.1.trans capable, same⟩
  · rintro ⟨v, listed, capable, rfl⟩
    obtain ⟨isAction, same, -⟩ := bound.verified_of (known v listed)
    have found : verified.find? (·.report.capability == capability) = some v := by
      refine find_unique listed (beq_iff_eq.mpr (same.symm.trans capable)) fun w isW named => ?_
      obtain ⟨isOther, other, -⟩ := bound.verified_of (known w isW)
      have capability : w.action.capability = v.action.capability :=
        (other.trans (beq_iff_eq.mp named)).trans capable.symm
      exact bound.verified_unique (known w isW) (known v listed)
        (bound.action_unique isOther isAction capability fun page =>
          absurd ((capable.symm.trans capability.symm).trans page) notPage)
    unfold payloadFor
    rw [found]
    rfl

end Bound

/-! ## Identities -/

section
variable {a : AgentAction} {payload : Fields}

theorem exact_jira (isJira : a.capability = jiraRead) : Exact x a payload ↔
    ∃ issue, member payload "issue" = some issue ∧ textOf issue "key" = a.target.resourceId := by
  refine ⟨fun exact => exact.jira isJira, fun named => ?_⟩
  constructor <;> intro other <;>
    first | exact named | exact absurd (isJira.symm.trans other) (by decide)

theorem exact_repository (isRepository : a.capability = repositoryRead) : Exact x a payload ↔
    ∃ repository, member payload "repository" = some repository ∧
      textOf repository "slug" = x.bitbucketRepository ∧
      textOf repository "owner_or_project" = x.bitbucketOwner := by
  refine ⟨fun exact => exact.repository isRepository, fun named => ?_⟩
  constructor <;> intro other <;>
    first | exact named | exact absurd (isRepository.symm.trans other) (by decide)

theorem exact_pullRequest (isPullRequest : a.capability = pullRequestRead) : Exact x a payload ↔
    ∃ pr, member payload "pull_request" = some pr ∧
      textOf pr "id" = x.bitbucketPullRequestId := by
  refine ⟨fun exact => exact.pullRequest isPullRequest, fun named => ?_⟩
  constructor <;> intro other <;>
    first | exact named | exact absurd (isPullRequest.symm.trans other) (by decide)

theorem exact_build (isBuild : a.capability = buildStatusRead) : Exact x a payload ↔
    textOf payload "pull_request_id" = x.bitbucketPullRequestId := by
  refine ⟨fun exact => exact.buildStatus isBuild, fun named => ?_⟩
  constructor <;> intro other <;>
    first | exact named | exact absurd (isBuild.symm.trans other) (by decide)

theorem exact_diffstat (isDiffstat : a.capability = diffstatRead) : Exact x a payload ↔
    textOf payload "pull_request_id" = x.bitbucketPullRequestId := by
  refine ⟨fun exact => exact.diffstat isDiffstat, fun named => ?_⟩
  constructor <;> intro other <;>
    first | exact named | exact absurd (isDiffstat.symm.trans other) (by decide)

theorem exact_page (isPage : a.capability = pageRead) : Exact x a payload ↔
    ∃ page, member payload "page" = some page ∧ textOf page "id" = a.target.resourceId ∧
      textOf page "space_id" = x.confluenceSpaceId ∧
      textOf page "space_key" = x.confluenceSpaceKey := by
  refine ⟨fun exact => exact.page isPage, fun named => ?_⟩
  constructor <;> intro other <;>
    first | exact named | exact absurd (isPage.symm.trans other) (by decide)

omit [Host] in
theorem member_any {data : Fields} {key : String} {test : Fields → Bool} :
    (member data key).any test = true ↔
      ∃ found, member data key = some found ∧ test found = true := by
  cases member data key <;> simp

theorem repositoryMatches_iff (isRepository : a.capability = repositoryRead) :
    repositoryMatches x payload = true ↔ Exact x a payload := by
  rw [exact_repository isRepository]
  unfold repositoryMatches
  simp only [member_any, Bool.and_eq_true, beq_iff_eq]

theorem pullRequestMatches_iff (isPullRequest : a.capability = pullRequestRead) :
    pullRequestMatches x payload = true ↔ Exact x a payload := by
  rw [exact_pullRequest isPullRequest]
  unfold pullRequestMatches
  simp only [member_any, beq_iff_eq]

theorem pageMatches_iff (isPage : a.capability = pageRead) :
    pageMatches x a payload = true ↔ Exact x a payload := by
  rw [exact_page isPage]
  unfold pageMatches
  simp only [member_any, Bool.and_eq_true, beq_iff_eq, and_assoc]

omit [Host] in
theorem sameCommit_iff {first second : Fields} {key key' : String} :
    sameCommit first key second key' = true ↔ SameCommit first key second key' := by
  unfold sameCommit SameCommit
  rw [Bool.and_eq_true, Option.isSome_iff_exists, beq_iff_eq]
  constructor
  · rintro ⟨⟨commit, named⟩, same⟩
    exact ⟨commit, named, same.symm.trans named⟩
  · rintro ⟨commit, named, same⟩
    exact ⟨⟨commit, named⟩, named.trans same.symm⟩

omit [Host] in
theorem sameHead_iff {pullRequest build : Fields} :
    sameHead pullRequest build = true ↔ SameHead pullRequest build := by
  unfold sameHead SameHead
  simp only [member_any, sameCommit_iff]

omit [Host] in
theorem sameCommits_iff {pullRequest diffstat : Fields} :
    sameCommits pullRequest diffstat = true ↔ SameCommits pullRequest diffstat := by
  unfold sameCommits SameCommits
  simp only [member_any, Bool.and_eq_true, sameCommit_iff]

end

namespace Bound
variable (bound : Bound report plan x)
include bound

theorem jiraMatches_iff {action : AgentAction} {payload : Fields} (isAction : action ∈ plan.actions)
    (isJira : action.capability = jiraRead) :
    jiraMatches plan payload = true ↔ Exact x action payload := by
  rw [exact_jira isJira]
  unfold jiraMatches
  rw [bound.jiraIssueKey_eq isAction isJira]
  simp only [member_any, beq_iff_eq]

end Bound

/-! ## Quarantine -/

/-- Stale evidence is a test that failed, or a page that is another one. -/
theorem mem_evidenceStaleness {verified : List Verified} {s : Stale} :
    s ∈ evidenceStaleness verified plan x ↔
      s.resourceId = none ∧ (s.kind, true) ∈ staleChecks verified plan x ∨
      ∃ v ∈ verified, v.report.capability = pageRead ∧ pageMatches x v.action v.payload = false ∧
        s = ⟨"confluence_page_identity", some v.action.target.resourceId⟩ := by
  unfold evidenceStaleness
  rw [List.mem_append]
  constructor
  · rintro (checked | paged)
    · obtain ⟨⟨kind, failed⟩, listed, rfl⟩ := List.mem_map.mp checked
      obtain ⟨isCheck, holds⟩ := List.mem_filter.mp listed
      obtain rfl : failed = true := holds
      exact .inl ⟨rfl, isCheck⟩
    · obtain ⟨v, isVerified, made⟩ := List.mem_filterMap.mp paged
      unfold stalePage at made
      split at made
      · next differs =>
        obtain ⟨isPage, differs⟩ := Bool.and_eq_true_iff.mp differs
        exact .inr ⟨v, isVerified, beq_iff_eq.mp isPage, (Bool.not_eq_true' _).mp differs,
          (Option.some.inj made).symm⟩
      · cases made
  · rintro (⟨none, isCheck⟩ | ⟨v, isVerified, isPage, differs, rfl⟩)
    · obtain ⟨kind, resourceId⟩ := s
      obtain rfl : resourceId = _ := none
      exact .inl (List.mem_map.mpr ⟨(kind, true), List.mem_filter.mpr ⟨isCheck, rfl⟩, rfl⟩)
    · have made : stalePage x v = some ⟨"confluence_page_identity",
          some v.action.target.resourceId⟩ := by
        unfold stalePage
        rw [isPage, differs]
        rfl
      exact .inr (List.mem_filterMap.mpr ⟨v, isVerified, made⟩)

theorem kind_mem {verified : List Verified} (kind : String)
    (notPage : kind ≠ "confluence_page_identity") :
    kind ∈ (evidenceStaleness verified plan x).map (·.kind) ↔
      (kind, true) ∈ staleChecks verified plan x := by
  constructor
  · intro listed
    obtain ⟨s, isStale, rfl⟩ := List.mem_map.mp listed
    rcases mem_evidenceStaleness.mp isStale with ⟨-, isCheck⟩ | ⟨v, -, -, -, rfl⟩
    · exact isCheck
    · exact absurd rfl notPage
  · intro isCheck
    exact List.mem_map.mpr ⟨⟨kind, none⟩, mem_evidenceStaleness.mpr (.inl ⟨rfl, isCheck⟩), rfl⟩

theorem staleChecks_kind {verified : List Verified} {check : String × Bool}
    (isCheck : check ∈ staleChecks verified plan x) : check.1 ≠ "confluence_page_identity" := by
  revert check
  unfold staleChecks
  simp

theorem page_mem {verified : List Verified} {pageId : String} :
    pageId ∈ ((evidenceStaleness verified plan x).filter
        (·.kind == "confluence_page_identity")).map (·.resourceId.getD "") ↔
      ∃ v ∈ verified, v.report.capability = pageRead ∧ pageMatches x v.action v.payload = false ∧
        v.action.target.resourceId = pageId := by
  constructor
  · intro listed
    obtain ⟨s, isStale, rfl⟩ := List.mem_map.mp listed
    obtain ⟨isStale, isKind⟩ := List.mem_filter.mp isStale
    rcases mem_evidenceStaleness.mp isStale with ⟨-, isCheck⟩ | ⟨v, isV, isPage, differs, rfl⟩
    · exact absurd (beq_iff_eq.mp isKind) (staleChecks_kind isCheck)
    · exact ⟨v, isV, isPage, differs, rfl⟩
  · rintro ⟨v, isVerified, isPage, differs, rfl⟩
    have stale : (⟨_, some v.action.target.resourceId⟩ : Stale) ∈ evidenceStaleness verified plan x :=
      mem_evidenceStaleness.mpr (.inr ⟨v, isVerified, isPage, differs, rfl⟩)
    exact List.mem_map.mpr ⟨_, List.mem_filter.mpr ⟨stale, rfl⟩, rfl⟩

omit [Host] in
/-- The kinds that quarantine the evidence of a capability besides the pages. -/
theorem quarantined_eq {stale : List Stale} {a : AgentAction} :
    quarantined stale a = true ↔
      a.capability = jiraRead ∧ "jira_issue_identity" ∈ stale.map (·.kind) ∨
      a.capability = repositoryRead ∧ "bitbucket_repository_identity" ∈ stale.map (·.kind) ∨
      a.capability = pullRequestRead ∧ "bitbucket_pull_request_identity" ∈ stale.map (·.kind) ∨
      a.capability = buildStatusRead ∧
        ("bitbucket_build_pull_request_identity" ∈ stale.map (·.kind) ∨
          "pull_request_build_head" ∈ stale.map (·.kind)) ∨
      a.capability = diffstatRead ∧
        ("bitbucket_diffstat_pull_request_identity" ∈ stale.map (·.kind) ∨
          "pull_request_diffstat_commits" ∈ stale.map (·.kind)) ∨
      a.capability = pageRead ∧ a.target.resourceId ∈
        (stale.filter (·.kind == "confluence_page_identity")).map (·.resourceId.getD "") := by
  have identity : ((identityKind a.capability).any (stale.map (·.kind)).contains) = true ↔
      a.capability = jiraRead ∧ "jira_issue_identity" ∈ stale.map (·.kind) ∨
      a.capability = repositoryRead ∧ "bitbucket_repository_identity" ∈ stale.map (·.kind) ∨
      a.capability = pullRequestRead ∧ "bitbucket_pull_request_identity" ∈ stale.map (·.kind) := by
    unfold identityKind
    by_cases jira : a.capability = jiraRead
    · rw [jira]
      simp [jiraRead, repositoryRead, pullRequestRead]
    · by_cases repository : a.capability = repositoryRead
      · rw [repository]
        simp [List.lookup_cons, jiraRead, repositoryRead, pullRequestRead]
      · by_cases pullRequest : a.capability = pullRequestRead
        · rw [pullRequest]
          simp [List.lookup_cons, jiraRead, repositoryRead, pullRequestRead]
        · simp [List.lookup_cons, beq_eq_false_iff_ne.mpr jira, beq_eq_false_iff_ne.mpr repository,
            beq_eq_false_iff_ne.mpr pullRequest, jira, repository, pullRequest]
  unfold quarantined
  simp only [Bool.or_eq_true, Bool.and_eq_true, beq_iff_eq, List.contains_iff_mem, identity,
    or_assoc]

namespace Bound
variable (bound : Bound report plan x)
include bound

/-- A payload is quarantined unless its identity is exact and its commits are the pull request's. -/
theorem quarantined_iff {v : Verified} (listed : v ∈ verifiedPayloads report plan) :
    quarantined (evidenceStaleness (verifiedPayloads report plan) plan x) v.action = false ↔
      Exact x v.action v.payload ∧
      (v.action.capability = buildStatusRead → headDiffers x
        (payloadFor (verifiedPayloads report plan) pullRequestRead) (some v.payload) = false) ∧
      (v.action.capability = diffstatRead → commitsDiffer x
        (payloadFor (verifiedPayloads report plan) pullRequestRead) (some v.payload) = false) := by
  obtain ⟨isAction, same, -⟩ := bound.verified_of listed
  have here : v.action.capability ≠ pageRead →
      payloadFor (verifiedPayloads report plan) v.action.capability = some v.payload :=
    fun notPage => (bound.payloadFor_iff (fun _ => id) notPage).mpr ⟨v, listed, rfl, rfl⟩
  rw [← Bool.not_eq_true, quarantined_eq]
  rcases bound.capabilities isAction with is | is | is | is | is | is
  · have read := here (by rw [is]; decide)
    rw [is] at read
    unfold jiraRead at read
    rw [← bound.jiraMatches_iff isAction is, is, kind_mem "jira_issue_identity" (by decide)]
    simp [staleChecks, read, jiraRead, repositoryRead, pullRequestRead, buildStatusRead,
      diffstatRead, pageRead]
  · have read := here (by rw [is]; decide)
    rw [is] at read
    unfold repositoryRead at read
    rw [← repositoryMatches_iff is, is, kind_mem "bitbucket_repository_identity" (by decide)]
    simp [staleChecks, read, jiraRead, repositoryRead, pullRequestRead, buildStatusRead,
      diffstatRead, pageRead]
  · have read := here (by rw [is]; decide)
    rw [is] at read
    unfold pullRequestRead at read
    rw [← pullRequestMatches_iff is, is, kind_mem "bitbucket_pull_request_identity" (by decide)]
    simp [staleChecks, read, jiraRead, repositoryRead, pullRequestRead, buildStatusRead,
      diffstatRead, pageRead]
  · have read := here (by rw [is]; decide)
    rw [is] at read
    unfold buildStatusRead at read
    rw [exact_build is, is, kind_mem "bitbucket_build_pull_request_identity" (by decide),
      kind_mem "pull_request_build_head" (by decide)]
    simp [staleChecks, read, namesPullRequest, jiraRead, repositoryRead, pullRequestRead,
      buildStatusRead, diffstatRead, pageRead]
  · have read := here (by rw [is]; decide)
    rw [is] at read
    unfold diffstatRead at read
    rw [exact_diffstat is, is,
      kind_mem "bitbucket_diffstat_pull_request_identity" (by decide),
      kind_mem "pull_request_diffstat_commits" (by decide)]
    simp [staleChecks, read, namesPullRequest, jiraRead, repositoryRead, pullRequestRead,
      buildStatusRead, diffstatRead, pageRead]
  · have paged : v.action.target.resourceId ∈
        ((evidenceStaleness (verifiedPayloads report plan) plan x).filter
          (·.kind == "confluence_page_identity")).map (·.resourceId.getD "") ↔
        pageMatches x v.action v.payload = false := by
      rw [page_mem]
      constructor
      · rintro ⟨w, isW, isPage, differs, resource⟩
        obtain ⟨isOther, other, -⟩ := bound.verified_of isW
        have one : w.action = v.action := bound.action_unique isOther isAction
          ((other.trans isPage).trans is.symm) fun _ => resource
        rwa [bound.verified_unique isW listed one] at differs
      · intro differs
        exact ⟨v, listed, same.symm.trans is, differs, rfl⟩
    rw [paged, ← pageMatches_iff is, is]
    simp [jiraRead, repositoryRead, pullRequestRead, buildStatusRead, diffstatRead, pageRead]

/-! ## Failures -/

omit bound [Host] in
/-- A record of stale evidence names the action that is found for it. -/
theorem quarantineRecord_of {actions : List AgentAction} {action : AgentAction}
    {capability : String} (stale : Stale) (known : capabilityByKind stale.kind = some capability)
    (found : actions.find? (fun a => a.capability == capability &&
      ((stale.resourceId.getD "").isEmpty || a.target.resourceId == stale.resourceId.getD "")) =
        some action) : ∃ f, quarantineRecord actions stale = some f ∧ f.Names action := by
  refine ⟨⟨action.capability, "quarantined", "post_verification_identity_binding",
    action.target.system, action.target.resourceType, action.target.resourceId,
    "independently verified evidence failed the workflow's " ++ failedBinding stale.kind ++
      " binding and was quarantined"⟩, ?_, rfl, rfl, rfl, rfl⟩
  unfold quarantineRecord
  rw [known]
  show Option.map _ (actions.find? _) = _
  rw [found]
  rfl

/-- A stale kind besides the pages' is recorded for the action that it is about. -/
theorem record_of_kind {action : AgentAction} {kind capability : String}
    (isAction : action ∈ plan.actions) (is : action.capability = capability)
    (known : capabilityByKind kind = some capability) (notPage : capability ≠ pageRead)
    (kindNotPage : kind ≠ "confluence_page_identity")
    (stale : kind ∈ (evidenceStaleness (verifiedPayloads report plan) plan x).map (·.kind)) :
    ∃ f ∈ failureRecords report plan (evidenceStaleness (verifiedPayloads report plan) plan x),
      f.Names action := by
  have isStale : (⟨kind, none⟩ : Stale) ∈
      evidenceStaleness (verifiedPayloads report plan) plan x :=
    mem_evidenceStaleness.mpr (.inl ⟨rfl, (kind_mem kind kindNotPage).mp stale⟩)
  have found : plan.actions.find? (fun a => a.capability == capability &&
      (("" : String).isEmpty || a.target.resourceId == "")) = some action := by
    refine find_unique isAction (Bool.and_eq_true_iff.mpr ⟨beq_iff_eq.mpr is, rfl⟩) ?_
    intro other isOther holds
    have same : other.capability = capability := beq_iff_eq.mp (Bool.and_eq_true_iff.mp holds).1
    exact bound.action_unique isOther isAction (same.trans is.symm) fun page =>
      absurd (same.symm.trans page) notPage
  obtain ⟨f, recorded, names⟩ := quarantineRecord_of ⟨kind, none⟩ known found
  exact ⟨f, List.mem_append_right _ (List.mem_filterMap.mpr ⟨_, isStale, recorded⟩), names⟩

/-- Every quarantined payload has a failure record. -/
theorem record_quarantined {v : Verified} (listed : v ∈ verifiedPayloads report plan)
    (held : quarantined (evidenceStaleness (verifiedPayloads report plan) plan x) v.action = true) :
    ∃ f ∈ failureRecords report plan (evidenceStaleness (verifiedPayloads report plan) plan x),
      f.Names v.action := by
  obtain ⟨isAction, -, -⟩ := bound.verified_of listed
  rcases quarantined_eq.mp held with ⟨is, kind⟩ | ⟨is, kind⟩ | ⟨is, kind⟩ | ⟨is, kind | kind⟩ |
    ⟨is, kind | kind⟩ | ⟨is, paged⟩
  · exact bound.record_of_kind isAction is (by decide) (by decide) (by decide) kind
  · exact bound.record_of_kind isAction is (by decide) (by decide) (by decide) kind
  · exact bound.record_of_kind isAction is (by decide) (by decide) (by decide) kind
  · exact bound.record_of_kind isAction is (by decide) (by decide) (by decide) kind
  · exact bound.record_of_kind isAction is (by decide) (by decide) (by decide) kind
  · exact bound.record_of_kind isAction is (by decide) (by decide) (by decide) kind
  · exact bound.record_of_kind isAction is (by decide) (by decide) (by decide) kind
  · obtain ⟨w, isW, isPage, differs, resource⟩ := page_mem.mp paged
    obtain ⟨isOther, other, -⟩ := bound.verified_of isW
    have one : w.action = v.action := bound.action_unique isOther isAction
      ((other.trans isPage).trans is.symm) fun _ => resource
    have isStale : (⟨"confluence_page_identity", some v.action.target.resourceId⟩ : Stale) ∈
        evidenceStaleness (verifiedPayloads report plan) plan x :=
      mem_evidenceStaleness.mpr (.inr ⟨w, isW, isPage, differs, by rw [one]⟩)
    have found : plan.actions.find? (fun a => a.capability == pageRead &&
        (v.action.target.resourceId.isEmpty || a.target.resourceId == v.action.target.resourceId)) =
          some v.action := by
      have nonempty := bound.page_nonempty isAction is
      refine find_unique isAction ?_ fun b isB holds => ?_
      · rw [is, beq_self_eq_true, beq_self_eq_true, Bool.or_true]
        rfl
      · rw [nonempty, Bool.false_or] at holds
        obtain ⟨capability, same⟩ := Bool.and_eq_true_iff.mp holds
        exact bound.action_unique isB isAction ((beq_iff_eq.mp capability).trans is.symm)
          fun _ => beq_iff_eq.mp same
    obtain ⟨f, recorded, names⟩ :=
      quarantineRecord_of ⟨"confluence_page_identity", some _⟩
        (show capabilityByKind "confluence_page_identity" = some pageRead by decide) found
    exact ⟨f, List.mem_append_right _ (List.mem_filterMap.mpr ⟨_, isStale, recorded⟩), names⟩

/-- An action without a failure record is verified, and its payload is not quarantined. -/
theorem failures_cover {action : AgentAction} (isAction : action ∈ plan.actions)
    (carried : ∀ r ∈ report.actions, r.state = .verified → ∃ payload, r.payload = some payload) :
    (∃ f ∈ failureRecords report plan (evidenceStaleness (verifiedPayloads report plan) plan x),
      f.Names action) ∨
    ∃ v ∈ verifiedPayloads report plan, v.action = action ∧
      quarantined (evidenceStaleness (verifiedPayloads report plan) plan x) v.action = false := by
  obtain ⟨r, isReport, same⟩ := bound.reported action isAction
  by_cases state : r.state = .verified
  · obtain ⟨payload, has⟩ := carried r isReport state
    obtain ⟨v, listed, rfl, rfl⟩ :=
      bound.verified_mem isAction ⟨r, isReport, same, state, has⟩
    cases held : quarantined (evidenceStaleness (verifiedPayloads report plan) plan x) v.action with
    | true => exact .inl (bound.record_quarantined listed held)
    | false => exact .inr ⟨v, listed, rfl, held⟩
  · obtain ⟨other, isOther, identified, capability⟩ := bound.planned r isReport
    obtain rfl := bound.action_of_id isOther isAction (identified.trans same)
    refine .inl ⟨⟨r.capability, r.state.str, "provider_read_and_independent_verification",
      other.target.system, other.target.resourceType, other.target.resourceId,
      "configured evidence was not independently verified"⟩, ?_, capability.symm, rfl, rfl, rfl⟩
    refine List.mem_append_left _ (List.mem_filterMap.mpr ⟨r, isReport, ?_⟩)
    rw [if_neg state, bound.find_action isOther identified]
    rfl

end Bound

end

end MasterAgent.EngineeringReview
