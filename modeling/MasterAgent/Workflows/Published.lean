import MasterAgent.Orchestrator.Order
import MasterAgent.Workflows.Honesty
import MasterAgent.Workflows.Sources

/-!
# Published engineering reviews

The parts of honesty are put together for a report that reaches publication.

Results:

1. `Bound.of_render`: validation binds the report to the plan;
2. `complete_iff`: when the evidence is complete, in terms of the passes;
3. `Bound.holds_iff`: what the evidence holds;
4. `review_honest_iff`: exactly when a published review is honest;
5. `foreign_pull_request`: build evidence that is published without a pull request.
-/

namespace MasterAgent.EngineeringReview
open Base Connectors Citations

section
variable [Host] {report : RunReport} {plan : ChangePlan} {x : SettingsFields}

/-! ## Validation -/

omit [Host] in
theorem of_guardThat {holds : Bool} {message : String} {u : Unit}
    (passed : guardThat holds message = .ok u) : holds = true := by
  unfold guardThat at passed
  split at passed
  · assumption
  · cases passed

theorem reads_of_valid [Urls] {settings : Settings} (valid : validatePlan plan settings = .ok ()) :
    ∃ issueKey, plan.actions.map (fun a => (a.capability, a.target.resourceId)) =
      plannedReads issueKey settings.toSettingsFields := by
  unfold validatePlan at valid
  obtain ⟨_, -, valid⟩ := of_bind_ok valid
  obtain ⟨_, -, valid⟩ := of_bind_ok valid
  split at valid
  · next jira _ =>
    have same := beq_iff_eq.mp (of_guardThat valid)
    refine ⟨jira.target.resourceId, ?_⟩
    rw [← plannedReads_shape, ← same]
    unfold actionShape
    rw [List.map_map]
    rfl
  · cases valid

theorem pages_of_valid [Urls] (settings : Settings) : settings.confluencePageIds.Nodup ∧
    ∀ pageId ∈ settings.confluencePageIds, pageId.isEmpty = false := by
  have holds := firstError_none.mp settings.valid
    (demand (settings.confluencePageIds.Nodup &&
      settings.confluencePageIds.all fun id => isPositiveNumeral id && id.length ≤ 40)
      "engineering review Confluence page IDs must be unique canonical positive integers")
    (List.mem_append_right _ (by simp))
  obtain ⟨nodup, numerals⟩ := Bool.and_eq_true_iff.mp holds
  refine ⟨of_decide_eq_true nodup, fun pageId listed => ?_⟩
  have numeral := (Bool.and_eq_true_iff.mp (List.all_eq_true.mp numerals pageId listed)).1
  cases empty : pageId.isEmpty with
  | false => rfl
  | true =>
    rw [String.isEmpty_iff.mp empty] at numeral
    cases numeral

/-- What validation says of one report. -/
theorem of_validateActionReport {context : ExecutionContext} {action : AgentAction}
    {r : ActionReport} (valid : validateActionReport context action r = .ok ()) :
    r.capability = action.capability ∧
      (r.state = .verified → ∃ payload, r.payload = some payload) := by
  unfold validateActionReport at valid
  obtain ⟨_, capability, valid⟩ := of_bind_ok valid
  obtain ⟨_, -, valid⟩ := of_bind_ok valid
  obtain ⟨_, -, valid⟩ := of_bind_ok valid
  refine ⟨beq_iff_eq.mp (of_guardThat capability), fun state => ?_⟩
  rw [if_pos state] at valid
  unfold validateVerified at valid
  split at valid
  · next payload _ carried => exact ⟨payload, carried⟩
  · cases valid

/-- A report that reaches publication is bound to the plan, and its verified actions carry
payloads. -/
theorem Bound.of_render [Urls] {settings : Settings} {root : OutputRoot} {published : Publication}
    (rendered : render report plan settings root = .ok published) :
    Bound report plan settings.toSettingsFields ∧
      (∀ r ∈ report.actions, r.state = .verified → ∃ payload, r.payload = some payload) ∧
      reviewOf report plan settings.toSettingsFields = .ok published := by
  unfold render at rendered
  obtain ⟨_, planned, rendered⟩ := of_bind_ok rendered
  obtain ⟨_, -, rendered⟩ := of_bind_ok rendered
  obtain ⟨_, reported, rendered⟩ := of_bind_ok rendered
  unfold validateReportBinding at reported
  obtain ⟨_, -, reported⟩ := of_bind_ok reported
  obtain ⟨_, -, reported⟩ := of_bind_ok reported
  split at reported
  · cases reported
  next context _ =>
  obtain ⟨_, -, reported⟩ := of_bind_ok reported
  obtain ⟨_, -, reported⟩ := of_bind_ok reported
  obtain ⟨_, once, each⟩ := of_bind_ok reported
  have ids := of_guardThat once
  simp only [Bool.and_eq_true, decide_eq_true_eq, List.all_eq_true, List.contains_iff_mem,
    List.mem_map, forall_exists_index, and_imp, forall_apply_eq_imp_iff₂] at ids
  obtain ⟨⟨nodup, known⟩, all⟩ := ids
  have valid : ∀ r ∈ report.actions, ∃ action ∈ plan.actions, action.actionId = r.actionId ∧
      validateActionReport context action r = .ok () := by
    intro r listed
    obtain ⟨action, found, checked⟩ := of_bind_ok (of_forM_ok each listed)
    unfold actionById at found
    split at found
    · next _ isFound =>
      obtain rfl := Except.ok.inj found
      exact ⟨_, List.mem_of_find?_eq_some isFound, identified isFound, checked⟩
    · cases found
  refine ⟨⟨reads_of_valid planned, pages_of_valid settings, ChangePlan.ids_nodup plan, nodup,
    fun action listed => ?_, fun r listed => ?_⟩, fun r listed => ?_, rendered⟩
  · obtain ⟨r, isReport, same⟩ := all action listed
    exact ⟨r, isReport, same⟩
  · obtain ⟨action, isAction, same, checked⟩ := valid r listed
    exact ⟨action, isAction, same, (of_validateActionReport checked).1.symm⟩
  · obtain ⟨_, -, -, checked⟩ := valid r listed
    exact (of_validateActionReport checked).2

/-! ## Outcome -/

theorem classifyOutcome_complete {ambiguities : List Ambiguity} {stale : List Stale} :
    classifyOutcome report plan ambiguities stale = .complete ↔
      stale = [] ∧ (∀ r ∈ report.actions, isStale r = false) ∧ ambiguities = [] ∧
        ∀ r ∈ report.actions, unverified r = false := by
  unfold classifyOutcome
  dsimp only
  constructor
  · intro isComplete
    split at isComplete
    · cases isComplete
    next fresh =>
    split at isComplete
    · cases isComplete
    next clear =>
    split at isComplete
    · cases isComplete
    split at isComplete
    · cases isComplete
    next verified =>
    obtain ⟨noStale, noneStale⟩ := Bool.or_eq_false_iff.mp (Bool.not_eq_true _ ▸ fresh)
    refine ⟨?_, fun r listed => ?_, ?_, fun r listed => ?_⟩
    · exact List.isEmpty_iff.mp ((Bool.not_eq_false' _).mp noStale)
    · exact Bool.not_eq_true _ ▸ List.any_eq_false.mp noneStale r listed
    · exact List.isEmpty_iff.mp ((Bool.not_eq_false' _).mp (Bool.not_eq_true _ ▸ clear))
    · exact Bool.not_eq_true _ ▸ List.any_eq_false.mp (Bool.not_eq_true _ ▸ verified) r listed
  · rintro ⟨rfl, fresh, rfl, verified⟩
    have noneStale : report.actions.any isStale = false :=
      List.any_eq_false.mpr fun r listed => by rw [fresh r listed]; exact Bool.false_ne_true
    have noneOpen : report.actions.any unverified = false :=
      List.any_eq_false.mpr fun r listed => by rw [verified r listed]; exact Bool.false_ne_true
    rw [noneStale, if_neg (by decide), if_neg (by decide), noneOpen, if_neg, if_neg (by decide)]
    rw [Bool.not_eq_true]
    refine List.any_eq_false.mpr fun r listed => ?_
    rw [verified r listed, Bool.and_false]
    exact Bool.false_ne_true

omit [Host] in
theorem unverified_iff {r : ActionReport} :
    unverified r = false ↔ r.state = .verified ∧ ∃ payload, r.payload = some payload := by
  unfold unverified
  cases r.payload <;> simp

theorem isStale_verified {r : ActionReport} (state : r.state = .verified) :
    isStale r = marked r := by
  unfold isStale
  rw [state]
  rfl

/-! ## Relations -/

theorem mem_relationsOf {issue : Fields} {provider : String} {keys relation : List String} :
    relation ∈ relationsOf issue provider keys ↔ ∃ items item,
      issue.lookup "external_relations" = some (.arr items) ∧ Json.obj item ∈ items ∧
        item.lookup "provider" = some (.str provider) ∧ keys.map (textOf item) = relation := by
  unfold relationsOf
  split
  · next items listed =>
    simp only [List.mem_insertionSort, List.mem_dedup, List.mem_map, List.mem_filter,
      mem_mappings, beq_iff_eq]
    constructor
    · rintro ⟨item, ⟨isItem, named⟩, same⟩
      exact ⟨items, item, listed, isItem, named, same⟩
    · rintro ⟨others, item, shown, isItem, named, read⟩
      obtain rfl := Json.arr.inj (Option.some.inj (listed.symm.trans shown))
      exact ⟨item, ⟨isItem, named⟩, read⟩
  · next other =>
    constructor
    · intro listed
      cases listed
    · rintro ⟨items, item, listed, -⟩
      exact absurd listed (other items)

theorem relationAmbiguities_nil {verified : List Verified} {jira : Fields}
    (read : payloadFor verified jiraRead = some jira) :
    relationAmbiguities verified x = [] ↔ InScope x jira := by
  unfold relationAmbiguities recordFor
  rw [read, Option.bind_some]
  cases record : member jira "issue" with
  | none =>
    refine ⟨fun _ issue items item here => ?_, fun _ => rfl⟩
    rw [record] at here
    cases here
  | some issue =>
    dsimp only
    rw [List.append_eq_nil_iff]
    constructor
    · rintro ⟨noBitbucket, noConfluence⟩ other items item here listed isItem
      obtain rfl := Option.some.inj (record.symm.trans here)
      constructor
      · intro provider
        have within : [textOf item "owner_or_project", textOf item "repository",
            textOf item "pull_request_id"] =
            [x.bitbucketOwner, x.bitbucketRepository, x.bitbucketPullRequestId] := by
          by_contra differs
          rw [if_pos] at noBitbucket
          · cases noBitbucket
          · exact List.any_eq_true.mpr ⟨_, mem_relationsOf.mpr
              ⟨items, item, listed, isItem, provider, rfl⟩, bne_iff_ne.mpr differs⟩
        simpa using within
      · intro provider
        have within : outsidePages x [textOf item "space", textOf item "page_id"] = false := by
          by_contra outside
          rw [if_pos] at noConfluence
          · cases noConfluence
          · exact List.any_eq_true.mpr ⟨_, mem_relationsOf.mpr
              ⟨items, item, listed, isItem, provider, rfl⟩, Bool.not_eq_false _ ▸ outside⟩
        simpa [outsidePages] using within
    · intro scope
      constructor
      · refine if_neg fun leaves => ?_
        obtain ⟨relation, listed, differs⟩ := List.any_eq_true.mp leaves
        obtain ⟨items, item, found, isItem, provider, rfl⟩ := mem_relationsOf.mp listed
        obtain ⟨owner, repository, pullRequest⟩ :=
          (scope issue items item record found isItem).1 provider
        refine absurd ?_ (bne_iff_ne.mp differs)
        show [_, _, _] = _
        rw [owner, repository, pullRequest]
      · refine if_neg fun leaves => ?_
        obtain ⟨relation, listed, outside⟩ := List.any_eq_true.mp leaves
        obtain ⟨items, item, found, isItem, provider, rfl⟩ := mem_relationsOf.mp listed
        obtain ⟨space, page⟩ := (scope issue items item record found isItem).2 provider
        have within : outsidePages x [textOf item "space", textOf item "page_id"] = false := by
          simp [outsidePages, space, page]
        exact absurd (within.symm.trans outside) Bool.noConfusion

/-! ## Reportable evidence -/

omit [Host] in
theorem mem_reportable {verified : List Verified} {stale : List Stale} {v : Verified} :
    v ∈ reportable verified stale ↔ v ∈ verified ∧ quarantined stale v.action = false := by
  unfold reportable
  rw [List.mem_filter, Bool.not_eq_true']

/-- A failed test of the evidence quarantines a payload. -/
theorem check_quarantines {verified : List Verified} {check : String × Bool} {stale : List Stale}
    (isCheck : check ∈ staleChecks verified plan x) (fails : check.2 = true)
    (isStale : check.1 ∈ stale.map (·.kind)) : ∃ capability payload, capability ≠ pageRead ∧
      payloadFor verified capability = some payload ∧
      ∀ a : AgentAction, a.capability = capability → quarantined stale a = true := by
  have held : ∀ {capability : String} {test : Fields → Bool},
      ((payloadFor verified capability).any test) = true →
        ∃ payload, payloadFor verified capability = some payload :=
    fun some => Option.isSome_iff_exists.mp (Option.isSome_of_any some)
  unfold staleChecks at isCheck
  dsimp only at isCheck
  simp only [List.mem_cons, List.not_mem_nil, or_false] at isCheck
  rcases isCheck with rfl | rfl | rfl | rfl | rfl | rfl | rfl
  · obtain ⟨payload, read⟩ := held fails
    exact ⟨_, payload, by decide, read, fun a is => quarantined_eq.mpr (.inl ⟨is, isStale⟩)⟩
  · obtain ⟨payload, read⟩ := held fails
    exact ⟨_, payload, by decide, read, fun a is =>
      quarantined_eq.mpr (.inr (.inl ⟨is, isStale⟩))⟩
  · obtain ⟨payload, read⟩ := held fails
    exact ⟨_, payload, by decide, read, fun a is =>
      quarantined_eq.mpr (.inr (.inr (.inl ⟨is, isStale⟩)))⟩
  · obtain ⟨payload, read⟩ := held fails
    exact ⟨_, payload, by decide, read, fun a is =>
      quarantined_eq.mpr (.inr (.inr (.inr (.inl ⟨is, .inl isStale⟩))))⟩
  · obtain ⟨payload, read⟩ := held fails
    exact ⟨_, payload, by decide, read, fun a is =>
      quarantined_eq.mpr (.inr (.inr (.inr (.inr (.inl ⟨is, .inl isStale⟩)))))⟩
  · cases read : payloadFor verified buildStatusRead with
    | none =>
      dsimp only at fails
      rw [read] at fails
      unfold headDiffers at fails
      split at fails <;> simp_all
    | some payload =>
      exact ⟨_, payload, by decide, read, fun a is =>
        quarantined_eq.mpr (.inr (.inr (.inr (.inl ⟨is, .inr isStale⟩))))⟩
  · obtain ⟨payload, read⟩ := held fails
    exact ⟨_, payload, by decide, read, fun a is =>
      quarantined_eq.mpr (.inr (.inr (.inr (.inr (.inl ⟨is, .inr isStale⟩)))))⟩

namespace Bound
variable (bound : Bound report plan x)
include bound

/-- Evidence is stale exactly if a payload is quarantined. -/
theorem stale_nil : evidenceStaleness (verifiedPayloads report plan) plan x = [] ↔
    ∀ v ∈ verifiedPayloads report plan,
      quarantined (evidenceStaleness (verifiedPayloads report plan) plan x) v.action = false := by
  constructor
  · intro none v _
    rw [none, ← Bool.not_eq_true, quarantined_eq]
    simp
  · intro free
    refine List.eq_nil_iff_forall_not_mem.mpr fun s isStale => ?_
    rcases mem_evidenceStaleness.mp isStale with ⟨-, isCheck⟩ | ⟨v, isV, isPage, differs, rfl⟩
    · obtain ⟨capability, payload, notPage, read, quarantines⟩ := check_quarantines isCheck rfl
        (List.mem_map_of_mem (f := (·.kind)) isStale)
      obtain ⟨v, isV, is, -⟩ := (bound.payloadFor_iff (fun _ => id) notPage).mp read
      exact absurd ((free v isV).symm.trans (quarantines v.action is)) Bool.noConfusion
    · obtain ⟨-, same, -⟩ := bound.verified_of isV
      have held : quarantined (evidenceStaleness (verifiedPayloads report plan) plan x)
          v.action = true := quarantined_eq.mpr (.inr (.inr (.inr (.inr (.inr
        ⟨same.trans isPage, page_mem.mpr ⟨v, isV, isPage, differs, rfl⟩⟩)))))
      exact absurd ((free v isV).symm.trans held) Bool.noConfusion

theorem reads_iff {capability : String} {payload : Fields} (notPage : capability ≠ pageRead) :
    Reads report plan capability payload ↔
      payloadFor (verifiedPayloads report plan) capability = some payload := by
  rw [bound.payloadFor_iff (fun _ => id) notPage]
  constructor
  · rintro ⟨action, isAction, is, verifies⟩
    obtain ⟨v, isV, rfl, rfl⟩ := bound.verified_mem isAction verifies
    exact ⟨v, isV, is, rfl⟩
  · rintro ⟨v, isV, is, rfl⟩
    obtain ⟨isAction, -, verifies⟩ := bound.verified_of isV
    exact ⟨v.action, isAction, is, verifies⟩

/-- A plan reads a pull request. -/
theorem pullRequest_planned : ∃ action ∈ plan.actions, action.capability = pullRequestRead := by
  obtain ⟨issueKey, reads⟩ := bound.reads
  have listed : (pullRequestRead, x.bitbucketPullRequestId) ∈
      plan.actions.map (fun a => (a.capability, a.target.resourceId)) := by
    rw [reads]
    unfold plannedReads
    simp
  obtain ⟨action, isAction, same⟩ := List.mem_map.mp listed
  exact ⟨action, isAction, (Prod.mk.inj same).1⟩

/-- Nothing is quarantined of evidence that is complete. -/
theorem free_of_complete (complete : Complete report plan x) {v : Verified}
    (isV : v ∈ verifiedPayloads report plan) :
    quarantined (evidenceStaleness (verifiedPayloads report plan) plan x) v.action = false := by
  obtain ⟨isAction, -, verifies⟩ := bound.verified_of isV
  have exactly : ∀ {action : AgentAction} {payload : Fields}, action ∈ plan.actions →
      Verifies report action payload → Exact x action payload := by
    intro action payload isAction verifies
    obtain ⟨other, verified, exact⟩ := complete.verified action isAction
    rwa [bound.verifies_unique isAction verifies verified]
  refine (bound.quarantined_iff isV).mpr ⟨exactly isAction verifies, fun is => ?_, fun is => ?_⟩
  · cases read : payloadFor (verifiedPayloads report plan) pullRequestRead with
    | none => rfl
    | some pr =>
      have reads := (bound.reads_iff (by decide)).mpr read
      have head := complete.head pr v.payload reads ⟨v.action, isAction, is, verifies⟩
      show (pullRequestMatches x pr && namesPullRequest x v.payload && !sameHead pr v.payload) = false
      rw [sameHead_iff.mpr head, Bool.not_true, Bool.and_false]
  · obtain ⟨action, isPullRequest, isPR⟩ := bound.pullRequest_planned
    obtain ⟨pr, verified, exact⟩ := complete.verified action isPullRequest
    have reads : Reads report plan pullRequestRead pr := ⟨action, isPullRequest, isPR, verified⟩
    have commits := complete.commits pr v.payload reads ⟨v.action, isAction, is, verifies⟩
    unfold commitsDiffer
    rw [(bound.reads_iff (by decide)).mp reads, Option.any_some, Option.any_some,
      sameCommits_iff.mpr commits, (pullRequestMatches_iff isPR).mpr exact, Bool.and_true,
      Bool.not_true, Bool.and_false]

/-- The evidence is complete exactly if every report is verified, nothing is stale and no relation
is ambiguous. -/
theorem complete_iff (carried : ∀ r ∈ report.actions, r.state = .verified →
      ∃ payload, r.payload = some payload) :
    Complete report plan x ↔ (∀ r ∈ report.actions, unverified r = false) ∧
      evidenceStaleness (verifiedPayloads report plan) plan x = [] ∧
      relationAmbiguities (reportable (verifiedPayloads report plan)
        (evidenceStaleness (verifiedPayloads report plan) plan x)) x = [] := by
  have whole : evidenceStaleness (verifiedPayloads report plan) plan x = [] →
      reportable (verifiedPayloads report plan)
        (evidenceStaleness (verifiedPayloads report plan) plan x) =
      verifiedPayloads report plan := fun none =>
    List.filter_eq_self.mpr fun v isV => by rw [bound.stale_nil.mp none v isV]; rfl
  constructor
  · intro complete
    have none := bound.stale_nil.mpr fun v isV => bound.free_of_complete complete isV
    refine ⟨fun r isReport => ?_, none, ?_⟩
    · obtain ⟨action, isAction, same, -⟩ := bound.planned r isReport
      obtain ⟨payload, ⟨s, isS, sameS, state, -⟩, -⟩ := complete.verified action isAction
      obtain rfl := bound.report_of_id isS isReport (sameS.trans same)
      exact unverified_iff.mpr ⟨state, carried s isS state⟩
    · rw [whole none]
      cases read : payloadFor (verifiedPayloads report plan) jiraRead with
      | none =>
        unfold relationAmbiguities recordFor
        rw [read]
        rfl
      | some jira =>
        exact (relationAmbiguities_nil read).mpr
          (complete.scope jira ((bound.reads_iff (by decide)).mpr read))
  · rintro ⟨verified, none, clear⟩
    rw [whole none] at clear
    have fine : ∀ {v : Verified}, v ∈ verifiedPayloads report plan → _ :=
      fun {v} isV => (bound.quarantined_iff isV).mp (bound.stale_nil.mp none v isV)
    have exactly : ∀ {action : AgentAction} {payload : Fields}, action ∈ plan.actions →
        Verifies report action payload → Exact x action payload := by
      intro action payload isAction verifies
      obtain ⟨v, isV, rfl, rfl⟩ := bound.verified_mem isAction verifies
      exact (fine isV).1
    constructor
    · intro action isAction
      obtain ⟨r, isReport, same⟩ := bound.reported action isAction
      obtain ⟨state, payload, has⟩ := unverified_iff.mp (verified r isReport)
      have verifies : Verifies report action payload := ⟨r, isReport, same, state, has⟩
      exact ⟨payload, verifies, exactly isAction verifies⟩
    · rintro pr build reads ⟨action, isAction, is, verifies⟩
      obtain ⟨v, isV, rfl, rfl⟩ := bound.verified_mem isAction verifies
      have head := (fine isV).2.1 is
      obtain ⟨other, isOther, isPR, verifiesPR⟩ := reads
      unfold headDiffers at head
      rw [(bound.reads_iff (by decide)).mp ⟨other, isOther, isPR, verifiesPR⟩] at head
      have names : namesPullRequest x v.payload = true :=
        beq_iff_eq.mpr ((exact_build is).mp (fine isV).1)
      dsimp only at head
      rw [(pullRequestMatches_iff isPR).mpr (exactly isOther verifiesPR), names, Bool.true_and,
        Bool.true_and, Bool.not_eq_false'] at head
      exact sameHead_iff.mp head
    · rintro pr diffstat reads ⟨action, isAction, is, verifies⟩
      obtain ⟨v, isV, rfl, rfl⟩ := bound.verified_mem isAction verifies
      have differ := (fine isV).2.2 is
      unfold commitsDiffer at differ
      have names : namesPullRequest x v.payload = true :=
        beq_iff_eq.mpr ((exact_diffstat is).mp (fine isV).1)
      rw [(bound.reads_iff (by decide)).mp reads, Option.any_some, Option.any_some, names,
        Bool.true_and, Bool.not_eq_false', Bool.and_eq_true] at differ
      exact sameCommits_iff.mp differ.2
    · intro jira reads
      exact (relationAmbiguities_nil ((bound.reads_iff (by decide)).mp reads)).mp clear

/-- The evidence holds the reportable payloads. -/
theorem holds_iff {stale : List Stale} {capability : String} {payload : Fields} :
    (evidencePayloads (reportable (verifiedPayloads report plan) stale)).Holds capability payload ↔
      ∃ v ∈ reportable (verifiedPayloads report plan) stale, v.action.capability = capability ∧
        v.payload = payload := by
  have known : ∀ v ∈ reportable (verifiedPayloads report plan) stale,
      v ∈ verifiedPayloads report plan := fun v isV => (mem_reportable.mp isV).1
  have pages : payload ∈ (evidencePayloads (reportable (verifiedPayloads report plan) stale)).pages ↔
      ∃ v ∈ reportable (verifiedPayloads report plan) stale, v.action.capability = pageRead ∧
        v.payload = payload := by
    unfold evidencePayloads
    rw [List.mem_map]
    constructor
    · rintro ⟨v, listed, rfl⟩
      obtain ⟨isV, isPage⟩ := List.mem_filter.mp listed
      obtain ⟨-, same, -⟩ := bound.verified_of (known v isV)
      exact ⟨v, isV, same.trans (beq_iff_eq.mp isPage), rfl⟩
    · rintro ⟨v, isV, isPage, rfl⟩
      obtain ⟨-, same, -⟩ := bound.verified_of (known v isV)
      exact ⟨v, List.mem_filter.mpr ⟨isV, beq_iff_eq.mpr (same.symm.trans isPage)⟩, rfl⟩
  unfold Evidence.Holds
  rw [pages]
  unfold evidencePayloads
  dsimp only
  constructor
  · rintro (⟨rfl, read⟩ | ⟨rfl, read⟩ | ⟨rfl, read⟩ | ⟨rfl, read⟩ | ⟨rfl, read⟩ | ⟨rfl, held⟩)
    iterate 5 exact (bound.payloadFor_iff known (by decide)).mp read
    exact held
  · rintro ⟨v, isV, rfl, rfl⟩
    have read : v.action.capability ≠ pageRead → payloadFor
        (reportable (verifiedPayloads report plan) stale) v.action.capability = some v.payload :=
      fun notPage => (bound.payloadFor_iff known notPage).mpr ⟨v, isV, rfl, rfl⟩
    rcases bound.capabilities (bound.verified_of (known v isV)).1 with is | is | is | is | is | is
    · exact .inl ⟨is, is ▸ read (by rw [is]; decide)⟩
    · exact .inr (.inl ⟨is, is ▸ read (by rw [is]; decide)⟩)
    · exact .inr (.inr (.inl ⟨is, is ▸ read (by rw [is]; decide)⟩))
    · exact .inr (.inr (.inr (.inl ⟨is, is ▸ read (by rw [is]; decide)⟩)))
    · exact .inr (.inr (.inr (.inr (.inl ⟨is, is ▸ read (by rw [is]; decide)⟩))))
    · exact .inr (.inr (.inr (.inr (.inr ⟨is, v, isV, is, rfl⟩))))

end Bound

/-! ## Honesty -/

theorem fields_of_reviewOf [Urls] {published : Publication}
    (reviewed : reviewOf report plan x = .ok published) :
    let all := verifiedPayloads report plan
    let stale := evidenceStaleness all plan x
    published.review.outcome = classifyOutcome report plan
        (relationAmbiguities (reportable all stale) x) stale ∧
      published.review.evidence = evidencePayloads (reportable all stale) ∧
      published.review.failures = failureRecords report plan stale := by
  unfold reviewOf at reviewed
  obtain ⟨cited, -, reviewed⟩ := of_bind_ok reviewed
  obtain ⟨found, -, reviewed⟩ := of_bind_ok reviewed
  obtain ⟨ids, -, reviewed⟩ := of_bind_ok reviewed
  obtain ⟨lines, -, reviewed⟩ := of_bind_ok reviewed
  obtain rfl := Except.ok.inj reviewed
  exact ⟨rfl, rfl, rfl⟩

/-- A published review is honest exactly if no marker of stale evidence stands in a message of a
report whose evidence is complete, and a build of the configured pull request comes with the pull
request. -/
theorem review_honest_iff [Urls] {settings : Settings} {root : OutputRoot}
    {published : Publication} (rendered : render report plan settings root = .ok published) :
    Honest report plan settings.toSettingsFields published ↔
      (Complete report plan settings.toSettingsFields →
        ∀ r ∈ report.actions, marked r = false) ∧
      ∀ build ∈ plan.actions, build.capability = buildStatusRead → ∀ payload,
        Verifies report build payload → Exact settings.toSettingsFields build payload →
        ∃ pr ∈ plan.actions, pr.capability = pullRequestRead ∧ ∃ pullRequest,
          Verifies report pr pullRequest ∧ Exact settings.toSettingsFields pr pullRequest := by
  obtain ⟨bound, carried, reviewed⟩ := Bound.of_render rendered
  obtain ⟨isOutcome, isEvidence, isFailures⟩ := fields_of_reviewOf reviewed
  have complete := bound.complete_iff carried
  have reported : ∀ v ∈ verifiedPayloads report plan, v.action.capability = pullRequestRead →
      Exact settings.toSettingsFields v.action v.payload →
      v ∈ reportable (verifiedPayloads report plan)
        (evidenceStaleness (verifiedPayloads report plan) plan settings.toSettingsFields) := by
    intro v isV is exact
    refine mem_reportable.mpr ⟨isV, (bound.quarantined_iff isV).mpr ⟨exact, ?_, ?_⟩⟩
    · exact fun other => absurd (is.symm.trans other) (by decide)
    · exact fun other => absurd (is.symm.trans other) (by decide)
  have slot : ∀ {capability : String} {payload : Fields}, capability ≠ pageRead →
      (payloadFor (reportable (verifiedPayloads report plan) (evidenceStaleness
        (verifiedPayloads report plan) plan settings.toSettingsFields)) capability = some payload ↔
      ∃ v ∈ reportable (verifiedPayloads report plan) (evidenceStaleness
        (verifiedPayloads report plan) plan settings.toSettingsFields),
        v.action.capability = capability ∧ v.payload = payload) := fun notPage =>
    bound.payloadFor_iff (fun v isV => (mem_reportable.mp isV).1) notPage
  constructor
  · intro honest
    refine ⟨fun isComplete r isReport => ?_, fun build isAction is payload verifies exact => ?_⟩
    · have outcome := isOutcome.symm.trans (honest.outcome.mpr isComplete)
      obtain ⟨-, fresh, -, verified⟩ := classifyOutcome_complete.mp outcome
      rw [← isStale_verified (unverified_iff.mp (verified r isReport)).1]
      exact fresh r isReport
    · obtain ⟨v, isV, rfl, rfl⟩ := bound.verified_mem isAction verifies
      by_cases held : headDiffers settings.toSettingsFields
          (payloadFor (verifiedPayloads report plan) pullRequestRead) (some v.payload) = false
      · have reportable := mem_reportable.mpr ⟨isV, (bound.quarantined_iff isV).mpr
          ⟨exact, fun _ => held, fun other => absurd (is.symm.trans other) (by decide)⟩⟩
        obtain ⟨pr, isPR, -⟩ := honest.build v.payload (by
          rw [isEvidence]
          exact (slot (by decide)).mpr ⟨v, reportable, is, rfl⟩)
        rw [isEvidence] at isPR
        obtain ⟨w, isW, isPullRequest, rfl⟩ := (slot (by decide)).mp isPR
        obtain ⟨isW, free⟩ := mem_reportable.mp isW
        obtain ⟨planned, -, verified⟩ := bound.verified_of isW
        exact ⟨w.action, planned, isPullRequest, w.payload, verified,
          ((bound.quarantined_iff isW).mp free).1⟩
      · cases read : payloadFor (verifiedPayloads report plan) pullRequestRead with
        | none =>
          rw [read] at held
          exact absurd rfl held
        | some pr =>
          obtain ⟨w, isW, isPullRequest, rfl⟩ :=
            (bound.payloadFor_iff (fun _ => id) (by decide)).mp read
          obtain ⟨planned, -, verified⟩ := bound.verified_of isW
          rw [read, Bool.not_eq_false] at held
          have both : (pullRequestMatches settings.toSettingsFields w.payload &&
            namesPullRequest settings.toSettingsFields v.payload &&
              !sameHead w.payload v.payload) = true := held
          rw [Bool.and_eq_true, Bool.and_eq_true] at both
          exact ⟨w.action, planned, isPullRequest, w.payload, verified,
            (pullRequestMatches_iff isPullRequest).mp both.1.1⟩
  · rintro ⟨unmarked, together⟩
    obtain ⟨finds, cites, listed⟩ := sources_listed reviewed
    refine ⟨?_, ?_, ?_, ?_, ?_, finds, cites, listed⟩
    · rw [isOutcome, classifyOutcome_complete]
      constructor
      · rintro ⟨none, -, clear, verified⟩
        exact complete.mpr ⟨verified, none, clear⟩
      · intro isComplete
        obtain ⟨verified, none, clear⟩ := complete.mp isComplete
        refine ⟨none, fun r isReport => ?_, clear, verified⟩
        rw [isStale_verified (unverified_iff.mp (verified r isReport)).1]
        exact unmarked isComplete r isReport
    · intro capability payload held
      rw [isEvidence] at held
      obtain ⟨v, isV, is, rfl⟩ := bound.holds_iff.mp held
      obtain ⟨isV, free⟩ := mem_reportable.mp isV
      obtain ⟨planned, -, verifies⟩ := bound.verified_of isV
      exact ⟨v.action, planned, is, verifies, ((bound.quarantined_iff isV).mp free).1⟩
    · intro build isBuild
      rw [isEvidence] at isBuild ⊢
      obtain ⟨v, isV, is, rfl⟩ := (slot (by decide)).mp isBuild
      obtain ⟨isV, free⟩ := mem_reportable.mp isV
      obtain ⟨planned, -, verifies⟩ := bound.verified_of isV
      obtain ⟨exact, head, -⟩ := (bound.quarantined_iff isV).mp free
      obtain ⟨pr, isPlanned, isPR, pullRequest, verified, exactPR⟩ :=
        together v.action planned is v.payload verifies exact
      obtain ⟨w, isW, rfl, rfl⟩ := bound.verified_mem isPlanned verified
      refine ⟨w.payload, (slot (by decide)).mpr ⟨w, reported w isW isPR exactPR, isPR, rfl⟩, ?_⟩
      have differs := head is
      rw [(bound.payloadFor_iff (fun _ => id) (by decide)).mpr ⟨w, isW, isPR, rfl⟩] at differs
      have agree : (pullRequestMatches settings.toSettingsFields w.payload &&
        namesPullRequest settings.toSettingsFields v.payload &&
          !sameHead w.payload v.payload) = false := differs
      have names : namesPullRequest settings.toSettingsFields v.payload = true :=
        beq_iff_eq.mpr ((exact_build is).mp exact)
      rw [(pullRequestMatches_iff isPR).mpr exactPR, names, Bool.true_and, Bool.true_and,
        Bool.not_eq_false'] at agree
      exact sameHead_iff.mp agree
    · intro diffstat isDiffstat
      rw [isEvidence] at isDiffstat ⊢
      obtain ⟨v, isV, is, rfl⟩ := (slot (by decide)).mp isDiffstat
      obtain ⟨isV, free⟩ := mem_reportable.mp isV
      obtain ⟨exact, -, commits⟩ := (bound.quarantined_iff isV).mp free
      have differs := commits is
      have names : namesPullRequest settings.toSettingsFields v.payload = true :=
        beq_iff_eq.mpr ((exact_diffstat is).mp exact)
      unfold commitsDiffer at differs
      rw [Option.any_some, names, Bool.true_and, Bool.not_eq_false'] at differs
      cases read : payloadFor (verifiedPayloads report plan) pullRequestRead with
      | none =>
        rw [read] at differs
        cases differs
      | some pr =>
        rw [read, Option.any_some, Bool.and_eq_true] at differs
        obtain ⟨w, isW, isPR, rfl⟩ := (bound.payloadFor_iff (fun _ => id) (by decide)).mp read
        have exactPR := (pullRequestMatches_iff isPR).mp differs.1
        exact ⟨w.payload, (slot (by decide)).mpr ⟨w, reported w isW isPR exactPR, isPR, rfl⟩,
          sameCommits_iff.mp differs.2⟩
    · intro action isAction
      rw [isEvidence, isFailures]
      rcases bound.failures_cover isAction carried with recorded | ⟨v, isV, rfl, free⟩
      · exact .inl recorded
      · obtain ⟨-, -, verifies⟩ := bound.verified_of isV
        refine .inr ⟨v.payload, verifies, ((bound.quarantined_iff isV).mp free).1, ?_⟩
        exact bound.holds_iff.mpr ⟨v, mem_reportable.mpr ⟨isV, free⟩, rfl, rfl⟩

end

/-! ## A foreign pull request -/

namespace Samples

/-- A host that splits the origin `https://h`. -/
@[reducible]
def host : Host :=
  { plainHost with urlsplit := fun _ => .ok ⟨"https", some "h", none, none, "", "", ""⟩ }

@[reducible]
def urls : Urls := ⟨fun _ => .ok none, id⟩

attribute [local instance] host urls

def zeros : String := (numeral 0).val

def settings : Settings where
  configurationSha256 := zeros
  dataClassification := .internal
  bitbucketDeployment := .cloud
  bitbucketOrigin := "https://h"
  bitbucketWorkspace := "acme"
  bitbucketProject := ""
  bitbucketRepository := "app"
  bitbucketPullRequestId := "7"
  buildStatusLimit := 50
  diffstatLimit := 50
  includeDiffstat := false
  confluenceOrigin := "https://h"
  confluenceSpaceId := "1"
  confluenceSpaceKey := "K"
  confluencePageIds := []
  valid := by decide +kernel

/-- The fields of the action with a shape. -/
def fieldsOf (position : Nat) (target : ResourceRef) (dependencies : List Uuid) (id : Uuid) :
    AgentActionFields :=
  let shape := ((workflowShape "OPS-1" settings.toSettingsFields).drop position).headD
    (readShape settings.toSettingsFields "" "" "" "" [] "" "" [])
  { capability := shape.capability
    target
    parameters := shape.parameters
    risk := shape.risk
    authoritySource := shape.authoritySource
    requiresApproval := shape.requiresApproval
    idempotencyKey := shape.idempotencyKey
    justification := shape.justification
    dataClassification := shape.dataClassification
    dependencies
    actionId := id }

def issue : ResourceRef := ⟨"jira", "issue", "OPS-1", none, by decide +kernel⟩
def repository : ResourceRef := ⟨"bitbucket", "repository", "acme/app", none, by decide +kernel⟩
def pullRequest : ResourceRef := ⟨"bitbucket", "pull_request", "7", none, by decide +kernel⟩

def jiraAction : AgentAction := ⟨fieldsOf 0 issue [] (numbered 1), by decide +kernel⟩
def repositoryAction : AgentAction :=
  ⟨fieldsOf 1 repository [numbered 1] (numbered 2), by decide +kernel⟩
def pullRequestAction : AgentAction :=
  ⟨fieldsOf 2 pullRequest [numbered 2] (numbered 3), by decide +kernel⟩
def buildAction : AgentAction :=
  ⟨fieldsOf 3 pullRequest [numbered 3] (numbered 4), by decide +kernel⟩

def connector (system deployment : String) : ConnectorExecutionBindingFields where
  system := system
  deployment := deployment
  configIdentitySha256 := zeros
  resolvedBaseUrl := "https://h"
  resolvedOrigin := "https://h"
  implementation := "native"
  authenticationMode := "token"
  credentialScopes := []
  credentialIdentity := none
  caBundlePath := none
  caBundleSha256 := none
  networkProfileName := "direct"
  networkProfileSha256 := none
  proxyOrigin := none

def bitbucket : ConnectorExecutionBinding :=
  ⟨connector "bitbucket" "cloud", by decide +kernel, by decide +kernel⟩

def jira : ConnectorExecutionBinding :=
  ⟨connector "jira" "cloud", by decide +kernel, by decide +kernel⟩

def auditParent : RuntimePathExecutionBinding :=
  ⟨⟨"audit.parent", "/audit", "/audit", 1, 2, 0, 448, none⟩, by decide +kernel⟩

def artifactRoot : RuntimePathExecutionBinding :=
  ⟨⟨"artifact.root", "/out", "/out", 1, 3, 0, 448, none⟩, by decide +kernel⟩

def runtime : RuntimeExecutionBinding where
  fields := {
    connectorMode := "live"
    includeWrites := false
    includeCommunications := false
    auditDatabase := "/audit/db"
    artifactRoot := "/out"
    workspaceRoot := none
    resultJson := none
    evidenceType := none
    configurations := []
    runtimePaths := [artifactRoot, auditParent]
    credentialFile := none
    publicationRoots := []
    schema := "master-agent/runtime-execution-binding@2" }
  normal := by decide +kernel
  valid := by decide +kernel

def context : ExecutionContext where
  fields := {
    integrationsSha256 := zeros
    connectors := [bitbucket, jira]
    plugins := []
    capsules := []
    runtime := some runtime
    schema := "master-agent/execution-context@2" }
  normal := by decide +kernel
  valid := by decide +kernel

def plan : ChangePlan where
  toChangePlanFields := { samplePlan [jiraAction, repositoryAction, pullRequestAction, buildAction] with
    workflowId := some WORKFLOW_ID
    workflowFingerprint := some WORKFLOW_FINGERPRINT
    executionContext := some context }
  valid := by decide +kernel
  trustedStrategyCoherenceAdmission := false

def identity : PlatformObjectIdentity where
  fields := {
    platform := "posix"
    kind := .directory
    device := some 1
    inode := some 3
    owner := some 0
    mode := some 448 }
  valid := by decide +kernel

/-- The descriptor of the bound artifact root. -/
def root : OutputRoot := ⟨(· == "/out"), identity, .ok ()⟩

/-- The report of a verified read. -/
def verifiedReport (action : AgentAction) (payload : Fields) : ActionReport where
  actionId := action.actionId
  capability := action.capability
  state := .verified
  message := "verified"
  result := some {
    actionId := action.actionId
    state := .succeeded
    before := none
    after := some payload
    connectorReference := none
    message := "read"
    compensation := none
    beforeDigest := resultStateDigest none
    afterDigest := resultStateDigest (some payload) }
  egress := some ⟨action.target.system, action.capability, action.effectFingerprint,
    action.dataClassification, true, zeros, "s@1"⟩

/-- An envelope of a provider. -/
def envelope (system : String) (members : Fields) : Fields :=
  [("system", .str system), ("deployment", .str "cloud"), ("schema", .str "s@1")] ++ members

/-- The report of four verified reads, with this pull request in the pull-request payload. -/
def report (pullRequestId : String) : RunReport where
  runId := numbered 9
  planId := plan.planId
  planFingerprint := plan.fingerprint
  dryRun := false
  actions := [
    verifiedReport jiraAction (envelope "jira" [("issue", .obj [("key", .str "OPS-1")])]),
    verifiedReport repositoryAction (envelope "bitbucket"
      [("repository", .obj [("slug", .str "app"), ("owner_or_project", .str "acme")])]),
    verifiedReport pullRequestAction (envelope "bitbucket"
      [("pull_request", .obj [("id", .str pullRequestId), ("source_commit", .str "c")])]),
    verifiedReport buildAction (envelope "bitbucket"
      [("pull_request_id", .str "7"), ("commit", .str "c")])]

/-- The build stands in the evidence without a pull request. -/
def buildAlone (published : Publication) : Bool :=
  published.review.evidence.buildStatus.isSome && published.review.evidence.pullRequest.isNone

/-- The build of a pull request whose own payload is foreign is published. -/
theorem foreign_pull_request :
    ∃ published, render (report "8") plan settings root = .ok published ∧
      ¬ Honest (report "8") plan settings.toSettingsFields published := by
  have published : (render (report "8") plan settings root).toOption.any buildAlone = true := by
    decide +kernel
  obtain ⟨published, rendered, alone⟩ := ok_of_any published
  obtain ⟨hasBuild, noPullRequest⟩ := Bool.and_eq_true_iff.mp alone
  obtain ⟨build, isBuild⟩ := Option.isSome_iff_exists.mp hasBuild
  refine ⟨published, rendered, fun honest => ?_⟩
  obtain ⟨pr, isPullRequest, -⟩ := honest.build build isBuild
  rw [isPullRequest] at noPullRequest
  cases noPullRequest

/-- Four reads of the configured resources are published honestly. -/
theorem configured_pull_request :
    ∃ published, render (report "7") plan settings root = .ok published ∧
      Honest (report "7") plan settings.toSettingsFields published := by
  have published : (render (report "7") plan settings root).toOption.any (fun _ => true) = true := by
    decide +kernel
  obtain ⟨published, rendered, -⟩ := ok_of_any published
  have clear : (report "7").actions.all (!marked ·) = true := by decide +kernel
  refine ⟨published, rendered, (review_honest_iff rendered).mpr ⟨fun _ r isReport => ?_, ?_⟩⟩
  · simpa using List.all_eq_true.mp clear r isReport
  · intro build _ _ payload _ _
    refine ⟨pullRequestAction, by decide +kernel, rfl, envelope "bitbucket"
      [("pull_request", .obj [("id", .str "7"), ("source_commit", .str "c")])], ?_, ?_⟩
    · exact ⟨_, .tail _ (.tail _ (.head _)), rfl, rfl, rfl⟩
    · exact (exact_pullRequest rfl).mpr ⟨_, rfl, by decide +kernel⟩

end Samples

end MasterAgent.EngineeringReview
