import Mathlib.Data.List.ReduceOption
import MasterAgent.Workflows.Render

/-!
# Listed sources

Every citation that a finding or the Markdown text of a review uses is one of the citations that the
review lists. The invariant is carried along the collection of the citations: an action is cited by
a citation of the index.

Results:

1. `verifiedCitations_indexed`: the collected citations are an index that every cited action is in;
2. `findings_listed`, `markdown_listed`: findings and text use listed citations only;
3. `sources_listed`: both, for the review of a report.
-/

namespace MasterAgent.EngineeringReview
open Base Connectors Citations

section
variable [Host]

/-! ## The index -/

omit [Host] in
/-- Every action is cited by a citation of the index. -/
structure Indexed (cited : Cited) : Prop where
  index : Index cited.byId
  listed : ∀ entry ∈ cited.byAction, entry.2 ∈ cited.byId.map Prod.fst

theorem itemStr_named {citation : Fields} {id : String} (named : namedBy citation = some id) :
    itemStr (.obj citation) "citation_id" = .ok id ∧
      citation.lookup "citation_id" = some (.str id) := by
  unfold namedBy at named
  split at named
  · next text found =>
    split at named
    · cases named
    · obtain rfl := Option.some.inj named
      refine ⟨?_, found⟩
      unfold itemStr item
      rw [show (Json.obj citation).get? "citation_id" = some (.str text) from found]
      rfl
  · cases named

theorem citationOf_named [Urls] {system resourceType resourceId title : String}
    {url version : Option String} {citations : List Fields}
    (made : citationOf system resourceType resourceId title url version = .ok citations)
    {citation : Fields} (listed : citation ∈ citations) : ∃ id, namedBy citation = some id := by
  obtain ⟨one, isMade, made⟩ := of_bind_ok made
  obtain rfl := Except.ok.inj made
  rw [List.mem_singleton.mp listed]
  exact ⟨_, named_makeResourceCitation isMade⟩

theorem candidates_named [Urls] {v : Verified} {found : List Fields}
    (brought : candidates v = .ok found) {citation : Fields} (listed : citation ∈ found) :
    ∃ id, namedBy citation = some id := by
  unfold candidates at brought
  obtain ⟨first, isFirst, brought⟩ := of_bind_ok brought
  split at brought
  · exact citationOf_named brought listed
  · obtain rfl := Except.ok.inj brought
    unfold broughtCitations at isFirst
    dsimp only at isFirst
    split at isFirst
    · exact citationOf_named isFirst listed
    · split at isFirst
      · exact citationOf_named isFirst listed
      · obtain rfl := Except.ok.inj isFirst
        exact named_citationIndex listed

theorem cite_indexed [Urls] {cited after : Cited} {v : Verified} (indexed : Indexed cited)
    (step : cite cited v = .ok after) : Indexed after := by
  unfold cite at step
  obtain ⟨found, brought, step⟩ := of_bind_ok step
  obtain ⟨index, grows, added⟩ := foldl_setDefault found indexed.index
  dsimp only at step
  split at step
  · cases step
  next selected chosen =>
  have isCandidate : selected ∈ found := by
    rcases Option.or_eq_some_iff.mp chosen with named | ⟨-, first⟩
    · exact List.mem_of_find?_eq_some named
    · exact List.mem_of_head? first
  obtain ⟨id, named⟩ := candidates_named brought isCandidate
  rw [(itemStr_named named).1] at step
  obtain rfl := Except.ok.inj step
  refine ⟨index, fun entry listed => ?_⟩
  rcases List.mem_cons.mp listed with rfl | earlier
  · exact added selected isCandidate id named
  · exact grows _ (indexed.listed entry earlier)

theorem verifiedCitations_indexed [Urls] {verified : List Verified} {cited : Cited}
    (collected : verifiedCitations verified = .ok cited) : Indexed cited := by
  have run : ∀ (verified : List Verified) (before : Cited), Indexed before →
      verified.foldlM cite before = .ok cited → Indexed cited := by
    intro verified
    induction verified with
    | nil =>
      intro before indexed done
      exact Except.ok.inj done ▸ indexed
    | cons v rest ih =>
      intro before indexed done
      rw [List.foldlM_cons] at done
      obtain ⟨after, step, done⟩ := of_bind_ok done
      exact ih after (cite_indexed indexed step) done
  exact run verified ⟨[], []⟩ ⟨fun _ none => (nomatch none), fun _ none => (nomatch none)⟩ collected

/-- The published identifiers are those of the index. -/
theorem citationIds_eq {byId : List (String × Fields)} {ids : List String} (index : Index byId)
    (read : ((byId.map Prod.snd).mapM fun citation => itemStr (.obj citation) "citation_id") =
      .ok ids) : ids = byId.map Prod.fst := by
  induction byId generalizing ids with
  | nil => exact (Except.ok.inj read).symm
  | cons entry rest ih =>
    rw [List.map_cons, List.mapM_cons] at read
    obtain ⟨id, first, read⟩ := of_bind_ok read
    obtain ⟨others, later, read⟩ := of_bind_ok read
    obtain rfl := Except.ok.inj read
    have named := (itemStr_named (index entry List.mem_cons_self)).1
    rw [Except.ok.inj (first.symm.trans named),
      ih (fun other listed => index other (List.mem_cons_of_mem _ listed)) later]
    rfl

/-! ## Uses of citations -/

omit [Host] in
/-- A citation, if there is one, is listed. -/
def Listed (ids : List String) (citation : Option String) : Prop :=
  ∀ id, citation = some id → id ∈ ids

omit [Host] in
theorem lookup_listed {cited : Cited} (indexed : Indexed cited) (id : Uuid) :
    Listed (cited.byId.map Prod.fst) (cited.byAction.lookup id) := by
  intro citation found
  have isEntry : ∀ entries : List (Uuid × String), entries.lookup id = some citation →
      ∃ key, (key, citation) ∈ entries := by
    intro entries found
    induction entries with
    | nil => cases found
    | cons entry rest ih =>
      rw [List.lookup_cons] at found
      split at found
      · exact ⟨entry.1, List.mem_cons.mpr (.inl (Option.some.inj found ▸ rfl))⟩
      · obtain ⟨key, listed⟩ := ih found
        exact ⟨key, List.mem_cons_of_mem _ listed⟩
  obtain ⟨key, listed⟩ := isEntry _ found
  exact indexed.listed _ listed

omit [Host] in
theorem citationFor_listed {cited : Cited} (indexed : Indexed cited) (verified : List Verified)
    (capability : String) : Listed (cited.byId.map Prod.fst) (citationFor cited verified capability) := by
  intro id found
  obtain ⟨v, -, cites⟩ := Option.bind_eq_some_iff.mp found
  exact lookup_listed indexed _ id cites

omit [Host] in
theorem finding_listed {ids : List String} {kind summary : String} {citations : List (Option String)}
    (listed : ∀ citation ∈ citations, Listed ids citation) :
    ∀ id ∈ (finding kind summary citations).citationIds, id ∈ ids := by
  intro id used
  unfold finding at used
  rw [List.mem_eraseDups, List.mem_filter, List.reduceOption_mem_iff] at used
  exact listed _ used.1 id rfl

omit [Host] in
theorem finding_single {ids : List String} {kind summary : String} {citation : Option String}
    (listed : Listed ids citation) : ∀ id ∈ (finding kind summary [citation]).citationIds, id ∈ ids :=
  finding_listed fun _ isOne => List.mem_singleton.mp isOne ▸ listed

omit [Host] in
/-- The findings use listed citations. -/
def Finds (ids : List String) (found : List Finding) : Prop :=
  ∀ f ∈ found, ∀ id ∈ f.citationIds, id ∈ ids

omit [Host] in
theorem finds_append {ids : List String} {first second : List Finding} (here : Finds ids first)
    (there : Finds ids second) : Finds ids (first ++ second) := fun f listed =>
  (List.mem_append.mp listed).elim (here f) (there f)

omit [Host] in
theorem finds_nil {ids : List String} : Finds ids [] := fun _ none => nomatch none

omit [Host] in
theorem finds_if {ids : List String} {c : Prop} [Decidable c] {found : List Finding}
    (here : Finds ids found) : Finds ids (if c then found else []) := by
  split
  · exact here
  · exact finds_nil

omit [Host] in
theorem finds_one {ids : List String} {kind summary : String} {citations : List (Option String)}
    (listed : ∀ citation ∈ citations, Listed ids citation) :
    Finds ids [finding kind summary citations] := fun _ isOne =>
  List.mem_singleton.mp isOne ▸ finding_listed listed

omit [Host] in
theorem listed_single {ids : List String} {citation : Option String} (listed : Listed ids citation) :
    ∀ other ∈ [citation], Listed ids other := fun _ isOne => List.mem_singleton.mp isOne ▸ listed

theorem findings_listed {ids : List String} {verified : List Verified} {x : SettingsFields}
    {ambiguities : List Ambiguity} {stale : List Stale} {cited : Cited} {found : List Finding}
    (listed : ∀ capability, Listed ids (citationFor cited verified capability))
    (made : findings verified x ambiguities stale cited = .ok found) : Finds ids found := by
  unfold findings at made
  obtain ⟨builds, isBuilds, made⟩ := of_bind_ok made
  obtain rfl := Except.ok.inj made
  have acceptance : ∀ jira, Finds ids (acceptanceFindings jira
      (citationFor cited verified jiraRead)) := by
    intro jira
    exact finds_if (finds_one (listed_single (listed _)))
  have traceability : ∀ jira pullRequest, Finds ids (traceabilityFindings jira pullRequest
      (citationFor cited verified jiraRead) (citationFor cited verified pullRequestRead)) := by
    intro jira pullRequest
    unfold traceabilityFindings
    split
    · refine finds_if (finds_one fun citation isOne => ?_)
      rcases List.mem_cons.mp isOne with rfl | isOne
      · exact listed _
      · exact listed_single (listed _) citation isOne
    · exact finds_nil
  have build : Finds ids builds := by
    unfold buildFindings at isBuilds
    split at isBuilds
    · exact Except.ok.inj isBuilds ▸ finds_nil
    · obtain ⟨failed, -, isBuilds⟩ := of_bind_ok isBuilds
      obtain ⟨other, -, isBuilds⟩ := of_bind_ok isBuilds
      obtain rfl := Except.ok.inj isBuilds
      exact finds_append (finds_if (finds_one (listed_single (listed _))))
        (finds_if (finds_one (listed_single (listed _))))
  refine finds_append (finds_append (finds_append (finds_append (finds_append (acceptance _)
    (traceability _ _)) build) (finds_if ?_)) ?_) ?_
  · intro f isOne id used
    rw [List.mem_singleton.mp isOne] at used
    cases used
  · intro f isFinding
    obtain ⟨ambiguity, -, rfl⟩ := List.mem_map.mp isFinding
    exact finding_single (listed _)
  · intro f isFinding id used
    obtain ⟨s, -, rfl⟩ := List.mem_map.mp isFinding
    exact finding_listed (fun _ empty => absurd empty List.not_mem_nil) id used

/-! ## The text -/

omit [Host] in
/-- The pieces of the lines use listed citations. -/
def Cites (ids : List String) (lines : List Line) : Prop :=
  ∀ line ∈ lines, ∀ piece ∈ line, ∀ id ∈ piece.citations, id ∈ ids

section
variable {ids : List String}

omit [Host] in
theorem cites_append {first second : List Line} (here : Cites ids first) (there : Cites ids second) :
    Cites ids (first ++ second) := fun line listed =>
  (List.mem_append.mp listed).elim (here line) (there line)

omit [Host] in
theorem cites_cons {line : Line} {rest : List Line}
    (here : ∀ piece ∈ line, ∀ id ∈ piece.citations, id ∈ ids) (there : Cites ids rest) :
    Cites ids (line :: rest) := fun other listed => by
  rcases List.mem_cons.mp listed with rfl | later
  · exact here
  · exact there other later

omit [Host] in
theorem cites_nil : Cites ids [] := fun _ none => nomatch none

omit [Host] in
theorem cites_text {s : String} : ∀ piece ∈ ([.text s] : Line), ∀ id ∈ piece.citations, id ∈ ids := by
  intro piece isOne id used
  rw [List.mem_singleton.mp isOne] at used
  cases used

omit [Host] in
theorem cites_plain {lines : List String} : Cites ids (plainLines lines) := by
  intro line listed
  obtain ⟨s, -, rfl⟩ := List.mem_map.mp listed
  exact cites_text

omit [Host] in
theorem marker_listed {citation : Option String} (listed : Listed ids citation) :
    ∀ id ∈ (Piece.marker citation).citations, id ∈ ids := by
  intro id used
  obtain ⟨isId, -⟩ := List.mem_filter.mp used
  exact listed id (Option.mem_toList.mp isId)

omit [Host] in
/-- A text followed by a marker. -/
theorem cites_marked {s : String} {piece : Piece} (listed : ∀ id ∈ piece.citations, id ∈ ids) :
    ∀ other ∈ ([.text s, piece] : Line), ∀ id ∈ other.citations, id ∈ ids := by
  intro other isOne
  rcases List.mem_cons.mp isOne with rfl | isOne
  · exact fun id none => nomatch none
  · exact List.mem_singleton.mp isOne ▸ listed

omit [Host] in
theorem markers_listed {citations : List (Option String)}
    (listed : ∀ citation ∈ citations, Listed ids citation) :
    ∀ piece ∈ markers citations, ∀ id ∈ piece.citations, id ∈ ids := by
  have each : ∀ (citations : List (Option String)),
      (∀ citation ∈ citations, Listed ids citation) →
      ∀ piece ∈ (citations.map Piece.marker).intersperse (.text " "),
        ∀ id ∈ piece.citations, id ∈ ids := by
    intro citations
    induction citations with
    | nil => exact fun _ _ none => nomatch none
    | cons first rest ih =>
      intro listed
      have here := marker_listed (listed first List.mem_cons_self)
      cases rest with
      | nil => exact fun piece isOne => List.mem_singleton.mp isOne ▸ here
      | cons second others =>
        intro piece isPiece
        rcases List.mem_cons.mp isPiece with rfl | isPiece
        · exact here
        rcases List.mem_cons.mp isPiece with rfl | isPiece
        · exact fun id none => nomatch none
        · exact ih (fun citation isCitation => listed citation (List.mem_cons_of_mem _ isCitation))
            piece isPiece
  exact each citations listed

omit [Host] in
theorem rstrip_listed {line : Line} (listed : ∀ piece ∈ line, ∀ id ∈ piece.citations, id ∈ ids) :
    ∀ piece ∈ rstrip line, ∀ id ∈ piece.citations, id ∈ ids := by
  unfold rstrip
  split
  · exact cites_text
  · exact listed

variable {marker : Piece} (listed : ∀ id ∈ marker.citations, id ∈ ids)
include listed

theorem jiraLines_listed (jira : Option Fields) : Cites ids (jiraLines jira marker) := by
  unfold jiraLines
  cases jira with
  | none => exact cites_cons cites_text cites_nil
  | some issue =>
    refine cites_append (cites_cons (cites_marked listed)
      (cites_cons (cites_marked listed) cites_nil)) ?_
    split
    · exact cites_nil
    · exact cites_cons (fun _ none => nomatch none) (cites_cons (cites_marked listed) cites_nil)

theorem acceptanceLines_listed (jira : Option Fields) :
    Cites ids (acceptanceLines jira marker) := by
  unfold acceptanceLines
  refine cites_append ?_ ?_
  · intro line isLine
    obtain ⟨item, -, rfl⟩ := List.mem_map.mp isLine
    exact cites_marked listed
  · split
    · exact cites_cons (cites_marked listed) cites_nil
    · exact cites_nil

theorem repositoryLines_listed (repository : Option Fields) :
    Cites ids (repositoryLines repository marker) := by
  unfold repositoryLines
  cases repository with
  | none => exact cites_cons cites_text cites_nil
  | some r => exact cites_cons (cites_marked listed) cites_nil

theorem pullRequestLines_listed (pullRequest : Option Fields) :
    Cites ids (pullRequestLines pullRequest marker) := by
  unfold pullRequestLines
  cases pullRequest with
  | none => exact cites_cons cites_text cites_nil
  | some pr => exact cites_cons (cites_marked listed) cites_nil

theorem buildLines_listed {build : Option Fields} {lines : List Line}
    (made : buildLines build marker = .ok lines) : Cites ids lines := by
  unfold buildLines at made
  cases build with
  | none => exact Except.ok.inj made ▸ cites_cons cites_text cites_nil
  | some payload =>
    obtain ⟨total, -, made⟩ := of_bind_ok made
    obtain ⟨successful, -, made⟩ := of_bind_ok made
    obtain ⟨failed, -, made⟩ := of_bind_ok made
    obtain ⟨inProgress, -, made⟩ := of_bind_ok made
    obtain ⟨other, -, made⟩ := of_bind_ok made
    exact Except.ok.inj made ▸ cites_cons (cites_marked listed) cites_nil

end

section
variable {cited : Cited} (indexed : Indexed cited)
include indexed

theorem pageLines_listed (verified : List Verified) :
    Cites (cited.byId.map Prod.fst) (pageLines verified cited) := by
  unfold pageLines
  refine cites_append ?_ ?_
  · intro line isLine
    obtain ⟨⟨v, page⟩, -, isLine⟩ := List.mem_flatMap.mp isLine
    have marker := marker_listed (lookup_listed indexed v.report.actionId)
    exact cites_cons (cites_marked marker) (cites_cons (cites_marked marker) cites_nil) line isLine
  · split
    · exact cites_cons cites_text cites_nil
    · exact cites_nil

theorem findingLines_listed {found : List Finding}
    (finds : Finds (cited.byId.map Prod.fst) found) (outcome : Outcome) (verified : List Verified) :
    Cites (cited.byId.map Prod.fst) (findingLines found outcome verified cited) := by
  have texted : ∀ {s : String} {line : Line},
      (∀ piece ∈ line, ∀ id ∈ piece.citations, id ∈ cited.byId.map Prod.fst) →
      ∀ piece ∈ Piece.text s :: line, ∀ id ∈ piece.citations, id ∈ cited.byId.map Prod.fst := by
    intro s line here piece isPiece
    rcases List.mem_cons.mp isPiece with rfl | isPiece
    · exact fun id none => nomatch none
    · exact here piece isPiece
  unfold findingLines
  refine cites_append ?_ ?_
  · intro line isLine
    obtain ⟨f, isFinding, rfl⟩ := List.mem_map.mp isLine
    refine rstrip_listed (texted (markers_listed fun citation isCitation id same => ?_))
    obtain ⟨used, isUsed, rfl⟩ := List.mem_map.mp isCitation
    exact Option.some.inj same ▸ finds f isFinding used isUsed
  · split
    · exact cites_nil
    · split
      · refine cites_cons (rstrip_listed (texted (markers_listed fun citation isCitation => ?_)))
          cites_nil
        obtain ⟨v, -, rfl⟩ := List.mem_map.mp isCitation
        exact lookup_listed indexed _
      · exact cites_cons cites_text cites_nil

theorem sourceLines_listed : Cites (cited.byId.map Prod.fst)
    (sourceLines (cited.byId.map Prod.snd)) := by
  unfold sourceLines
  refine cites_append ?_ ?_
  · intro line isLine
    obtain ⟨citation, isCitation, rfl⟩ := List.mem_map.mp isLine
    obtain ⟨entry, isEntry, rfl⟩ := List.mem_map.mp isCitation
    intro piece isPiece id used
    have named := (itemStr_named (indexed.index entry isEntry)).2
    have own : getStr (.obj entry.2) "citation_id" "" = entry.1 := by
      unfold getStr
      rw [show (Json.obj entry.2).get? "citation_id" = some (.str entry.1) from named]
      rfl
    unfold sourceLine at isPiece
    dsimp only at isPiece
    simp only [List.mem_cons, List.not_mem_nil, or_false] at isPiece
    rcases isPiece with rfl | rfl | rfl
    · cases used
    · rw [List.mem_singleton.mp used, own]
      exact List.mem_map_of_mem isEntry
    · cases used
  · split
    · exact cites_cons cites_text cites_nil
    · exact cites_nil

/-- The text of a review uses listed citations. -/
theorem markdown_listed {review : Review} {verified : List Verified} {lines : List Line}
    (finds : Finds (cited.byId.map Prod.fst) review.findings)
    (citations : review.citations = cited.byId.map Prod.snd)
    (made : renderMarkdown review verified cited = .ok lines) :
    Cites (cited.byId.map Prod.fst) lines := by
  have marker := fun capability => marker_listed (citationFor_listed indexed verified capability)
  unfold renderMarkdown at made
  obtain ⟨builds, isBuilds, made⟩ := of_bind_ok made
  obtain rfl := Except.ok.inj made
  have failures : Cites (cited.byId.map Prod.fst) (failureLines review.failures) := by
    unfold failureLines
    refine cites_append ?_ ?_
    · intro line isLine
      obtain ⟨f, -, rfl⟩ := List.mem_map.mp isLine
      exact cites_text
    · split
      · exact cites_cons cites_text cites_nil
      · exact cites_nil
  rw [citations]
  dsimp only
  repeat' with_reducible apply cites_append
  all_goals with_reducible first
    | exact cites_plain
    | exact jiraLines_listed (marker _) _
    | exact acceptanceLines_listed (marker _) _
    | exact repositoryLines_listed (marker _) _
    | exact pullRequestLines_listed (marker _) _
    | exact buildLines_listed (marker _) isBuilds
    | exact pageLines_listed indexed _
    | exact findingLines_listed indexed finds _ _
    | exact failures
    | exact sourceLines_listed indexed

end

/-! ## The review of a report -/

/-- Findings and text of a review use the citations that it lists. -/
theorem sources_listed [Urls] {report : RunReport} {plan : ChangePlan} {x : SettingsFields}
    {published : Publication} (reviewed : reviewOf report plan x = .ok published) :
    Finds published.review.citationIds published.review.findings ∧
      Cites published.review.citationIds published.markdown ∧
      ∀ id ∈ published.review.citationIds, ∃ citation ∈ published.review.citations,
        citation.lookup "citation_id" = some (.str id) := by
  unfold reviewOf at reviewed
  obtain ⟨cited, collected, reviewed⟩ := of_bind_ok reviewed
  obtain ⟨found, isFound, reviewed⟩ := of_bind_ok reviewed
  obtain ⟨ids, isIds, reviewed⟩ := of_bind_ok reviewed
  obtain ⟨lines, isLines, reviewed⟩ := of_bind_ok reviewed
  obtain rfl := Except.ok.inj reviewed
  have indexed := verifiedCitations_indexed collected
  have finds := findings_listed (citationFor_listed indexed _) isFound
  obtain rfl := citationIds_eq indexed.index isIds
  refine ⟨finds, markdown_listed indexed finds rfl isLines, fun id listed => ?_⟩
  obtain ⟨entry, isEntry, rfl⟩ := List.mem_map.mp listed
  exact ⟨entry.2, List.mem_map_of_mem isEntry, (itemStr_named (indexed.index entry isEntry)).2⟩

end

end MasterAgent.EngineeringReview
