import MasterAgent.Connectors.Rollback
import MasterAgent.Models.Trim

/-!
# When the prior state of a page comes back

While nobody else writes, a rollback restores the captured title and body as far as the parameters of
an action carry them: they are trimmed, and may not be blank.

Results:

1. `wp_update_alone`: an update while nobody else writes;
2. `compensate_alone`, `plan_alone`, `verifyCompensation_alone`: the rollback and its verification;
3. `rollback_exact`: the calls in one life, and exactly when the prior state comes back;
4. `blank_body_kept`: an update of an empty page cannot be rolled back.
-/

namespace MasterAgent.Confluence
open Base Client Connectors

section
variable {site : Site} {wiki : Wiki} {X : Exn → Wiki → Prop}

theorem elapses_alone {after : Wiki} (elapsed : (alone site).Elapses wiki after) : after = wiki := by
  induction elapsed with
  | refl => rfl
  | tail _ step _ => exact step.elim

theorem wp_putPage_alone {payload : Payload} {Q : Option String → Wiki → Prop}
    (applies : Applies wiki.page payload)
    (next : ∀ url, Q (some url) (wiki.record true (wiki.page.update payload))) :
    wp (alone site) (request (.putPage site.pageId payload)) Q X wiki := by
  refine wp_ask.mpr fun w elapsed r after step => ?_
  obtain rfl := elapses_alone elapsed
  obtain ⟨out, ⟨-, ⟨-, isUrl, rfl⟩ | ⟨other, -⟩⟩, rfl⟩ := step.1 ⟨rfl, .inl applies⟩
  · obtain ⟨url, rfl⟩ := Option.ne_none_iff_exists'.mp isUrl
    exact next url
  · exact absurd applies.1 other

variable [Host] [Texts]

theorem wp_readPage_alone {status : Option String} {Q : Snapshot → Wiki → Prop}
    (asked : ∀ text, status = some text → text = wiki.page.status)
    (readable : Readable site wiki.page) (next : ∀ s : Snapshot, s.Of site wiki.page → Q s wiki) :
    wp (alone site) (readPage site.deployment site.pageId "storage" status) Q X wiki := by
  unfold readPage
  refine wp_bind.mpr (wp_ask.mpr fun w elapsed r after step => ?_)
  obtain rfl := elapses_alone elapsed
  obtain ⟨⟨data, url⟩, ⟨-, -, rfl, ⟨members, rfl⟩, shows⟩, rfl⟩ := step.1 ⟨rfl, asked⟩
  obtain ⟨s, read⟩ := pageOf_readable shows readable
  have shown := next s (pageOf_of shows read)
  unfold pageOf at read
  show wp _ _ _ _ _
  cases deployed : site.deployment with
  | cloud =>
    rw [deployed] at read
    show wp _ (lift (cloudPage _ _ _)) _ _ _
    rw [show cloudPage (.obj members) "storage" url = .ok s from read]
    exact wp_lift.mpr shown
  | dataCenter =>
    rw [deployed] at read
    show wp _ (lift (dataCenterPage _ _)) _ _ _
    rw [show dataCenterPage (.obj members) url = .ok s from read]
    exact wp_lift.mpr shown

end

/-! ## Runs -/

/-- A response that shows a state. -/
def response (site : Site) (page : Page) : Json :=
  .obj [("id", .str site.pageId), ("title", .str page.title), ("status", .str page.status),
    ("version", .obj [("number", .int page.version)]),
    ("body", .obj [("storage", .obj [("value", .str page.body)])]),
    ("spaceId", .str page.spaceId), ("parentId", parentJson page.parentId),
    ("space", .obj [("id", .str page.spaceId), ("key", .str page.spaceKey)]),
    ("ancestors", .arr (page.parentId.toList.map fun parent => .obj [("id", .str parent)]))]

theorem response_shows (site : Site) (page : Page) :
    Shows site.deployment site.pageId (response site page) page := by
  refine ⟨rfl, rfl, rfl, ⟨_, rfl, rfl⟩, ⟨_, _, rfl, rfl, rfl⟩, ?_⟩
  cases site.deployment with
  | cloud => exact ⟨rfl, rfl⟩
  | dataCenter =>
    exact ⟨⟨_, rfl, rfl, rfl⟩, [], rfl, fun _ => rfl, fun _ listed => nomatch listed⟩

/-- While nobody else writes, every client comes to an end. -/
theorem runs_alone {site : Site} {A : Type} (p : ConfluenceClient A) (wiki : Wiki) :
    ∃ out after, (alone site).Runs p wiki out after := by
  induction p generalizing wiki with
  | ret out => exact ⟨out, wiki, .ret out wiki⟩
  | call c next ih =>
    have served : ∃ r left, (alone site).serve c wiki r left := by
      by_cases servable : Servable site wiki c
      · have answered : ∃ out left, Serves site wiki c out left := by
          cases c with
          | getPage pageId representation status =>
            exact ⟨(response site wiki.page, ""), wiki, servable.1, servable.2, rfl, ⟨_, rfl⟩,
              response_shows site wiki.page⟩
          | putPage pageId payload =>
            rcases servable.2 with applies | other
            · exact ⟨some "", _, servable.1, .inl ⟨applies, Option.some_ne_none _, rfl⟩⟩
            · exact ⟨none, wiki, servable.1, .inr ⟨other, rfl, rfl⟩⟩
        obtain ⟨out, left, serves⟩ := answered
        exact ⟨.ok out, left, fun _ => ⟨out, serves, rfl⟩, fun other => absurd servable other⟩
      · exact ⟨.error (connectorError "refused"), wiki, fun other => absurd other servable,
          fun _ => ⟨rfl, _, rfl⟩⟩
    obtain ⟨r, left, step⟩ := served
    obtain ⟨out, after, run⟩ := ih r left
    exact ⟨out, after, .call .refl step run⟩

/-- A run while nobody else writes is a run. -/
theorem hosting_of_alone {site : Site} {A : Type} {p : ConfluenceClient A} {wiki after : Wiki}
    {out : Except Exn A} (run : (alone site).Runs p wiki out after) :
    (hosting site).Runs p wiki out after := by
  induction run with
  | ret out wiki => exact .ret out wiki
  | @call c next w w₁ w₂ w' r out elapsed step _ ih =>
    obtain rfl := elapses_alone elapsed
    refine .call .refl ?_ ih
    by_cases servable : Servable site w₁ c
    · obtain ⟨answer, serves, rfl⟩ := step.1 servable
      exact .inr ⟨answer, serves, .inl rfl⟩
    · obtain ⟨rfl, e, rfl⟩ := step.2 servable
      exact .inl ⟨rfl, e, rfl⟩

/-! ## An update while nobody else writes -/

section
variable {site : Site} {page : Page} {s : Snapshot} {context : String}

theorem Snapshot.Of.readStatus (of : s.Of site page) :
    requiredTextOf (.obj s.fields) "status" context = .ok page.status := by
  have shown : (Json.obj s.fields).get? "status" = some (.str page.status) :=
    congrArg (fun text => some (Json.str text)) of.status
  exact (requiredTextOf_iff shown).mpr ⟨rfl, of.status_trimmed⟩

theorem Snapshot.Of.readId (of : s.Of site page) :
    requiredIdentity (.obj s.fields) "id" context = .ok (strip site.pageId) := by
  have shown : (Json.obj s.fields).get? "id" = some (.str (strip site.pageId)) :=
    congrArg (fun text => some (Json.str text)) of.id
  refine (requiredIdentity_iff shown).mpr ?_
  rw [strip_strip]
  exact ⟨rfl, of.id_nonempty⟩

theorem Snapshot.Of.readVersion (of : s.Of site page) :
    providerVersion (s.fields.lookup "version") = .ok (page.version : Int) := by
  have shown : s.fields.lookup "version" = some (.int page.version) :=
    congrArg (fun version => some (Json.int version)) of.version
  rw [shown]
  exact providerVersion_iff.mpr ⟨rfl, of.version_pos⟩

theorem Snapshot.Of.readTitle (of : s.Of site page) (trimmed : Trimmed page.title) :
    requiredTextOf (.obj s.fields) "title" context = .ok page.title := by
  have shown : (Json.obj s.fields).get? "title" = some (.str page.title) :=
    congrArg (fun text => some (Json.str text)) of.title
  exact (requiredTextOf_iff shown).mpr ⟨rfl, trimmed⟩

theorem Snapshot.Of.readRepresentation (of : s.Of site page) :
    requiredTextOf (.obj s.fields) "representation" context = .ok "storage" := by
  have shown : (Json.obj s.fields).get? "representation" = some (.str "storage") :=
    congrArg (fun text => some (Json.str text)) of.representation
  exact (requiredTextOf_iff shown).mpr ⟨rfl, by decide, rfl⟩

theorem Snapshot.Of.readSpaceId (of : s.Of site page) :
    requiredIdentity (.obj s.fields) "space_id" context = .ok (strip page.spaceId) := by
  have shown : (Json.obj s.fields).get? "space_id" = some (.str (strip page.spaceId)) :=
    congrArg (fun text => some (Json.str text)) of.spaceId
  refine (requiredIdentity_iff shown).mpr ?_
  rw [strip_strip]
  exact ⟨rfl, of.spaceId_nonempty⟩

theorem Snapshot.Of.readParentId (of : s.Of site page) :
    optionalIdentity (.obj s.fields) "parent_id" context = .ok (page.parentId.map strip) := by
  have shown : (Json.obj s.fields).get? "parent_id" = some (parentJson (page.parentId.map strip)) := by
    show some (optStr s.parentId) = _
    rw [of.parentId]
    cases page.parentId <;> rfl
  refine (optionalIdentity_iff shown).mpr ⟨?_, ?_⟩
  · cases page.parentId with
    | none => rfl
    | some parent => exact congrArg some (strip_strip parent).symm
  · intro parent listed
    obtain ⟨original, isParent, rfl⟩ := Option.mem_map.mp listed
    rw [strip_strip]
    exact of.parentId_nonempty original isParent

theorem Snapshot.Of.readSpaceKey (of : s.Of site page) (deployed : site.deployment = .dataCenter) :
    requiredTextOf (.obj s.fields) "space_key" context = .ok page.spaceKey := by
  have shown : (Json.obj s.fields).get? "space_key" = some (.str page.spaceKey) := by
    show some (optStr s.spaceKey) = _
    rw [of.spaceKey, deployed]
    rfl
  exact (requiredTextOf_iff shown).mpr ⟨rfl, of.spaceKey_trimmed deployed⟩

end

/-- An update that its parameters and version allow. -/
structure Asks [Host] [Texts] (site : Site) (page : Page) (action : AgentAction)
    (title body status : String) : Prop where
  pageId : action.target.resourceId = site.pageId
  pageId_trimmed : strip site.pageId = site.pageId
  isTitle : requiredText action.parameters "title" = .ok title
  isBody : requiredText action.parameters "body" = .ok body
  isStorage : representationFor action.parameters site.deployment = .ok "storage"
  version : action.target.expectedVersion = some (toString page.version)
  isStatus : approvedStatus action.parameters page.status = .ok status
  status_trimmed : Trimmed status
  spaceKey : ∀ before : Snapshot, before.Of site page →
    updatedSpaceKey site.deployment action.parameters before.fields =
      .ok (if site.deployment = .cloud then none else some page.spaceKey)

section
variable [Host] [Texts] {site : Site} {wiki : Wiki} {action : AgentAction}
  {title body status : String}

omit [Texts] in
/-- A state that agrees with the approved one matches it. -/
theorem approvedPoststate_matches {page : Page} {observed : Snapshot} (of : observed.Of site page)
    (title : requiredText action.parameters "title" = .ok page.title)
    (body : requiredText action.parameters "body" = .ok page.body)
    (representation : representationFor action.parameters site.deployment = .ok "storage") :
    ∃ expected, approvedPoststate action site.deployment ⟨strip site.pageId, page.version,
        page.status, strip page.spaceId,
        if site.deployment = .cloud then none else some page.spaceKey, page.parentId.map strip⟩ =
          .ok expected ∧ poststateMatches observed.fields expected = true := by
  have member : ∀ (key : String) (shown actual : Json), observed.fields.lookup key = some shown →
      shown = actual → (observed.fields.lookup key == some actual) = true := by
    rintro key shown actual here rfl
    exact beq_iff_eq.mpr here
  unfold approvedPoststate
  rw [title, body, representation]
  have id := member "id" _ (.str (strip site.pageId)) rfl (congrArg Json.str of.id)
  have isTitle := member "title" _ (.str page.title) rfl (congrArg Json.str of.title)
  have isBody := member "body" _ (.str page.body) rfl (congrArg Json.str of.body)
  have isStorage := member "representation" _ (.str "storage") rfl
    (congrArg Json.str of.representation)
  have version := member "version" _ (.int page.version) rfl (congrArg Json.int of.version)
  have isStatus := member "status" _ (.str page.status) rfl (congrArg Json.str of.status)
  have spaceId := member "space_id" _ (.str (strip page.spaceId)) rfl (congrArg Json.str of.spaceId)
  have parentId := member "parent_id" _ (optStr (page.parentId.map strip)) rfl
    (congrArg optStr of.parentId)
  cases deployed : site.deployment with
  | cloud =>
    refine ⟨_, rfl, ?_⟩
    simp only [poststateMatches, List.all_cons, List.all_nil, id, isTitle, isBody, isStorage,
      version, isStatus, spaceId, parentId, Bool.and_self]
  | dataCenter =>
    have spaceKey := member "space_key" _ (.str page.spaceKey) rfl (by
      rw [of.spaceKey, deployed]
      rfl)
    refine ⟨_, rfl, ?_⟩
    simp only [poststateMatches, List.cons_append, List.nil_append, List.all_cons, List.all_nil, id,
      isTitle, isBody, isStorage, version, isStatus, spaceId, parentId, spaceKey, Bool.and_self]

omit [Host] [Texts] in
theorem Readable.update {page : Page} {payload : Payload} (readable : Readable site page)
    (status : Trimmed payload.status) : Readable site (page.update payload) :=
  ⟨readable.id, status, Nat.le_succ_of_le readable.version, readable.spaceId, readable.spaceKey,
    readable.parentId⟩

/-- The payload of an update. -/
def payloadOf (site : Site) (page : Page) (action : AgentAction) (title body status : String) :
    Payload :=
  ⟨status, title, if site.deployment = .cloud then none else some page.spaceKey, "storage", body,
    page.version + 1, strip (getStr (.obj action.parameters) "version_message" "")⟩

/-- An update that is allowed is made, and returned with the states that were read. -/
theorem wp_update_alone {compensating : Bool} {X : Exn → Wiki → Prop}
    (asks : Asks site wiki.page action title body status) (readable : Readable site wiki.page) :
    wp (alone site) (update site.deployment action compensating)
      (fun result w => w = wiki.record true
          (wiki.page.update (payloadOf site wiki.page action title body status)) ∧
        ∃ before after : Snapshot, before.Of site wiki.page ∧ after.Of site w.page ∧
          result.before = some before.fields ∧ result.after = some after.fields) X wiki := by
  let left := wiki.page.update (payloadOf site wiki.page action title body status)
  unfold update
  refine wp_bind.mpr (wp_lift.mpr ?_)
  rw [asks.isTitle]
  refine wp_bind.mpr (wp_lift.mpr ?_)
  rw [asks.isBody]
  refine wp_bind.mpr (wp_lift.mpr ?_)
  rw [asks.isStorage]
  refine wp_bind.mpr (wp_lift.mpr ?_)
  rw [expectedUpdatedVersion_of readable.version asks.version]
  rw [asks.pageId]
  refine wp_bind.mpr (wp_readPage_alone (fun _ none => nomatch none) readable fun before of => ?_)
  refine wp_bind.mpr (wp_ensure (fun _ => ?_) fun other => ?_)
  swap
  · rw [of.id, asks.pageId_trimmed, beq_self_eq_true] at other
    cases other
  have checked : enforceExpectedVersion action (.int before.version) = .ok () := by
    unfold enforceExpectedVersion
    rw [asks.version, of.version]
    have same : pyStr (.int wiki.page.version) = toString wiki.page.version := rfl
    refine if_neg ?_
    rw [same, bne_self_eq_false]
    exact Bool.false_ne_true
  refine wp_bind.mpr (wp_lift.mpr ?_)
  rw [checked]
  refine wp_bind.mpr (wp_lift.mpr ?_)
  rw [of.readStatus]
  show Ends _ _ (approvedStatus action.parameters wiki.page.status) wiki
  rw [asks.isStatus]
  refine wp_bind.mpr (wp_lift.mpr ?_)
  rw [of.readSpaceId]
  refine wp_bind.mpr (wp_lift.mpr ?_)
  rw [of.readParentId]
  refine wp_bind.mpr (wp_lift.mpr ?_)
  rw [asks.spaceKey before of]
  refine wp_bind.mpr (@wp_putPage_alone site wiki X
    (payloadOf site wiki.page action title body status) _ ⟨rfl, rfl⟩ fun url => ?_)
  have readableLeft : Readable site left := readable.update asks.status_trimmed
  refine wp_bind.mpr (wp_readPage_alone (fun _ same => (Option.some.inj same).symm) readableLeft
    fun observed ofLeft => ?_)
  obtain ⟨expected, isApproved, isMatch⟩ :=
    approvedPoststate_matches ofLeft asks.isTitle asks.isBody asks.isStorage
  rw [asks.pageId_trimmed] at isApproved
  refine wp_bind.mpr (wp_lift.mpr ?_)
  rw [show approvedPoststate action site.deployment ⟨site.pageId, wiki.page.version + 1, status,
    strip wiki.page.spaceId, if site.deployment = .cloud then none else some wiki.page.spaceKey,
    wiki.page.parentId.map strip⟩ = .ok expected from isApproved]
  refine wp_bind.mpr (wp_ensure (fun _ => ?_) fun differs => ?_)
  · exact wp_pure.mpr ⟨rfl, before, observed, of, ofLeft, rfl, rfl⟩
  · exact absurd (isMatch.symm.trans differs) Bool.noConfusion

end

/-! ## What a rollback carries -/

/-- The captured state, as the parameters of a rollback. -/
structure Carries [Host] (site : Site) (page : Page) (parameters : Fields) : Prop where
  title : getStr (.obj parameters) "title" "" = page.title
  body : getStr (.obj parameters) "body" "" = page.body
  representation : getStr (.obj parameters) "representation" "storage" = "storage"
  status : present (.obj parameters) "status" = some (.str page.status)
  spaceKey : present (.obj parameters) "space_key" =
    if site.deployment = .cloud then none else some (.str page.spaceKey)

/-- The members of a captured state that a rollback uses. -/
def captured (site : Site) (page : Page) : Fields :=
  [("title", .str page.title), ("body", .str page.body), ("representation", .str "storage"),
    ("space_key", if site.deployment = .cloud then .null else .str page.spaceKey),
    ("status", .str page.status)]

section
variable [Host] {site : Site} {found : Page} {before : Snapshot}

omit [Host] in
theorem replacement_captured {action : AgentAction} {version : Int} (of : before.Of site found) :
    replacement action site.pageId version before.fields =
      replacement action site.pageId version (captured site found) := by
  have same : replacementParameters before.fields = replacementParameters (captured site found) := by
    show [("title", Json.str before.title), ("body", .str before.body),
      ("representation", .str before.representation), ("space_key", optStr before.spaceKey),
      ("status", orElse (.str before.status) (.str "current")), _] = _
    rw [of.title, of.body, of.representation, of.spaceKey, of.status]
    cases deployed : site.deployment
    · simp [replacementParameters, captured, deployed, getValue, Json.get?, List.lookup_cons, optStr]
    · simp [replacementParameters, captured, deployed, getValue, Json.get?, List.lookup_cons, optStr]
  unfold replacement
  rw [same]

theorem carries_replacement (readable : Readable site found) :
    Carries site found (replacementParameters (captured site found)) := by
  have status : orElse (.str found.status) (.str "current") = .str found.status :=
    orElse_str readable.status.1
  refine ⟨rfl, rfl, rfl, ?_, ?_⟩
  · show Option.filter _ (some (orElse (.str found.status) (.str "current"))) = _
    rw [status]
    rfl
  · show Option.filter _ (some (if site.deployment = .cloud then Json.null else _)) = _
    cases site.deployment <;> rfl

theorem carries_plan (of : before.Of site found) :
    Carries site found (compensationParameters before) := by
  have status : before.status.isEmpty = false := by
    rw [of.status]
    exact of.status_trimmed.1
  unfold compensationParameters
  rw [status, of.title, of.body, of.representation, of.status, of.spaceKey]
  cases deployed : site.deployment with
  | cloud => exact ⟨rfl, rfl, rfl, rfl, (if_pos deployed).symm⟩
  | dataCenter =>
    have notCloud : site.deployment ≠ .cloud := by
      rw [deployed]
      exact DeploymentType.noConfusion
    have key : (!found.spaceKey.isEmpty) = true := by
      rw [(of.spaceKey_trimmed deployed).1]
      rfl
    rw [if_neg (by decide : DeploymentType.dataCenter ≠ .cloud), Option.filter_some, if_pos key]
    exact ⟨rfl, rfl, rfl, rfl, (if_neg notCloud).symm⟩

end

section
variable [Host] [Texts] {site : Site} {found left : Page} {action : AgentAction}

omit [Texts] in
theorem requiredText_of {parameters : Fields} {key text : String}
    (shown : getStr (.obj parameters) key "" = text) :
    requiredText parameters key = if (strip text).isEmpty then
      .error (connectorError ("missing required parameter: " ++ key)) else .ok (strip text) := by
  unfold requiredText
  rw [shown]

/-- A rollback whose title and body are not blank is an update that is allowed. -/
theorem asks_of_carries {payload : Payload} (carries : Carries site found action.parameters)
    (readable : Readable site found) (isLeft : left = found.update payload)
    (pageId : action.target.resourceId = site.pageId) (trimmed : strip site.pageId = site.pageId)
    (version : action.target.expectedVersion = some (toString left.version))
    (upper : site.deployment = .dataCenter → Texts.upper found.spaceKey = found.spaceKey)
    (title : (strip found.title).isEmpty = false) (body : (strip found.body).isEmpty = false) :
    Asks site left action (strip found.title) (strip found.body) found.status := by
  subst isLeft
  refine ⟨pageId, trimmed, ?_, ?_, ?_, version, ?_, readable.status, ?_⟩
  · rw [requiredText_of carries.title, title]
    rfl
  · rw [requiredText_of carries.body, body]
    rfl
  · unfold representationFor
    rw [carries.representation]
    cases site.deployment <;> rfl
  · unfold approvedStatus optionalText
    rw [carries.status]
    dsimp only
    rw [readable.status.2, readable.status.1]
    rfl
  · intro before of
    unfold updatedSpaceKey
    cases deployed : site.deployment with
    | cloud =>
      unfold optionalText
      rw [carries.spaceKey, deployed]
      rfl
    | dataCenter =>
      have trimmedKey := readable.spaceKey deployed
      dsimp only
      rw [of.readSpaceKey deployed]
      unfold optionalText
      rw [carries.spaceKey, deployed, if_neg (by decide : DeploymentType.dataCenter ≠ .cloud)]
      dsimp only
      rw [trimmedKey.2, trimmedKey.1]
      show (if (Texts.upper found.spaceKey != found.spaceKey) = true then _ else
        Except.ok (some (Texts.upper found.spaceKey))) = _
      rw [upper deployed, bne_self_eq_false]
      rfl

/-- The state that a rollback of `found` leaves. -/
def Page.restored (found : Page) : Page :=
  { found with
    title := strip found.title
    body := strip found.body
    version := found.version + 2 }

/-- A rollback whose title or body is blank raises, and every other one restores the trimmed state. -/
theorem wp_update_carried {wiki : Wiki} {payload : Payload} {compensating : Bool}
    (carries : Carries site found action.parameters) (readable : Readable site found)
    (here : wiki.page = found.update payload) (readableHere : Readable site wiki.page)
    (pageId : action.target.resourceId = site.pageId) (trimmed : strip site.pageId = site.pageId)
    (version : action.target.expectedVersion = some (toString wiki.page.version))
    (upper : site.deployment = .dataCenter → Texts.upper found.spaceKey = found.spaceKey) :
    wp (alone site) (update site.deployment action compensating)
      (fun result w => ((strip found.title).isEmpty = false ∧ (strip found.body).isEmpty = false) ∧
        w.page = found.restored ∧
        ∃ after : Snapshot, after.Of site w.page ∧ result.after = some after.fields)
      (fun _ _ => ¬((strip found.title).isEmpty = false ∧ (strip found.body).isEmpty = false))
      wiki := by
  cases title : (strip found.title).isEmpty with
  | true =>
    unfold update
    refine wp_bind.mpr (wp_lift.mpr ?_)
    rw [requiredText_of carries.title, title]
    exact fun both => Bool.noConfusion both.1
  | false =>
  cases body : (strip found.body).isEmpty with
  | true =>
    unfold update
    refine wp_bind.mpr (wp_lift.mpr ?_)
    rw [requiredText_of carries.title, title]
    refine wp_bind.mpr (wp_lift.mpr ?_)
    rw [requiredText_of carries.body, body]
    exact fun both => Bool.noConfusion both.2
  | false =>
    have asks := asks_of_carries carries readable here pageId trimmed version upper title body
    refine wp_mono (wp_update_alone asks readableHere) ?_ fun _ _ other => other
    rintro result w ⟨rfl, before, after, -, ofLeft, -, isAfter⟩
    refine ⟨⟨rfl, rfl⟩, ?_, after, ofLeft, isAfter⟩
    show wiki.page.update _ = _
    rw [here]
    rfl

end

/-! ## The calls while nobody else writes -/

section
variable [Host] [Texts] {connector : ConfluenceWriteConnector} {wiki : Wiki} {pageId : String}
  {action : AgentAction} {result : ExecutionResult} {up : Change}

/-- The rollback of a state is an action, and its title and body are not blank. -/
def Feasible (site : Site) (action : AgentAction) (found : Page) : Prop :=
  (∃ restore, replacement action site.pageId (found.version + 1 : Nat) (captured site found) =
      .ok restore) ∧
    (strip found.title).isEmpty = false ∧ (strip found.body).isEmpty = false

omit [Host] [Texts] in
theorem pageMatches_self {site : Site} {page : Page} {first second : Snapshot}
    (of : first.Of site page) (of' : second.Of site page) :
    pageMatches first.fields second.fields = true := by
  have member : ∀ (key : String) (shown actual : Json), first.fields.lookup key = some shown →
      shown = actual → (first.fields.lookup key == some actual) = true := by
    rintro key shown actual here rfl
    exact beq_iff_eq.mpr here
  have id := member "id" _ (.str second.id) rfl (congrArg Json.str (of.id.trans of'.id.symm))
  have title := member "title" _ (.str second.title) rfl
    (congrArg Json.str (of.title.trans of'.title.symm))
  have body := member "body" _ (.str second.body) rfl
    (congrArg Json.str (of.body.trans of'.body.symm))
  have representation := member "representation" _ (.str second.representation) rfl
    (congrArg Json.str (of.representation.trans of'.representation.symm))
  have version := member "version" _ (.int second.version) rfl
    (congrArg Json.int (of.version.trans of'.version.symm))
  have status := member "status" _ (.str second.status) rfl
    (congrArg Json.str (of.status.trans of'.status.symm))
  have spaceId := member "space_id" _ (.str second.spaceId) rfl
    (congrArg Json.str (of.spaceId.trans of'.spaceId.symm))
  have spaceKey := member "space_key" _ (optStr second.spaceKey) rfl
    (congrArg optStr (of.spaceKey.trans of'.spaceKey.symm))
  have parentId := member "parent_id" _ (optStr second.parentId) rfl
    (congrArg optStr (of.parentId.trans of'.parentId.symm))
  show ((first.fields.lookup "id" == some (.str second.id)) &&
    ((first.fields.lookup "title" == some (.str second.title)) &&
    ((first.fields.lookup "body" == some (.str second.body)) &&
    ((first.fields.lookup "representation" == some (.str second.representation)) &&
    ((first.fields.lookup "version" == some (.int second.version)) &&
    ((first.fields.lookup "status" == some (.str second.status)) &&
    ((first.fields.lookup "space_id" == some (.str second.spaceId)) &&
    ((first.fields.lookup "space_key" == some (optStr second.spaceKey)) &&
    ((first.fields.lookup "parent_id" == some (optStr second.parentId)) && true))))))))) = true
  rw [id, title, body, representation, version, status, spaceId, spaceKey, parentId]
  rfl

/-- A rollback that is not feasible raises, and every other one restores the trimmed state. -/
theorem compensate_alone (capability : action.capability = "confluence.page.update")
    (updates : Updates (connector.site pageId) action result up) (here : wiki.page = up.left) :
    wp (alone (connector.site pageId)) (compensate connector action result)
      (fun compensation w => Feasible (connector.site pageId) action up.found ∧
        w.page = up.found.restored ∧ ∃ after : Snapshot,
          after.Of (connector.site pageId) w.page ∧ compensation.after = some after.fields)
      (fun _ _ => ¬Feasible (connector.site pageId) action up.found) wiki := by
  obtain ⟨before, after, ofFound, ofLeft, isBefore, isAfter, -⟩ := updates.recorded
  obtain ⟨payload, left⟩ := updates.update
  have leftVersion : up.left.version = up.found.version + 1 := updates.approved.next
  unfold compensate
  rw [if_neg (by rw [capability]; decide), isBefore, isAfter]
  have isStatus : requiredTextOf (.obj ((some after.fields).getD [])) "status" "normalized page" =
      .ok up.left.status := ofLeft.readStatus
  have isId : getStr (.obj ((some after.fields).getD [])) "id" action.target.resourceId =
      pageId := ofLeft.id.trans updates.pageId_trimmed
  have isStorage : getStr (.obj ((some after.fields).getD [])) "representation" "storage" =
      "storage" := ofLeft.representation
  refine wp_bind.mpr (wp_lift.mpr ?_)
  rw [isStatus, isId, isStorage]
  rw [← here] at ofLeft
  refine wp_bind.mpr (@wp_readPage_alone (connector.site pageId) wiki _ _ _ _ _
    (fun _ same => (Option.some.inj same).symm.trans (congrArg Page.status here.symm))
    ofLeft.readable fun current of => ?_)
  refine wp_bind.mpr (wp_ensure (fun _ => ?_) fun differs => ?_)
  swap
  · exact absurd ((pageMatches_self of ofLeft).symm.trans differs) Bool.noConfusion
  have isVersion : current.version = (up.found.version + 1 : Nat) := by
    rw [of.version, here, leftVersion]
  have isReplacement := @replacement_captured _ up.found before action current.version ofFound
  refine wp_bind.mpr (wp_lift.mpr ?_)
  rw [show replacement action pageId current.version before.fields = _ from isReplacement, isVersion]
  cases built : replacement action (connector.site pageId).pageId (up.found.version + 1 : Nat)
      (captured (connector.site pageId) up.found) with
  | error e =>
    rintro ⟨⟨restore, other⟩, -⟩
    cases built.symm.trans other
  | ok restore =>
    have restoring := replacement_ok built
    have carries : Carries (connector.site pageId) up.found restore.parameters := by
      rw [restoring.parameters]
      exact carries_replacement ofFound.readable
    have version : restore.target.expectedVersion = some (toString wiki.page.version) := by
      rw [restoring.version, here, leftVersion]
      rfl
    refine wp_mono (@wp_update_carried _ _ (connector.site pageId) _ _ _ _ _ carries ofFound.readable
      (here.trans left) ofLeft.readable restoring.pageId updates.pageId_trimmed version
      updates.spaceKey) ?_ fun _ _ blank feasible => blank feasible.2
    rintro compensation w ⟨filled, restored, recorded⟩
    exact ⟨⟨⟨restore, built⟩, filled⟩, restored, recorded⟩

/-- The action that a plan makes of the descriptor. -/
structure Plans (result : ExecutionResult) (plan : AgentAction) : Prop where
  system : plan.target.system = "confluence"
  risk : plan.risk = .reversibleWrite
  descriptor : ∃ descriptor, result.compensation = some descriptor ∧
    descriptor.capability = some plan.capability ∧
    descriptor.targetResourceId = some plan.target.resourceId ∧
    descriptor.expectedVersion = plan.target.expectedVersion ∧
    descriptor.parameters = plan.parameters

/-- The planned rollback restores the trimmed state, unless its title or body is blank. -/
theorem plan_alone {plan : AgentAction} (plans : Plans result plan)
    (updates : Updates (connector.site pageId) action result up) (here : wiki.page = up.left) :
    wp (alone (connector.site pageId)) (execute connector plan)
      (fun compensation w => ((strip up.found.title).isEmpty = false ∧
          (strip up.found.body).isEmpty = false) ∧ w.page = up.found.restored ∧
        ∃ after : Snapshot, after.Of (connector.site pageId) w.page ∧
          compensation.after = some after.fields)
      (fun _ _ => ¬((strip up.found.title).isEmpty = false ∧
        (strip up.found.body).isEmpty = false)) wiki := by
  obtain ⟨before, after, ofFound, ofLeft, -, -, described⟩ := updates.recorded
  obtain ⟨payload, left⟩ := updates.update
  obtain ⟨descriptor, same, capability, resource, version, parameters⟩ := plans.descriptor
  obtain rfl := Option.some.inj (described.symm.trans same)
  have isCapability : plan.capability = "confluence.page.compensate" :=
    (Option.some.inj capability).symm
  have valid : validateAction connector plan = .ok () := by
    unfold validateAction
    rw [plans.system, isCapability, plans.risk, if_neg (by decide), if_neg (by decide),
      if_neg (by decide), if_neg]
    exact fun both => absurd both.1 (by decide)
  unfold execute
  refine wp_bind.mpr (wp_lift.mpr ?_)
  rw [valid]
  rw [if_neg (by rw [isCapability]; decide), if_pos isCapability]
  have carries : Carries (connector.site pageId) up.found plan.parameters := by
    rw [← parameters]
    exact carries_plan ofFound
  have isVersion : plan.target.expectedVersion = some (toString wiki.page.version) := by
    rw [← version, here]
    show some (toString after.version) = _
    rw [ofLeft.version]
    rfl
  rw [← here] at ofLeft
  exact @wp_update_carried _ _ (connector.site pageId) _ _ _ _ _ carries ofFound.readable
    (here.trans left) ofLeft.readable (Option.some.inj resource).symm updates.pageId_trimmed
    isVersion updates.spaceKey

omit [Host] [Texts] in
/-- The captured state is what a rollback that restored it has left. -/
theorem capturedRestorePoststate_of {site : Site} {original compensation : ExecutionResult}
    {found left page : Page} {before after restored : Snapshot} (ofFound : before.Of site found)
    (ofLeft : after.Of site left) (of : restored.Of site page)
    (isBefore : original.before = some before.fields) (isAfter : original.after = some after.fields)
    (recorded : compensation.after = some restored.fields) (title : Trimmed found.title)
    (isLeft : left.version = found.version + 1)
    (here : page = { found with version := found.version + 2 }) :
    capturedRestorePoststate original compensation site.deployment =
      .ok [("id", .str restored.id), ("title", .str restored.title), ("body", .str restored.body),
        ("representation", .str restored.representation), ("version", .int restored.version),
        ("status", .str restored.status), ("space_id", .str restored.spaceId),
        ("space_key", optStr restored.spaceKey), ("parent_id", optStr restored.parentId)] := by
  have versions : ((left.version : Int) + 1) = page.version := by
    rw [here, isLeft]
    rfl
  unfold capturedRestorePoststate
  rw [isBefore, isAfter, recorded]
  dsimp only
  rw [ofLeft.readId, of.readId, ofLeft.readVersion, of.readVersion, ofFound.readTitle title,
    ofFound.readRepresentation, ofFound.readStatus, ofFound.readSpaceId, ofFound.readParentId]
  show (if (strip site.pageId != strip site.pageId) = true then _ else
    if ((page.version : Int) != (left.version : Int) + 1) = true then _ else _) = _
  rw [bne_self_eq_false, if_neg Bool.false_ne_true, versions, bne_self_eq_false,
    if_neg Bool.false_ne_true, of.id, of.title, of.body, of.representation, of.version, of.status,
    of.spaceId, of.spaceKey, of.parentId]
  subst here
  have isBody : before.fields.lookup "body" = some (.str found.body) :=
    congrArg (fun text => some (Json.str text)) ofFound.body
  rw [isBody]
  cases deployed : site.deployment with
  | cloud => rfl
  | dataCenter =>
    rw [ofFound.readSpaceKey deployed]
    rfl

/-- A rollback that restored the prior state is verified. -/
theorem verifyCompensation_alone {compensation : ExecutionResult} {restored : Snapshot}
    (capability : action.capability = "confluence.page.update")
    (updates : Updates (connector.site pageId) action result up)
    (title : Trimmed up.found.title)
    (here : wiki.page = { up.found with version := up.found.version + 2 })
    (of : restored.Of (connector.site pageId) wiki.page)
    (recorded : compensation.after = some restored.fields) {X : Exn → Wiki → Prop} :
    wp (alone (connector.site pageId)) (verifyCompensation connector action result compensation)
      (fun verification _ => verification.verified = true) X wiki := by
  obtain ⟨before, after, ofFound, ofLeft, isBefore, isAfter, -⟩ := updates.recorded
  have expected := capturedRestorePoststate_of ofFound ofLeft of isBefore isAfter recorded title
    updates.approved.next here
  have given : ¬(action.capability = "confluence.space.create" ∨ result.before = none) := by
    rw [capability, isBefore]
    rintro (other | other)
    · exact absurd other (by decide)
    · cases other
  unfold verifyCompensation
  rw [if_neg given]
  unfold orUnverified
  refine wp_bind.mpr (wp_tryCatch.mpr (wp_bind.mpr (wp_lift.mpr ?_)))
  rw [show capturedRestorePoststate result compensation connector.deployment = _ from expected]
  refine wp_pure.mpr (wp_bind.mpr (wp_tryCatch.mpr (wp_bind.mpr ?_)))
  show wp _ (readPage connector.deployment restored.id restored.representation
    (some restored.status)) _ _ _
  have again : readPage connector.deployment restored.id restored.representation
      (some restored.status) = readPage (connector.site pageId).deployment
        (connector.site pageId).pageId "storage" (some wiki.page.status) := by
    rw [of.id, updates.pageId_trimmed, of.representation, of.status]
    rfl
  rw [again]
  refine @wp_readPage_alone (connector.site pageId) wiki _ _ _ _ _
    (fun _ same => (Option.some.inj same).symm) of.readable fun observed ofObserved => ?_
  refine wp_pure.mpr (wp_pure.mpr ?_)
  show (pageMatches (compensation.after.getD []) _ && pageMatches observed.fields _) = true
  rw [recorded]
  exact Bool.and_eq_true_iff.mpr ⟨pageMatches_self of of, pageMatches_self ofObserved of⟩

end

/-! ## One update and its rollback -/

section
variable [Host] [Texts]

/-- An update that returned, and the rollbacks of it, with the others between them. -/
inductive Life (connector : ConfluenceWriteConnector) (pageId : String) (action : AgentAction)
    (start : Wiki) : ExecutionResult → Wiki → Prop
  | executed {result : ExecutionResult} {wiki : Wiki} :
      (hosting (connector.site pageId)).Runs (execute connector action) start (.ok result) wiki →
      Life connector pageId action start result wiki
  | elapsed {result : ExecutionResult} {wiki after : Wiki} :
      Life connector pageId action start result wiki →
      (hosting (connector.site pageId)).Elapses wiki after →
      Life connector pageId action start result after
  | compensated {result : ExecutionResult} {wiki after : Wiki} {out : Except Exn ExecutionResult} :
      Life connector pageId action start result wiki →
      (hosting (connector.site pageId)).Runs (compensate connector action result) wiki out after →
      Life connector pageId action start result after

variable {connector : ConfluenceWriteConnector} {pageId : String} {action : AgentAction}
  {start wiki : Wiki} {result : ExecutionResult}

theorem Life.ledger (capability : action.capability = "confluence.page.update")
    (life : Life connector pageId action start result wiki) :
    ∃ up, Updates (connector.site pageId) action result up ∧ Since start (Ledger start up) wiki := by
  induction life with
  | executed run =>
    obtain ⟨changes, here, extended⟩ : Since start _ _ :=
      wp_runs run (execute_spec (.inl capability) ⟨[], rfl, fun _ listed => nomatch listed⟩)
    obtain ⟨up, ledger, updates, -⟩ := extended.ledger
    exact ⟨up, updates, changes, here, ledger⟩
  | elapsed _ elapsed ih =>
    obtain ⟨up, updates, since⟩ := ih
    exact ⟨up, updates, since.elapses stable_ledger elapsed⟩
  | @compensated wiki after out _ run ih =>
    obtain ⟨up, updates, changes, rfl, ledger⟩ := ih
    refine ⟨up, updates, ?_⟩
    have post := wp_runs run (compensate_spec capability updates ledger)
    cases out with
    | ok compensation => exact Since.mono post fun _ => And.left
    | error e => exact post

/-- What a rollback can bring back: the rollback is an action, and it carries title and body. -/
structure Restorable (site : Site) (action : AgentAction) (found : Page) : Prop where
  action : ∃ restore, replacement action site.pageId (found.version + 1 : Nat)
    (captured site found) = .ok restore
  title : Trimmed found.title
  body : Trimmed found.body

omit [Host] [Texts] in
theorem feasible_iff_restorable {site : Site} {found : Page} :
    Feasible site action found ∧ found.restored = { found with version := found.version + 2 } ↔
      Restorable site action found := by
  constructor
  · rintro ⟨⟨restore, title, body⟩, same⟩
    have sameTitle : strip found.title = found.title := congrArg Page.title same
    have sameBody : strip found.body = found.body := congrArg Page.body same
    exact ⟨restore, ⟨sameTitle ▸ title, sameTitle⟩, ⟨sameBody ▸ body, sameBody⟩⟩
  · rintro ⟨restore, ⟨title, sameTitle⟩, ⟨body, sameBody⟩⟩
    refine ⟨⟨restore, sameTitle.symm ▸ title, sameBody.symm ▸ body⟩, ?_⟩
    unfold Page.restored
    rw [sameTitle, sameBody]

/-- The call returned and the page is as it was, but for its version. -/
def BringsBack (found : Page) (out : Except Exn ExecutionResult) (after : Wiki) : Prop :=
  (∃ compensation, out = .ok compensation) ∧
    after.page = { found with version := found.version + 2 }

/-- Every change of an update replaces the approved version, and every change of its rollbacks what
the update left; a returned rollback has made one. While nobody else writes, the rollback brings the
prior state back and is verified exactly if that state can be restored; the planned rollback does
exactly if its title and body are trimmed. -/
theorem rollback_exact (connector : ConfluenceWriteConnector) (pageId : String)
    (action : AgentAction) (start : Wiki) (isUpdate : action.capability = "confluence.page.update") :
    let site := connector.site pageId
    (∀ out wiki, (hosting site).Runs (execute connector action) start out wiki →
      Since start (fun changes => ∀ e ∈ changes, e.own = true → Approved action e) wiki ∧
      ∀ result, out = .ok result → ∃ up,
        Updates site action result up ∧ wiki.page = up.left ∧ Since start (Ledger start up) wiki) ∧
    ∀ result wiki, Life connector pageId action start result wiki → ∃ up,
      Updates site action result up ∧ Since start (Ledger start up) wiki ∧
      (∀ compensation after,
        (hosting site).Runs (compensate connector action result) wiki (.ok compensation) after →
        ∃ newer, after.log = newer ++ wiki.log ∧ ∃ e ∈ newer, e.own = true ∧ e.found = up.left) ∧
      (wiki.page = up.left →
        (∃ out after, (alone site).Runs (compensate connector action result) wiki out after) ∧
        (∀ out after, (alone site).Runs (compensate connector action result) wiki out after →
          (BringsBack up.found out after ↔ Restorable site action up.found) ∧
          (Restorable site action up.found → ∀ compensation verdict final,
            out = .ok compensation →
            (alone site).Runs (verifyCompensation connector action result compensation) after
              verdict final →
            ∃ verification, verdict = .ok verification ∧ verification.verified = true)) ∧
        ∀ plan, Plans result plan → ∀ out after,
          (alone site).Runs (execute connector plan) wiki out after →
          (BringsBack up.found out after ↔ Trimmed up.found.title ∧ Trimmed up.found.body)) := by
  intro site
  refine ⟨fun out wiki run => ?_, fun result wiki life => ?_⟩
  · have post := wp_runs run
      (execute_spec (.inl isUpdate) ⟨[], rfl, fun _ listed => nomatch listed⟩)
    cases out with
    | error e =>
      have raised : Since start _ wiki := post
      refine ⟨raised.mono fun changes outcome => ?_, fun _ returned => nomatch returned⟩
      rcases outcome with untouched | extended
      · exact fun e listed own => absurd (own.symm.trans (untouched e listed)) Bool.noConfusion
      · exact extended.only
    | ok result =>
      obtain ⟨changes, rfl, extended⟩ : Since start _ wiki := post
      refine ⟨⟨changes, rfl, fun e listed own => (extended.only e listed own).1.approved⟩, ?_⟩
      intro other returned
      obtain rfl := Except.ok.inj returned
      obtain ⟨up, ledger, updates, here⟩ := extended.ledger
      exact ⟨up, updates, here, changes, rfl, ledger⟩
  · obtain ⟨up, updates, changes, rfl, ledger⟩ := life.ledger isUpdate
    refine ⟨up, updates, ⟨changes, rfl, ledger⟩, fun compensation after run => ?_, fun here =>
      ⟨runs_alone _ _, fun out after run => ?_, fun plan plans out after run => ?_⟩⟩
    · obtain ⟨_, rfl, -, newer, rfl, replaced⟩ : Since start _ after :=
        wp_runs run (compensate_spec isUpdate updates ledger)
      exact ⟨newer, List.append_assoc .., replaced⟩
    · have post := wp_runs run (compensate_alone isUpdate updates here)
      cases out with
      | error e =>
        have infeasible : ¬Feasible site action up.found := post
        refine ⟨⟨?_, fun restorable => ?_⟩, fun _ _ _ _ returned => nomatch returned⟩
        · rintro ⟨⟨_, returned⟩, -⟩
          cases returned
        · exact absurd (feasible_iff_restorable.mpr restorable).1 infeasible
      | ok compensation =>
        obtain ⟨feasible, page, restored, of, recorded⟩ := post
        refine ⟨⟨?_, fun restorable => ⟨⟨_, rfl⟩, ?_⟩⟩, ?_⟩
        · rintro ⟨-, same⟩
          exact feasible_iff_restorable.mp ⟨feasible, page.symm.trans same⟩
        · exact page.trans (feasible_iff_restorable.mpr restorable).2
        · intro restorable other verdict final returned verified
          obtain rfl := Except.ok.inj returned
          have back := page.trans (feasible_iff_restorable.mpr restorable).2
          have seen := wp_runs verified (@verifyCompensation_alone _ _ connector after pageId action
            result up compensation restored isUpdate updates restorable.title back of recorded
            fun _ _ => False)
          cases verdict with
          | error e => exact seen.elim
          | ok verification => exact ⟨verification, rfl, seen⟩
    · have post := wp_runs run (plan_alone plans updates here)
      cases out with
      | error e =>
        have blank : ¬((strip up.found.title).isEmpty = false ∧
          (strip up.found.body).isEmpty = false) := post
        refine ⟨?_, fun trimmed => absurd ?_ blank⟩
        · rintro ⟨⟨_, returned⟩, -⟩
          cases returned
        · rw [trimmed.1.2, trimmed.2.2]
          exact ⟨trimmed.1.1, trimmed.2.1⟩
      | ok compensation =>
        obtain ⟨⟨title, body⟩, page, -⟩ := post
        constructor
        · rintro ⟨-, same⟩
          have sameTitle : strip up.found.title = up.found.title :=
            congrArg Page.title (page.symm.trans same)
          have sameBody : strip up.found.body = up.found.body :=
            congrArg Page.body (page.symm.trans same)
          exact ⟨⟨sameTitle ▸ title, sameTitle⟩, ⟨sameBody ▸ body, sameBody⟩⟩
        · rintro ⟨⟨-, sameTitle⟩, ⟨-, sameBody⟩⟩
          refine ⟨⟨_, rfl⟩, page.trans ?_⟩
          unfold Page.restored
          rw [sameTitle, sameBody]

end

/-! ### An empty page -/

namespace Samples

/-- The text functions on ASCII texts without lower-case letters or markup. -/
@[reducible]
def texts : Texts where
  upper s := s
  upper_upper _ := rfl
  isDecimal s := s.toList.all Char.isDigit
  isDecimal_toString n := by
    rw [List.all_eq_true]
    intro c listed
    exact Nat.isDigit_of_mem_toDigits (by decide : 0 < 10) (by decide : 10 ≤ 10)
      (by simpa using listed)
  htmlToText s := s

def unused {A : Type} : ConfluenceClient A := lift (.error (connectorError "not used"))

def connector : ConfluenceWriteConnector :=
  ⟨.cloud, fun _ => unused, fun _ _ => unused, fun _ _ => unused, fun _ _ _ => unused⟩

/-- A page with this body. -/
def page (body : String) : Page := ⟨"T", body, "current", "s", "K", none, 1⟩

def start (body : String) : Wiki := ⟨page body, []⟩

def writeBody : AgentAction where
  capability := "confluence.page.update"
  target := ⟨"confluence", "page", "7", some "1", by decide⟩
  parameters := [("title", .str "T"), ("body", .str "new")]
  risk := .reversibleWrite
  authoritySource := .directUser
  requiresApproval := true
  idempotencyKey := "k"
  justification := "sync"
  dataClassification := .internal
  dependencies := []
  actionId := numbered 1
  valid := by decide

end Samples

attribute [local instance] plainHost Samples.texts

theorem trimmed_of_plain {s : String} (nonempty : s.isEmpty = false)
    (plain : ∀ c ∈ s.toList, isSpace c = false) : Trimmed s := ⟨nonempty, strip_of_plain plain⟩

theorem current_trimmed : Trimmed "current" := trimmed_of_plain (by decide) (forall_chars (by decide))

theorem sample_id : strip "7" = "7" := strip_of_plain (forall_chars (by decide))

theorem sample_readable (body : String) :
    Readable (Samples.connector.site "7") (Samples.page body) where
  id := by
    rw [show (Samples.connector.site "7").pageId = "7" from rfl, sample_id]
    decide
  status := current_trimmed
  version := Nat.le_refl 1
  spaceId := by
    rw [show (Samples.page body).spaceId = "s" from rfl, strip_of_plain (forall_chars (by decide))]
    decide
  spaceKey other := nomatch other
  parentId _ none := nomatch none

theorem sample_asks (body : String) :
    Asks (Samples.connector.site "7") (Samples.page body) Samples.writeBody "T" "new" "current" where
  pageId := rfl
  pageId_trimmed := sample_id
  isTitle := rfl
  isBody := rfl
  isStorage := rfl
  version := (by decide : some "1" = some (toString 1))
  isStatus := rfl
  status_trimmed := current_trimmed
  spaceKey _ _ := rfl

/-- The update of the page returns, with the state that it found. -/
theorem sample_runs (body : String) : ∃ result wiki,
    (alone (Samples.connector.site "7")).Runs (execute Samples.connector Samples.writeBody)
      (Samples.start body) (.ok result) wiki ∧
    ∃ before : Snapshot, before.Of (Samples.connector.site "7") (Samples.page body) ∧
      result.before = some before.fields := by
  have spec : wp (alone (Samples.connector.site "7"))
      (execute Samples.connector Samples.writeBody)
      (fun result _ => ∃ before : Snapshot,
        before.Of (Samples.connector.site "7") (Samples.page body) ∧
        result.before = some before.fields) (fun _ _ => False) (Samples.start body) := by
    unfold execute
    refine wp_bind.mpr (wp_lift.mpr ?_)
    rw [show validateAction Samples.connector Samples.writeBody = .ok () by decide]
    rw [if_pos (show Samples.writeBody.capability = "confluence.page.update" from rfl)]
    refine wp_mono (@wp_update_alone _ _ (Samples.connector.site "7") (Samples.start body) _ _ _ _
      false _ (sample_asks body) (sample_readable body)) ?_ fun _ _ other => other
    rintro result _ ⟨-, before, -, of, -, recorded, -⟩
    exact ⟨before, of, recorded⟩
  obtain ⟨out, wiki, run⟩ :=
    runs_alone (execute Samples.connector Samples.writeBody) (Samples.start body)
  cases out with
  | ok result => exact ⟨result, wiki, run, wp_runs run spec⟩
  | error e => exact (wp_runs run spec).elim

theorem sample_rollback : ∃ result wiki up,
    Updates (Samples.connector.site "7") Samples.writeBody result up ∧ wiki.page = up.left ∧
      Since (Samples.start "old") (Ledger (Samples.start "old") up) wiki := by
  obtain ⟨result, wiki, run, -⟩ := sample_runs "old"
  obtain ⟨up, updates, here, since⟩ :=
    ((rollback_exact Samples.connector "7" Samples.writeBody (Samples.start "old") rfl).1 _ wiki
      (hosting_of_alone run)).2 result rfl
  exact ⟨result, wiki, up, updates, here, since⟩

/-- An empty page is updated while nobody else writes, and the rollback raises. -/
theorem blank_body_kept : ∃ result wiki,
    (alone (Samples.connector.site "7")).Runs (execute Samples.connector Samples.writeBody)
      (Samples.start "") (.ok result) wiki ∧
    (∃ out after, (alone (Samples.connector.site "7")).Runs
      (compensate Samples.connector Samples.writeBody result) wiki out after) ∧
    ∀ out after, (alone (Samples.connector.site "7")).Runs
      (compensate Samples.connector Samples.writeBody result) wiki out after →
      ∀ compensation, out ≠ .ok compensation := by
  obtain ⟨result, wiki, run, before, of, recorded⟩ := sample_runs ""
  refine ⟨result, wiki, run, runs_alone _ _, ?_⟩
  rintro _ after rolled compensation rfl
  obtain ⟨changes, rfl, extended⟩ : Since (Samples.start "") _ wiki :=
    wp_runs (hosting_of_alone run) (execute_spec (.inl rfl) ⟨[], rfl, fun _ listed => nomatch listed⟩)
  obtain ⟨up, -, updates, here⟩ := extended.ledger
  obtain ⟨⟨-, -, body⟩, -⟩ :=
    wp_runs rolled (@compensate_alone _ _ Samples.connector _ "7" _ _ _ rfl updates here)
  obtain ⟨captured, -, ofFound, -, isBefore, -⟩ := updates.recorded
  have same : captured.fields = before.fields := Option.some.inj (isBefore.symm.trans recorded)
  have bodies : captured.body = before.body := by
    have listed := congrArg (List.lookup "body") same
    exact Json.str.inj (Option.some.inj listed)
  rw [← ofFound.body, bodies, of.body] at body
  exact absurd body (by decide)

end MasterAgent.Confluence
