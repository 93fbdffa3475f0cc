import MasterAgent.Connectors.Confluence

/-!
# An update replaces the approved version, and its rollback what the update left

Versions only grow, so a state is known by its version. An update with the next version number
therefore replaces exactly the state that was approved, and a rollback what the update left.

Results:

1. `pageOf_of`, `pageOf_readable`: what is read of a state;
2. `wp_update`: an update replaces the approved version;
3. `execute_spec`, `compensate_spec`: the calls while others write.
-/

namespace MasterAgent.Confluence
open Base Client Connectors

/-! ## What is read of a state -/

/-- A text with nothing to strip. -/
def Trimmed (s : String) : Prop := s.isEmpty = false ∧ strip s = s

/-- What was read of a state. -/
structure Snapshot.Of (site : Site) (s : Snapshot) (page : Page) : Prop where
  id : s.id = strip site.pageId
  id_nonempty : (strip site.pageId).isEmpty = false
  title : s.title = page.title
  status : s.status = page.status
  status_trimmed : Trimmed page.status
  version : s.version = page.version
  version_pos : 1 ≤ page.version
  spaceId : s.spaceId = strip page.spaceId
  spaceId_nonempty : (strip page.spaceId).isEmpty = false
  spaceKey : s.spaceKey = if site.deployment = .cloud then none else some page.spaceKey
  spaceKey_trimmed : site.deployment = .dataCenter → Trimmed page.spaceKey
  parentId : s.parentId = page.parentId.map strip
  parentId_nonempty : ∀ parent ∈ page.parentId, (strip parent).isEmpty = false
  body : s.body = page.body
  representation : s.representation = "storage"

/-- A state that can be read. -/
structure Readable (site : Site) (page : Page) : Prop where
  id : (strip site.pageId).isEmpty = false
  status : Trimmed page.status
  version : 1 ≤ page.version
  spaceId : (strip page.spaceId).isEmpty = false
  spaceKey : site.deployment = .dataCenter → Trimmed page.spaceKey
  parentId : ∀ parent ∈ page.parentId, (strip parent).isEmpty = false

theorem Snapshot.Of.readable {site : Site} {s : Snapshot} {page : Page} (of : s.Of site page) :
    Readable site page :=
  ⟨of.id_nonempty, of.status_trimmed, of.version_pos, of.spaceId_nonempty, of.spaceKey_trimmed,
    of.parentId_nonempty⟩

section
variable {data : Json} {key context text : String}

theorem providerPageId_iff (shown : data.get? "id" = some (.str text)) {id : String} :
    providerPageId data = .ok id ↔ id = strip text ∧ (strip text).isEmpty = false := by
  unfold providerPageId
  rw [shown]
  dsimp only
  cases (strip text).isEmpty with
  | true => simp
  | false => simp [eq_comm]

theorem requiredIdentity_iff (shown : data.get? key = some (.str text)) {id : String} :
    requiredIdentity data key context = .ok id ↔ id = strip text ∧ (strip text).isEmpty = false := by
  unfold requiredIdentity
  rw [shown]
  dsimp only
  cases (strip text).isEmpty with
  | true => simp
  | false => simp [eq_comm]

theorem requiredTextOf_iff (shown : data.get? key = some (.str text)) {value : String} :
    requiredTextOf data key context = .ok value ↔ value = text ∧ Trimmed text := by
  unfold requiredTextOf Trimmed
  rw [shown]
  dsimp only
  cases text.isEmpty with
  | true => simp
  | false =>
    by_cases same : strip text = text
    · simp [same, eq_comm]
    · simp [same, Ne.symm same]

theorem optionalIdentity_iff {parentId : Option String}
    (shown : data.get? key = some (parentJson parentId)) {id : Option String} :
    optionalIdentity data key context = .ok id ↔
      id = parentId.map strip ∧ ∀ parent ∈ parentId, (strip parent).isEmpty = false := by
  unfold optionalIdentity
  cases parentId with
  | none =>
    rw [shown]
    constructor
    · intro read
      exact ⟨(Except.ok.inj read).symm, fun _ listed => nomatch listed⟩
    · rintro ⟨rfl, -⟩
      rfl
  | some parent =>
    have text : data.get? key = some (.str parent) := shown
    rw [text]
    dsimp only
    constructor
    · intro read
      cases inner : requiredIdentity data key context with
      | error e =>
        rw [inner] at read
        cases read
      | ok value =>
        rw [inner] at read
        obtain ⟨rfl, nonempty⟩ := (requiredIdentity_iff text).mp inner
        refine ⟨(Except.ok.inj read).symm, fun other same => ?_⟩
        obtain rfl := Option.some.inj same
        exact nonempty
    · rintro ⟨rfl, nonempty⟩
      rw [(requiredIdentity_iff text).mpr ⟨rfl, nonempty parent rfl⟩]
      rfl

theorem providerVersion_iff {n : Nat} {version : Int} :
    providerVersion (some (.int n)) = .ok version ↔ version = n ∧ 1 ≤ n := by
  unfold providerVersion
  dsimp only
  by_cases early : (n : Int) < 1
  · have : ¬1 ≤ n := by omega
    simp [early, this]
  · have : 1 ≤ n := by omega
    simp [early, this, eq_comm]

/-- An ancestor as it is read. -/
def ancestorId (ancestor : Json) : Except Exn String :=
  match ancestor with
  | .obj _ => requiredIdentity ancestor "id" "page ancestor"
  | _ => .error (connectorError "Confluence page response has invalid ancestors")

theorem ancestors_read {above : List Json} (readable : ∀ ancestor ∈ above, ∃ members id,
    ancestor = .obj members ∧ ancestor.get? "id" = some (.str id) ∧ (strip id).isEmpty = false) :
    ∃ ids, above.mapM ancestorId = .ok ids := by
  induction above with
  | nil => exact ⟨[], rfl⟩
  | cons ancestor rest ih =>
    obtain ⟨⟨members, id, rfl, shown, nonempty⟩, others⟩ := List.forall_mem_cons.mp readable
    obtain ⟨ids, read⟩ := ih others
    refine ⟨strip id :: ids, ?_⟩
    have first : ancestorId (.obj members) = .ok (strip id) :=
      (requiredIdentity_iff shown).mpr ⟨rfl, nonempty⟩
    rw [List.mapM_cons, first, read]
    rfl

theorem dataCenterParentId_iff {above : List Json} {parentId : Option String}
    (shown : data.get? "ancestors" = some (.arr (above ++
      parentId.toList.map fun parent => .obj [("id", .str parent)])))
    (top : parentId = none → above = [])
    (readable : ∀ ancestor ∈ above, ∃ members id, ancestor = .obj members ∧
      ancestor.get? "id" = some (.str id) ∧ (strip id).isEmpty = false) {id : Option String} :
    dataCenterParentId data = .ok id ↔
      id = parentId.map strip ∧ ∀ parent ∈ parentId, (strip parent).isEmpty = false := by
  have whole : dataCenterParentId data = (above ++ parentId.toList.map fun parent =>
      Json.obj [("id", .str parent)]).mapM ancestorId >>= fun ids => .ok ids.getLast? := by
    unfold dataCenterParentId
    rw [shown]
    rfl
  obtain ⟨ids, read⟩ := ancestors_read readable
  rw [whole, List.mapM_append, read]
  cases parentId with
  | none =>
    obtain rfl := top rfl
    obtain rfl : ids = [] := (Except.ok.inj read).symm
    constructor
    · intro same
      exact ⟨(Except.ok.inj same).symm, fun _ listed => nomatch listed⟩
    · rintro ⟨rfl, -⟩
      rfl
  | some parent =>
    have own : (Json.obj [("id", .str parent)]).get? "id" = some (.str parent) := rfl
    rw [show (some parent).toList.map (fun parent => Json.obj [("id", .str parent)]) =
      [.obj [("id", .str parent)]] from rfl, List.mapM_cons, List.mapM_nil]
    have first : ancestorId (.obj [("id", .str parent)]) =
      requiredIdentity (.obj [("id", .str parent)]) "id" "page ancestor" := rfl
    rw [first]
    constructor
    · intro same
      cases inner : requiredIdentity (.obj [("id", .str parent)]) "id" "page ancestor" with
      | error e =>
        rw [inner] at same
        cases same
      | ok value =>
        rw [inner] at same
        obtain ⟨rfl, nonempty⟩ := (requiredIdentity_iff own).mp inner
        have last : (ids ++ [strip parent]).getLast? = id := Except.ok.inj same
        rw [List.getLast?_concat] at last
        refine ⟨last.symm, fun other listed => ?_⟩
        obtain rfl := Option.some.inj listed
        exact nonempty
    · rintro ⟨rfl, nonempty⟩
      rw [(requiredIdentity_iff own).mpr ⟨rfl, nonempty parent rfl⟩]
      exact congrArg Except.ok List.getLast?_concat

end

section
variable [Host] [Texts] {site : Site} {page : Page} {data : Json} {url : String}

/-- The page of a response with storage representation. -/
def pageOf (deployment : DeploymentType) (data : Json) (url : String) : Except Exn Snapshot :=
  match deployment with
  | .cloud => cloudPage data "storage" url
  | .dataCenter => dataCenterPage data url

omit [Host] [Texts] in
theorem mapping_of_get? {data inner value : Json} {key member : String}
    (outer : data.get? key = some inner) (shown : inner.get? member = some value) :
    mapping (data.get? key) = inner := by
  rw [outer]
  cases inner
  case obj => rfl
  all_goals cases shown

omit [Texts] in
theorem text_of_get? {key text : String} (shown : data.get? key = some (.str text)) :
    getStr data key "" = text := by
  unfold getStr
  rw [shown]
  rfl

omit [Texts] in
theorem cloudBody_storage {body storage : Json} (isBody : data.get? "body" = some body)
    (isStorage : body.get? "storage" = some storage)
    (isValue : storage.get? "value" = some (.str page.body)) :
    cloudBody data "storage" = (page.body, "storage") := by
  unfold cloudBody
  rw [mapping_of_get? isBody isStorage]
  dsimp only
  cases storage
  case obj =>
    rw [isStorage]
    exact Prod.ext (text_of_get? isValue) rfl
  all_goals cases isValue

/-- What is read of a state shows the state. -/
theorem pageOf_of (shows : Shows site.deployment site.pageId data page) {s : Snapshot}
    (read : pageOf site.deployment data url = .ok s) : s.Of site page := by
  obtain ⟨isId, isTitle, isStatus, ⟨version, isVersion, isNumber⟩, ⟨body, storage, isBody,
    isStorage, isValue⟩, placed⟩ := shows
  unfold pageOf at read
  cases deployed : site.deployment with
  | cloud =>
    rw [deployed] at read placed
    obtain ⟨isSpace, isParent⟩ := placed
    dsimp only at read
    unfold cloudPage at read
    rw [cloudBody_storage isBody isStorage isValue, mapping_of_get? isVersion isNumber, isNumber,
      text_of_get? isTitle] at read
    obtain ⟨id, readId, read⟩ := of_bind_ok read
    obtain ⟨status, readStatus, read⟩ := of_bind_ok read
    obtain ⟨version, readVersion, read⟩ := of_bind_ok read
    obtain ⟨spaceId, readSpace, read⟩ := of_bind_ok read
    obtain ⟨parentId, readParent, read⟩ := of_bind_ok read
    obtain rfl := Except.ok.inj read
    obtain ⟨rfl, id_nonempty⟩ := (providerPageId_iff isId).mp readId
    obtain ⟨rfl, status_trimmed⟩ := (requiredTextOf_iff isStatus).mp readStatus
    obtain ⟨rfl, version_pos⟩ := providerVersion_iff.mp readVersion
    obtain ⟨rfl, space_nonempty⟩ := (requiredIdentity_iff isSpace).mp readSpace
    obtain ⟨rfl, parent_nonempty⟩ := (optionalIdentity_iff isParent).mp readParent
    have notDataCenter : site.deployment ≠ .dataCenter := by
      rw [deployed]
      exact DeploymentType.noConfusion
    exact ⟨rfl, id_nonempty, rfl, rfl, status_trimmed, rfl, version_pos, rfl, space_nonempty,
      (if_pos deployed).symm, fun other => absurd other notDataCenter, rfl, parent_nonempty, rfl,
      rfl⟩
  | dataCenter =>
    rw [deployed] at read placed
    obtain ⟨⟨space, isSpace, isSpaceId, isSpaceKey⟩, above, isAbove, top, readable⟩ := placed
    dsimp only at read
    unfold dataCenterPage at read
    rw [mapping_of_get? isBody isStorage, mapping_of_get? isStorage isValue, text_of_get? isValue,
      mapping_of_get? isSpace isSpaceId, mapping_of_get? isVersion isNumber, isNumber,
      text_of_get? isTitle] at read
    obtain ⟨id, readId, read⟩ := of_bind_ok read
    obtain ⟨status, readStatus, read⟩ := of_bind_ok read
    obtain ⟨version, readVersion, read⟩ := of_bind_ok read
    obtain ⟨spaceId, readSpace, read⟩ := of_bind_ok read
    obtain ⟨spaceKey, readKey, read⟩ := of_bind_ok read
    obtain ⟨parentId, readParent, read⟩ := of_bind_ok read
    obtain rfl := Except.ok.inj read
    obtain ⟨rfl, id_nonempty⟩ := (providerPageId_iff isId).mp readId
    obtain ⟨rfl, status_trimmed⟩ := (requiredTextOf_iff isStatus).mp readStatus
    obtain ⟨rfl, version_pos⟩ := providerVersion_iff.mp readVersion
    obtain ⟨rfl, space_nonempty⟩ := (requiredIdentity_iff isSpaceId).mp readSpace
    obtain ⟨rfl, key_trimmed⟩ := (requiredTextOf_iff isSpaceKey).mp readKey
    obtain ⟨rfl, parent_nonempty⟩ := (dataCenterParentId_iff isAbove top readable).mp readParent
    have notCloud : site.deployment ≠ .cloud := by
      rw [deployed]
      exact DeploymentType.noConfusion
    exact ⟨rfl, id_nonempty, rfl, rfl, status_trimmed, rfl, version_pos, rfl, space_nonempty,
      (if_neg notCloud).symm, fun _ => key_trimmed, rfl, parent_nonempty, rfl, rfl⟩

/-- A state that can be read is read. -/
theorem pageOf_readable (shows : Shows site.deployment site.pageId data page)
    (readable : Readable site page) : ∃ s, pageOf site.deployment data url = .ok s := by
  obtain ⟨isId, isTitle, isStatus, ⟨version, isVersion, isNumber⟩, ⟨body, storage, isBody,
    isStorage, isValue⟩, placed⟩ := shows
  unfold pageOf
  cases deployed : site.deployment with
  | cloud =>
    rw [deployed] at placed
    obtain ⟨isSpace, isParent⟩ := placed
    dsimp only
    unfold cloudPage
    rw [cloudBody_storage isBody isStorage isValue, mapping_of_get? isVersion isNumber, isNumber]
    dsimp only
    rw [(providerPageId_iff isId).mpr ⟨rfl, readable.id⟩,
      (requiredTextOf_iff isStatus).mpr ⟨rfl, readable.status⟩,
      providerVersion_iff.mpr ⟨rfl, readable.version⟩,
      (requiredIdentity_iff isSpace).mpr ⟨rfl, readable.spaceId⟩,
      (optionalIdentity_iff isParent).mpr ⟨rfl, readable.parentId⟩]
    exact ⟨_, rfl⟩
  | dataCenter =>
    rw [deployed] at placed
    obtain ⟨⟨space, isSpace, isSpaceId, isSpaceKey⟩, above, isAbove, top, plain⟩ := placed
    dsimp only
    unfold dataCenterPage
    rw [mapping_of_get? isSpace isSpaceId, mapping_of_get? isVersion isNumber, isNumber]
    dsimp only
    rw [(providerPageId_iff isId).mpr ⟨rfl, readable.id⟩,
      (requiredTextOf_iff isStatus).mpr ⟨rfl, readable.status⟩,
      providerVersion_iff.mpr ⟨rfl, readable.version⟩,
      (requiredIdentity_iff isSpaceId).mpr ⟨rfl, readable.spaceId⟩,
      (requiredTextOf_iff isSpaceKey).mpr ⟨rfl, readable.spaceKey deployed⟩,
      (dataCenterParentId_iff isAbove top plain).mpr ⟨rfl, readable.parentId⟩]
    exact ⟨_, rfl⟩

end

/-! ## Histories -/

/-- The world after some more changes. -/
def Wiki.extend (start : Wiki) (changes : List Change) : Wiki :=
  ⟨start.initial, changes ++ start.log⟩

/-- The changes since a state of the world are as `I` asks. -/
def Since (start : Wiki) (I : List Change → Prop) (wiki : Wiki) : Prop :=
  ∃ changes, wiki = start.extend changes ∧ I changes

/-- What other writers do not touch. -/
def Stable (start : Wiki) (I : List Change → Prop) : Prop :=
  ∀ changes left, left.version = (start.extend changes).page.version + 1 → I changes →
    I (⟨false, (start.extend changes).page, left⟩ :: changes)

/-- The page is in the state, or has been changed since. -/
def Follows (state page : Page) : Prop := page = state ∨ state.version < page.version

theorem Follows.newer {state page left : Page} (follows : Follows state page)
    (newer : left.version = page.version + 1) : Follows state left := by
  refine .inr ?_
  rcases follows with rfl | older
  · omega
  · omega

theorem Follows.eq {state page : Page} (follows : Follows state page)
    (same : page.version = state.version) : page = state := by
  rcases follows with here | older
  · exact here
  · omega

theorem Follows.trans {state page later : Page} (first : Follows state page)
    (second : Follows page later) : Follows state later := by
  rcases second with rfl | newer
  · exact first
  · rcases first with rfl | older
    · exact .inr newer
    · exact .inr (older.trans newer)

section
variable {start wiki : Wiki} {I K : List Change → Prop} {site : Site}

theorem Since.mono (since : Since start I wiki) (wider : ∀ changes, I changes → K changes) :
    Since start K wiki := by
  obtain ⟨changes, here, holds⟩ := since
  exact ⟨changes, here, wider changes holds⟩

theorem Since.elapses {after : Wiki} (stable : Stable start I)
    (elapsed : (hosting site).Elapses wiki after) (since : Since start I wiki) :
    Since start I after := by
  refine Shared.Elapses.invariant ?_ elapsed since
  rintro _ _ ⟨changes, rfl, holds⟩ ⟨left, newer, rfl⟩
  exact ⟨_, rfl, stable changes left newer holds⟩

variable [Host] [Texts]

/-- The page is read as it is. -/
theorem wp_readPage {pageId : String} {status : Option String} {J : Snapshot → List Change → Prop}
    (stable : Stable start I) (since : Since start I wiki) (raises : ∀ changes, I changes → K changes)
    (read : ∀ s changes, pageId = site.pageId → I changes → s.Of site (start.extend changes).page →
      J s changes) :
    wp (hosting site) (readPage site.deployment pageId "storage" status)
      (fun s => Since start (J s)) (fun _ => Since start K) wiki := by
  unfold readPage
  refine wp_bind.mpr (wp_ask.mpr fun w elapsed r after step => ?_)
  obtain ⟨changes, rfl, holds⟩ := since.elapses stable elapsed
  rcases step with ⟨rfl, e, rfl⟩ | ⟨⟨data, url⟩, serves, answered⟩
  · exact ⟨changes, rfl, raises changes holds⟩
  obtain ⟨here, -, rfl, ⟨members, rfl⟩, shows⟩ := serves
  have lifted : ∀ x, x = pageOf site.deployment (.obj members) url →
      wp (hosting site) (lift x : ConfluenceClient Snapshot) (fun s => Since start (J s))
        (fun _ => Since start K) (start.extend changes) := by
    intro x same
    refine wp_lift.mpr ?_
    cases outcome : x with
    | error e => exact ⟨changes, rfl, raises changes holds⟩
    | ok s => exact ⟨changes, rfl, read s changes here holds (pageOf_of shows (same ▸ outcome))⟩
  rcases answered with rfl | ⟨e, rfl⟩
  · cases deployed : site.deployment with
    | cloud => exact lifted _ (by rw [deployed]; rfl)
    | dataCenter => exact lifted _ (by rw [deployed]; rfl)
  · exact ⟨changes, rfl, raises changes holds⟩

omit [Host] [Texts] in
/-- An update is applied to the state before its number, or answered with 409. -/
theorem wp_putPage {pageId : String} {payload : Payload} {J : List Change → Prop}
    (stable : Stable start I) (since : Since start I wiki) (raises : ∀ changes, I changes → K changes)
    (applied : ∀ changes, I changes → Applies (start.extend changes).page payload →
      J (⟨true, (start.extend changes).page, (start.extend changes).page.update payload⟩ :: changes))
    (late : ∀ changes, J changes → K changes) :
    wp (hosting site) (request (.putPage pageId payload))
      (fun (out : Option String) w => (out = none → Since start I w) ∧ (out ≠ none → Since start J w))
      (fun _ => Since start K) wiki := by
  refine wp_ask.mpr fun w elapsed r after step => ?_
  obtain ⟨changes, rfl, holds⟩ := since.elapses stable elapsed
  rcases step with ⟨rfl, e, rfl⟩ | ⟨out, serves, answered⟩
  · exact ⟨changes, rfl, raises changes holds⟩
  obtain ⟨-, ⟨applies, isUrl, rfl⟩ | ⟨-, isConflict, rfl⟩⟩ := serves
  · have done : Since start J _ := ⟨_, rfl, applied changes holds applies⟩
    rcases answered with rfl | ⟨e, rfl⟩
    · exact ⟨fun conflict => absurd conflict isUrl, fun _ => done⟩
    · exact done.mono late
  · have kept : Since start I (start.extend changes) := ⟨changes, rfl, holds⟩
    rcases answered with rfl | ⟨e, rfl⟩
    · exact ⟨fun _ => kept, fun isUrl => absurd isConflict isUrl⟩
    · exact kept.mono raises

end

/-! ## Updates while others write -/

/-- After changes as `B` asks the connector has made one more, of which `P` holds. -/
def Extended (start : Wiki) (B : List Change → Prop) (P : Change → Prop) (changes : List Change) :
    Prop :=
  ∃ newer up older, changes = newer ++ up :: older ∧ (∀ e ∈ newer, e.own = false) ∧ B older ∧
    up.own = true ∧ up.found = (start.extend older).page ∧
    Follows up.left (start.extend changes).page ∧ P up

/-- A change replaced the approved version by the next one. -/
structure Approved (action : AgentAction) (up : Change) : Prop where
  version : action.target.expectedVersion = some (toString up.found.version)
  next : up.left.version = up.found.version + 1

section
variable {start : Wiki} {B : List Change → Prop} {P Q : Change → Prop}

theorem Extended.mono {changes : List Change} (holds : Extended start B P changes)
    (wider : ∀ up, P up → Q up) : Extended start B Q changes := by
  obtain ⟨newer, up, older, same, others, base, own, found, follows, here⟩ := holds
  exact ⟨newer, up, older, same, others, base, own, found, follows, wider up here⟩

theorem stable_extended : Stable start (Extended start B P) := by
  rintro changes left newest ⟨newer, up, older, rfl, others, base, own, found, follows, here⟩
  exact ⟨_ :: newer, up, older, rfl, List.forall_mem_cons.mpr ⟨rfl, others⟩, base, own, found,
    follows.newer newest, here⟩

end

theorem toString_nat_inj {m n : Nat} (same : (toString m : String) = toString n) : m = n := by
  have digits : (Nat.toDigits 10 m) = Nat.toDigits 10 n := by
    have := congrArg String.toList same
    simpa using this
  rw [← @Nat.ofDigitChars_ten_toDigits m, digits, Nat.ofDigitChars_ten_toDigits]

section
variable [Host] [Texts] {start wiki : Wiki} {site : Site} {action : AgentAction}

omit [Host] in
/-- The number of an update is that of the approved version, and one more. -/
theorem expectedUpdatedVersion_ok {next : Nat} (passed : expectedUpdatedVersion action = .ok next) :
    ∃ current, 1 ≤ current ∧ action.target.expectedVersion = some (toString current) ∧
      next = current + 1 := by
  unfold expectedUpdatedVersion at passed
  cases approved : action.target.expectedVersion with
  | none =>
    rw [approved] at passed
    cases passed
  | some expected =>
    rw [approved] at passed
    dsimp only at passed
    split at passed
    · cases passed
    · split at passed
      · cases passed
      · next normal =>
        rw [not_or, not_lt, not_not] at normal
        refine ⟨_, normal.1, ?_, (Except.ok.inj passed).symm⟩
        rw [normal.2]

omit [Host] in
/-- The approved version is a numeral of its own. -/
theorem expectedUpdatedVersion_of {current : Nat} (positive : 1 ≤ current)
    (approved : action.target.expectedVersion = some (toString current)) :
    expectedUpdatedVersion action = .ok (current + 1) := by
  have value : Nat.ofDigitChars 10 (toString current : String).toList 0 = current := by
    rw [show (toString current : String).toList = Nat.toDigits 10 current by simp,
      Nat.ofDigitChars_ten_toDigits]
  unfold expectedUpdatedVersion
  rw [approved]
  dsimp only
  rw [Texts.isDecimal_toString, value, if_neg (by decide), if_neg]
  rw [not_or, not_lt, not_not]
  exact ⟨positive, rfl⟩

/-- What a returned update has done. -/
structure Updates (site : Site) (action : AgentAction) (result : ExecutionResult) (up : Change) :
    Prop where
  approved : Approved action up
  update : ∃ payload, up.left = up.found.update payload
  pageId : action.target.resourceId = site.pageId
  pageId_trimmed : strip site.pageId = site.pageId
  spaceKey : site.deployment = .dataCenter → Texts.upper up.found.spaceKey = up.found.spaceKey
  recorded : ∃ before after : Snapshot, before.Of site up.found ∧ after.Of site up.left ∧
    result.before = some before.fields ∧ result.after = some after.fields ∧
    result.compensation = some (restorePreviousPage site.pageId before after)

omit [Host] in
/-- The space key of an update is that of the page. -/
theorem updatedSpaceKey_ok {parameters : Fields} {before : Snapshot} {page : Page}
    {spaceKey : Option String} (of : before.Of site page)
    (passed : updatedSpaceKey site.deployment parameters before.fields = .ok spaceKey)
    (deployed : site.deployment = .dataCenter) : Texts.upper page.spaceKey = page.spaceKey := by
  have isKey : (Json.obj before.fields).get? "space_key" = some (.str page.spaceKey) := by
    show some (optStr before.spaceKey) = _
    rw [of.spaceKey, deployed]
    rfl
  rw [deployed] at passed
  unfold updatedSpaceKey at passed
  obtain ⟨key, readKey, passed⟩ := of_bind_ok passed
  obtain ⟨rfl, -⟩ := (requiredTextOf_iff isKey).mp readKey
  obtain ⟨given, -, passed⟩ := of_bind_ok passed
  dsimp only at passed
  split at passed
  · cases passed
  · next same =>
    have uppered : Texts.upper (given.getD page.spaceKey) = page.spaceKey := by
      simpa using same
    rw [← uppered, Texts.upper_upper]

omit [Texts] in
/-- A poststate that matches has the version. -/
theorem poststateMatches_version {observed : Snapshot} {deployment : DeploymentType}
    {placement : Placement} {expected : Fields}
    (approved : approvedPoststate action deployment placement = .ok expected)
    (same : poststateMatches observed.fields expected = true) :
    observed.version = placement.version := by
  have listed : ("version", .int placement.version) ∈ expected := by
    unfold approvedPoststate at approved
    obtain ⟨title, -, approved⟩ := of_bind_ok approved
    obtain ⟨body, -, approved⟩ := of_bind_ok approved
    obtain ⟨representation, -, approved⟩ := of_bind_ok approved
    dsimp only at approved
    split at approved
    · obtain rfl := Except.ok.inj approved
      simp
    · obtain rfl := Except.ok.inj approved
      simp
    · cases approved
  have here := List.all_eq_true.mp same _ listed
  have looked : some (Json.int observed.version) = some (.int placement.version) := beq_iff_eq.mp here
  exact Json.int.inj (Option.some.inj looked)

/-- An update replaces the approved version once, and a returned one says what it replaced. -/
theorem wp_update {B : List Change → Prop} {compensating : Bool} (stable : Stable start B)
    (since : Since start B wiki) :
    wp (hosting site) (update site.deployment action compensating)
      (fun result => Since start fun changes => Extended start B (fun up =>
        Updates site action result up ∧ (start.extend changes).page = up.left) changes)
      (fun _ => Since start fun changes =>
        B changes ∨ Extended start B (Approved action) changes) wiki := by
  have early : ∀ w, Since start B w → Since start (fun changes =>
      B changes ∨ Extended start B (Approved action) changes) w := fun _ now => now.mono fun _ => .inl
  unfold update
  refine wp_bind.mpr (wp_lift.mpr ?_)
  cases requiredText action.parameters "title" with
  | error e => exact early _ since
  | ok title =>
  refine wp_bind.mpr (wp_lift.mpr ?_)
  cases requiredText action.parameters "body" with
  | error e => exact early _ since
  | ok body =>
  refine wp_bind.mpr (wp_lift.mpr ?_)
  cases representationFor action.parameters site.deployment with
  | error e => exact early _ since
  | ok representation =>
  refine wp_bind.mpr (wp_lift.mpr ?_)
  cases numbered : expectedUpdatedVersion action with
  | error e => exact early _ since
  | ok nextVersion =>
  obtain ⟨current, positive, approved, rfl⟩ := expectedUpdatedVersion_ok numbered
  refine wp_bind.mpr (wp_mono (wp_readPage stable since (fun _ => .inl)
    (J := fun before changes => action.target.resourceId = site.pageId ∧ B changes ∧
      ∃ prior, before.Of site prior ∧ Follows prior (start.extend changes).page)
    fun before changes here base of => ⟨here, base, _, of, .inl rfl⟩) (fun before w now => ?_)
    fun _ _ raised => raised)
  obtain ⟨changes, rfl, here, base, prior, of, follows⟩ := now
  have stableRead : Stable start fun changes =>
      B changes ∧ Follows prior (start.extend changes).page := fun changes left newest both =>
    ⟨stable changes left newest both.1, both.2.newer newest⟩
  have now : Since start (fun changes => B changes ∧ Follows prior (start.extend changes).page)
    (start.extend changes) := ⟨changes, rfl, base, follows⟩
  have failed : ∀ w, Since start (fun changes =>
      B changes ∧ Follows prior (start.extend changes).page) w → Since start (fun changes =>
        B changes ∨ Extended start B (Approved action) changes) w :=
    fun _ now => now.mono fun _ both => .inl both.1
  refine wp_bind.mpr (wp_ensure (fun sameId => ?_) fun _ => failed _ now)
  refine wp_bind.mpr (wp_lift.mpr ?_)
  cases checked : enforceExpectedVersion action (.int before.version) with
  | error e => exact failed _ now
  | ok _ =>
  refine wp_bind.mpr (wp_lift.mpr ?_)
  cases (do
      approvedStatus action.parameters
        (← requiredTextOf (.obj before.fields) "status" "normalized page")) with
  | error e => exact failed _ now
  | ok status =>
  refine wp_bind.mpr (wp_lift.mpr ?_)
  cases requiredIdentity (.obj before.fields) "space_id" "normalized page" with
  | error e => exact failed _ now
  | ok spaceId =>
  refine wp_bind.mpr (wp_lift.mpr ?_)
  cases optionalIdentity (.obj before.fields) "parent_id" "normalized page" with
  | error e => exact failed _ now
  | ok parentId =>
  refine wp_bind.mpr (wp_lift.mpr ?_)
  cases placed : updatedSpaceKey site.deployment action.parameters before.fields with
  | error e => exact failed _ now
  | ok spaceKey =>
  have priorVersion : prior.version = current := by
    have shown := enforceExpectedVersion_ok checked approved
    rw [of.version] at shown
    exact (toString_nat_inj shown).symm
  have late : ∀ P : Change → Prop, (∀ up, P up → Approved action up) → ∀ changes,
      Extended start B P changes →
        B changes ∨ Extended start B (Approved action) changes :=
    fun _ implies changes holds => .inr (holds.mono implies)
  have isApproved : ∀ up : Change, up.found = prior →
      (∃ payload, payload.number = current + 1 ∧ up.left = up.found.update payload) →
      Approved action up := by
    rintro up rfl ⟨payload, -, left⟩
    refine ⟨by rw [approved, priorVersion], ?_⟩
    rw [left]
    rfl
  refine wp_bind.mpr (wp_mono (wp_putPage (K := fun changes =>
      B changes ∨ Extended start B (Approved action) changes)
    (J := Extended start B fun up => up.found = prior ∧ representation = "storage" ∧
      ∃ payload, payload.number = current + 1 ∧ up.left = up.found.update payload)
    stableRead now (fun _ both => .inl both.1) ?_ (late _ fun up facts => isApproved up facts.1 facts.2.2))
    (fun answer w answered => ?_) fun _ _ raised => raised)
  · rintro changes ⟨base, follows⟩ ⟨number, isStorage⟩
    have found : (start.extend changes).page = prior := by
      refine follows.eq ?_
      have : current + 1 = (start.extend changes).page.version + 1 := number
      omega
    exact ⟨[], _, changes, rfl, fun _ listed => (nomatch listed), base, rfl, rfl, .inl rfl, found,
      isStorage, _, rfl, rfl⟩
  cases answer with
  | none => exact wp_lift.mpr (failed _ (answered.1 rfl))
  | some url =>
  obtain ⟨changes, rfl, extended⟩ := answered.2 (fun none => nomatch none)
  have now : Since start _ (start.extend changes) := ⟨changes, rfl, extended⟩
  have ⟨_, _, _, _, _, _, _, _, _, _, isStorage, _⟩ := extended
  subst isStorage
  refine wp_bind.mpr (wp_mono (wp_readPage stable_extended now
    (late _ fun up facts => isApproved up facts.1 facts.2.2)
    (J := fun observed changes => Extended start B (fun up => up.found = prior ∧
      (∃ payload, payload.number = current + 1 ∧ up.left = up.found.update payload) ∧
      (observed.version = up.left.version →
        observed.Of site up.left ∧ (start.extend changes).page = up.left)) changes) ?_)
    (fun observed w now => ?_) fun _ _ raised => raised)
  · rintro observed changes - ⟨newer, up, older, rfl, others, base, own, found, follows, facts⟩ read
    refine ⟨newer, up, older, rfl, others, base, own, found, follows, facts.1, facts.2.2, ?_⟩
    intro same
    rw [read.version] at same
    have here := follows.eq (Int.ofNat_inj.mp same)
    rw [← here]
    exact ⟨read, rfl⟩
  have raised : Since start (fun changes => B changes ∨ Extended start B (Approved action) changes)
      w := now.mono fun changes holds =>
    .inr (holds.mono fun up facts => isApproved up facts.1 facts.2.1)
  refine wp_bind.mpr (wp_lift.mpr ?_)
  cases isApprovedState : approvedPoststate action site.deployment
      ⟨action.target.resourceId, current + 1, status, spaceId, spaceKey, parentId⟩ with
  | error e => exact raised
  | ok expected =>
  refine wp_bind.mpr (wp_ensure (fun same => ?_) fun _ => raised)
  have observedVersion := poststateMatches_version isApprovedState same
  refine wp_pure.mpr (now.mono fun changes holds => holds.mono ?_)
  rintro up ⟨found, ⟨payload, number, left⟩, observedOf⟩
  have trimmedId : strip site.pageId = site.pageId := by
    rw [← of.id, beq_iff_eq.mp sameId, here]
  have sameVersion : observed.version = up.left.version := by
    rw [observedVersion, left, found]
    exact congrArg (fun n : Nat => ((n + 1 : Nat) : Int)) priorVersion.symm
  obtain ⟨ofLeft, isLeft⟩ := observedOf sameVersion
  refine ⟨⟨isApproved up found ⟨payload, number, left⟩, ⟨payload, left⟩, here, trimmedId, ?_, before,
    observed, ?_, ofLeft, rfl, rfl, ?_⟩, isLeft⟩
  · rw [found]
    exact updatedSpaceKey_ok of placed
  · rw [found]
    exact of
  · rw [here]
    rfl

end

/-! ## The calls while others write -/

/-- What the rollback of a state asks for. -/
structure Restoring (pageId : String) (version : Int) (prior : Fields) (restore : AgentAction) :
    Prop where
  pageId : restore.target.resourceId = pageId
  version : restore.target.expectedVersion = some (toString version)
  parameters : restore.parameters = replacementParameters prior

theorem replacement_ok {action restore : AgentAction} {pageId : String} {version : Int}
    {prior : Fields} (built : replacement action pageId version prior = .ok restore) :
    Restoring pageId version prior restore := by
  obtain ⟨target, isTarget, built⟩ := of_bind_ok built
  obtain ⟨_, rfl⟩ := of_build_ok isTarget
  obtain ⟨_, rfl⟩ := of_build_ok built
  exact ⟨rfl, rfl, rfl⟩

/-- The update was made, and since then the connector has only replaced what it left. -/
def Ledger (start : Wiki) (up : Change) (changes : List Change) : Prop :=
  up ∈ changes ∧ (∀ e ∈ changes, e.own = true → e = up ∨ e.found = up.left) ∧
    Follows up.left (start.extend changes).page

section
variable {start : Wiki} {up : Change} {changes : List Change}

theorem stable_ledger : Stable start (Ledger start up) := by
  rintro changes left newest ⟨listed, all, follows⟩
  refine ⟨List.mem_cons_of_mem _ listed, List.forall_mem_cons.mpr ⟨fun own => ?_, all⟩,
    follows.newer newest⟩
  exact absurd own Bool.false_ne_true

/-- The connector has made no change. -/
def Untouched (changes : List Change) : Prop := ∀ e ∈ changes, e.own = false

theorem stable_untouched : Stable start Untouched := fun _ _ _ all =>
  List.forall_mem_cons.mpr ⟨rfl, all⟩

theorem Extended.ledger {P : Change → Prop} (extended : Extended start Untouched P changes) :
    ∃ up, Ledger start up changes ∧ P up := by
  obtain ⟨newer, up, older, rfl, others, base, own, found, follows, holds⟩ := extended
  refine ⟨up, ⟨List.mem_append_right _ List.mem_cons_self, ?_, follows⟩, holds⟩
  intro e listed isOwn
  rcases List.mem_append.mp listed with new | old
  · exact absurd (isOwn.symm.trans (others e new)) Bool.noConfusion
  · rcases List.mem_cons.mp old with rfl | old
    · exact .inl rfl
    · exact absurd (isOwn.symm.trans (base e old)) Bool.noConfusion

theorem Extended.only {P : Change → Prop} (extended : Extended start Untouched P changes) :
    ∀ e ∈ changes, e.own = true → P e := by
  obtain ⟨newer, up, older, rfl, others, base, -, -, -, holds⟩ := extended
  intro e listed isOwn
  rcases List.mem_append.mp listed with new | old
  · exact absurd (isOwn.symm.trans (others e new)) Bool.noConfusion
  · rcases List.mem_cons.mp old with rfl | old
    · exact holds
    · exact absurd (isOwn.symm.trans (base e old)) Bool.noConfusion

/-- A change under the version that the update left replaces what it left. -/
theorem Extended.replaced {B : List Change → Prop} {P : Change → Prop}
    (extended : Extended start B P changes) (base : ∀ older, B older → Ledger start up older)
    (version : ∀ e, P e → e.found.version = up.left.version)
    (newer : ∀ e, P e → e.found.version < e.left.version) :
    Ledger start up changes ∧ ∃ later e older, changes = later ++ e :: older ∧ B older ∧
      e.own = true ∧ e.found = up.left := by
  obtain ⟨later, e, older, rfl, others, holdsB, own, found, follows, holds⟩ := extended
  obtain ⟨listed, all, before⟩ := base older holdsB
  have isLeft : e.found = up.left := by
    rw [← found] at before
    exact before.eq (version e holds)
  refine ⟨⟨List.mem_append_right _ (List.mem_cons_of_mem _ listed), ?_, ?_⟩, later, e, older, rfl,
    holdsB, own, isLeft⟩
  · intro x isChange isOwn
    rcases List.mem_append.mp isChange with new | old
    · exact absurd (isOwn.symm.trans (others x new)) Bool.noConfusion
    · rcases List.mem_cons.mp old with rfl | old
      · exact .inr isLeft
      · exact all x old isOwn
  · refine Follows.trans (.inr ?_) follows
    rw [← isLeft]
    exact newer e holds

/-- Only others have changed the page since `before`. -/
def Later (before changes : List Change) : Prop := ∃ newer, changes = newer ++ before ∧ Untouched newer

theorem stable_later {before : List Change} : Stable start (Later before) := by
  rintro _ left _ ⟨newer, rfl, untouched⟩
  exact ⟨_ :: newer, rfl, List.forall_mem_cons.mpr ⟨rfl, untouched⟩⟩

end

section
variable [Host] [Texts] {connector : ConfluenceWriteConnector} {start wiki : Wiki} {pageId : String}
  {action : AgentAction} {result : ExecutionResult} {up : Change}

/-- The site of a connector's page. -/
def ConfluenceWriteConnector.site (connector : ConfluenceWriteConnector) (pageId : String) : Site :=
  ⟨connector.deployment, pageId⟩

/-- An action that updates a page. -/
def IsUpdate (action : AgentAction) : Prop :=
  action.capability = "confluence.page.update" ∨ action.capability = "confluence.page.compensate"

theorem execute_spec (isUpdate : IsUpdate action) (since : Since start Untouched wiki) :
    wp (hosting (connector.site pageId)) (execute connector action)
      (fun result => Since start fun changes => Extended start Untouched (fun up =>
        Updates (connector.site pageId) action result up ∧ (start.extend changes).page = up.left)
        changes)
      (fun _ => Since start fun changes =>
        Untouched changes ∨ Extended start Untouched (Approved action) changes) wiki := by
  unfold execute
  refine wp_bind.mpr (wp_lift.mpr ?_)
  cases validateAction connector action with
  | error e => exact since.mono fun _ => .inl
  | ok _ =>
    rcases isUpdate with update | compensates
    · rw [if_pos update]
      exact wp_update stable_untouched since
    · rw [if_neg (by rw [compensates]; decide), if_pos compensates]
      exact wp_update stable_untouched since

/-- A rollback replaces only what the update left, and a returned one has replaced it. -/
theorem compensate_spec {before : List Change}
    (capability : action.capability = "confluence.page.update")
    (updates : Updates (connector.site pageId) action result up) (ledger : Ledger start up before) :
    wp (hosting (connector.site pageId)) (compensate connector action result)
      (fun _ => Since start fun changes => Ledger start up changes ∧ ∃ newer,
        changes = newer ++ before ∧ ∃ e ∈ newer, e.own = true ∧ e.found = up.left)
      (fun _ => Since start (Ledger start up)) (start.extend before) := by
  obtain ⟨prior, after, ofFound, ofLeft, isBefore, isAfter, -⟩ := updates.recorded
  let B : List Change → Prop := fun changes => Ledger start up changes ∧ Later before changes
  have stable : Stable start B := fun changes left newest both =>
    ⟨stable_ledger changes left newest both.1, stable_later changes left newest both.2⟩
  have since : Since start B (start.extend before) :=
    ⟨before, rfl, ledger, [], rfl, fun _ listed => nomatch listed⟩
  unfold compensate
  rw [if_neg (by rw [capability]; decide), isBefore, isAfter]
  refine wp_bind.mpr (wp_lift.mpr ?_)
  cases requiredTextOf (.obj ((some after.fields).getD [])) "status" "normalized page" with
  | error e => exact since.mono fun _ => And.left
  | ok status =>
  have isStorage : getStr (.obj ((some after.fields).getD [])) "representation" "storage" =
      "storage" := ofLeft.representation
  rw [isStorage]
  refine wp_bind.mpr (wp_mono (@wp_readPage start _ _ (Ledger start up) (connector.site pageId) _ _
    _ _ (fun _ => B) stable since (fun _ => And.left) fun _ _ _ both _ => both)
    (fun current w now => ?_) fun _ _ raised => raised)
  refine wp_bind.mpr (wp_ensure (fun same => ?_) fun _ => now.mono fun _ => And.left)
  refine wp_bind.mpr (wp_lift.mpr ?_)
  cases built : replacement action _ current.version prior.fields with
  | error e => exact now.mono fun _ => And.left
  | ok restore =>
  have versions : current.version = up.left.version := by
    have listed : ("version", Json.int after.version) ∈ ["id", "title", "body", "representation",
        "version", "status", "space_id", "space_key", "parent_id"].map fun key =>
          (key, getValue (.obj after.fields) key) := by
      exact List.mem_map_of_mem (f := fun key => (key, getValue (.obj after.fields) key))
        (by decide : "version" ∈ _)
    have shown := List.all_eq_true.mp same _ listed
    have looked : some (Json.int current.version) = some (.int after.version) := beq_iff_eq.mp shown
    rw [Json.int.inj (Option.some.inj looked), ofLeft.version]
  have isFound : ∀ e : Change, Approved restore e → e.found.version = up.left.version := by
    intro e approved
    have text := (replacement_ok built).version.symm.trans approved.version
    rw [versions] at text
    exact (toString_nat_inj (Option.some.inj text)).symm
  have isNewer : ∀ e : Change, Approved restore e → e.found.version < e.left.version := by
    intro e approved
    have := approved.next
    omega
  refine wp_mono (@wp_update _ _ start w (connector.site pageId) restore _ true stable now) ?_ ?_
  · intro compensation w done
    refine done.mono fun changes extended => ?_
    obtain ⟨kept, later, e, older, rfl, ⟨-, newer, rfl, -⟩, own, found⟩ := extended.replaced
      (fun _ => And.left) (fun e both => isFound e both.1.approved)
      fun e both => isNewer e both.1.approved
    refine ⟨kept, later ++ e :: newer, ?_, e, List.mem_append_right _ List.mem_cons_self, own, found⟩
    rw [List.append_assoc, List.cons_append]
  · intro e w raised
    refine raised.mono fun changes outcome => ?_
    rcases outcome with both | extended
    · exact both.1
    · exact (extended.replaced (fun _ => And.left) isFound isNewer).1

end

end MasterAgent.Confluence
