import MasterAgent.Connectors.Utils
import MasterAgent.Retention.Manifest

/-!
# Updates of a Confluence page

`ConfluenceWriteConnector` updates a page under its version number and may restore the state before.
A page has storage representation. The provider applies an update exactly if its number is the next
one; other writers update the page between any two requests of the connector.
-/

namespace MasterAgent.Confluence
open Base Client Connectors

/-! ## The provider -/

/-- A state of the page. -/
structure Page where
  title : String
  body : String
  status : String
  spaceId : String
  spaceKey : String
  parentId : Option String
  version : Nat
deriving DecidableEq

/-- The fields of an update's JSON body. -/
structure Payload where
  status : String
  title : String
  spaceKey : Option String
  representation : String
  body : String
  number : Nat
  message : String
deriving DecidableEq

inductive Request where
  | getPage (pageId representation : String) (status : Option String)
  | putPage (pageId : String) (payload : Payload)
deriving DecidableEq

/-- The page and the URL of the response; the URL of an update that was not answered with 409. -/
abbrev Request.Answer : Request → Type
  | .getPage .. => Json × String
  | .putPage .. => Option String

abbrev ConfluenceClient (A : Type) := Client Request Request.Answer Exn A

def request (c : Request) : ConfluenceClient c.Answer := ask c

inductive DeploymentType where
  | cloud | dataCenter
deriving DecidableEq

/-- An update of the page. -/
structure Change where
  own : Bool
  found : Page
  left : Page

/-- The page with its history, newest first. -/
structure Wiki where
  initial : Page
  log : List Change

def Wiki.page (wiki : Wiki) : Page := wiki.log.head?.elim wiki.initial Change.left

def Wiki.record (wiki : Wiki) (own : Bool) (left : Page) : Wiki :=
  { wiki with log := ⟨own, wiki.page, left⟩ :: wiki.log }

/-- `parentId` of a response. -/
def parentJson (parentId : Option String) : Json := parentId.elim .null .str

/-- What a response shows of a state. -/
def Shows (deployment : DeploymentType) (pageId : String) (data : Json) (page : Page) : Prop :=
  data.get? "id" = some (.str pageId) ∧ data.get? "title" = some (.str page.title) ∧
    data.get? "status" = some (.str page.status) ∧
    (∃ version, data.get? "version" = some version ∧
      version.get? "number" = some (.int page.version)) ∧
    (∃ body storage, data.get? "body" = some body ∧ body.get? "storage" = some storage ∧
      storage.get? "value" = some (.str page.body)) ∧
    match deployment with
    | .cloud => data.get? "spaceId" = some (.str page.spaceId) ∧
        data.get? "parentId" = some (parentJson page.parentId)
    | .dataCenter => (∃ space, data.get? "space" = some space ∧
        space.get? "id" = some (.str page.spaceId) ∧ space.get? "key" = some (.str page.spaceKey)) ∧
        ∃ above : List Json, data.get? "ancestors" = some (.arr (above ++
          page.parentId.toList.map fun parent => .obj [("id", .str parent)])) ∧
          (page.parentId = none → above = []) ∧
          ∀ ancestor ∈ above, ∃ members id, ancestor = .obj members ∧
            ancestor.get? "id" = some (.str id) ∧ (strip id).isEmpty = false

/-- The state after an update. -/
def Page.update (page : Page) (payload : Payload) : Page :=
  { page with
    title := payload.title
    body := payload.body
    status := payload.status
    version := page.version + 1 }

/-- The provider applies the update. -/
def Applies (page : Page) (payload : Payload) : Prop :=
  payload.number = page.version + 1 ∧ payload.representation = "storage"

/-- A page and its name. -/
structure Site where
  deployment : DeploymentType
  pageId : String

/-- A request is answered. -/
def Serves (site : Site) (wiki : Wiki) : (c : Request) → c.Answer → Wiki → Prop
  | .getPage pageId _ status, out, after => pageId = site.pageId ∧
      (∀ asked, status = some asked → asked = wiki.page.status) ∧ after = wiki ∧
      (∃ members, out.1 = .obj members) ∧ Shows site.deployment site.pageId out.1 wiki.page
  | .putPage pageId payload, out, after => pageId = site.pageId ∧
      ((Applies wiki.page payload ∧ out ≠ none ∧
          after = wiki.record true (wiki.page.update payload)) ∨
        payload.number ≠ wiki.page.version + 1 ∧ out = none ∧ after = wiki)

/-- A request is refused, or answered, though the answer may be lost. -/
def serve (site : Site) (c : Request) (wiki : Wiki) (r : Except Exn c.Answer) (after : Wiki) :
    Prop :=
  (after = wiki ∧ ∃ e, r = .error e) ∨
    ∃ out, Serves site wiki c out after ∧ (r = .ok out ∨ ∃ e, r = .error e)

/-- Another writer updates the page, or moves it. -/
def others (wiki after : Wiki) : Prop :=
  ∃ left : Page, left.version = wiki.page.version + 1 ∧ after = wiki.record false left

def hosting (site : Site) : Shared Request (fun c => Except Exn c.Answer) Wiki :=
  ⟨serve site, others⟩

/-- A request can be answered. -/
def Servable (site : Site) (wiki : Wiki) : Request → Prop
  | .getPage pageId _ status =>
    pageId = site.pageId ∧ ∀ asked, status = some asked → asked = wiki.page.status
  | .putPage pageId payload => pageId = site.pageId ∧
      (Applies wiki.page payload ∨ payload.number ≠ wiki.page.version + 1)

/-- Nobody else writes, and what can be answered is answered. -/
def alone (site : Site) : Shared Request (fun c => Except Exn c.Answer) Wiki where
  serve c wiki r after := (Servable site wiki c → ∃ out, Serves site wiki c out after ∧ r = .ok out) ∧
    (¬Servable site wiki c → after = wiki ∧ ∃ e, r = .error e)
  others _ _ := False

/-! ## Reading -/

/-- The text functions of the runtime that the connector uses. -/
class Texts where
  upper : String → String
  upper_upper : ∀ s, upper (upper s) = upper s
  /-- `str.isdecimal` -/
  isDecimal : String → Bool
  isDecimal_toString : ∀ n : Nat, isDecimal (toString n) = true
  htmlToText : String → String

/-- `_provider_page_id` -/
def providerPageId (data : Json) : Except Exn String :=
  let read (rendered : String) : Except Exn String :=
    if (strip rendered).isEmpty then
      .error (connectorError "Confluence page response omitted a page ID")
    else .ok (strip rendered)
  match data.get? "id" with
  | some (.str id) => read id
  | some (.int id) => read (toString id)
  | _ => .error (connectorError "Confluence page response omitted a page ID")

/-- `_mapping_required_identity` -/
def requiredIdentity (data : Json) (key context : String) : Except Exn String :=
  let read (rendered : String) : Except Exn String :=
    if (strip rendered).isEmpty then
      .error (connectorError ("Confluence " ++ context ++ " response has empty " ++ key))
    else .ok (strip rendered)
  match data.get? key with
  | none => .error (connectorError ("Confluence " ++ context ++ " response omitted " ++ key))
  | some (.str id) => read id
  | some (.int id) => read (toString id)
  | some _ => .error (connectorError ("Confluence " ++ context ++ " response has invalid " ++ key))

/-- `_mapping_optional_identity` -/
def optionalIdentity (data : Json) (key context : String) : Except Exn (Option String) :=
  match data.get? key with
  | some .null => .ok none
  | _ => (requiredIdentity data key context).map some

/-- `_mapping_required_text` -/
def requiredTextOf (data : Json) (key context : String) : Except Exn String :=
  match data.get? key with
  | some (.str value) =>
    if value.isEmpty || value != strip value then
      .error (connectorError ("Confluence " ++ context ++ " response has invalid " ++ key))
    else .ok value
  | _ => .error (connectorError ("Confluence " ++ context ++ " response omitted " ++ key))

/-- `_provider_version` -/
def providerVersion (value : Option Json) : Except Exn Int :=
  match value with
  | some (.int n) =>
    if n < 1 then .error (connectorError "Confluence page response has an invalid version")
    else .ok n
  | _ => .error (connectorError "Confluence page response has an invalid version")

/-- `_data_center_parent_id` -/
def dataCenterParentId (data : Json) : Except Exn (Option String) :=
  match data.get? "ancestors" with
  | some (.arr ancestors) => do
    let identities ← ancestors.mapM fun ancestor =>
      match ancestor with
      | .obj _ => requiredIdentity ancestor "id" "page ancestor"
      | _ => .error (connectorError "Confluence page response has invalid ancestors")
    return identities.getLast?
  | _ => .error (connectorError "Confluence page response omitted expanded ancestors")

/-- A mapping, or the empty one. -/
def mapping (value : Option Json) : Json :=
  match value with
  | some (.obj members) => .obj members
  | _ => .obj []

/-- What `_read_page` returns. -/
structure Snapshot where
  id : String
  title : String
  status : String
  version : Int
  spaceId : String
  spaceKey : Option String
  parentId : Option String
  body : String
  bodyText : String
  representation : String
  reference : String

def Snapshot.fields (s : Snapshot) : Fields :=
  [("id", .str s.id), ("title", .str s.title), ("status", .str s.status), ("version", .int s.version),
    ("space_id", .str s.spaceId), ("space_key", optStr s.spaceKey), ("parent_id", optStr s.parentId),
    ("body", .str s.body), ("body_text", .str s.bodyText), ("representation", .str s.representation),
    ("reference", .str s.reference)]

section
variable [Host] [Texts]

/-- `_cloud_body` -/
def cloudBody (page : Json) (preferred : String) : String × String :=
  let body := mapping (page.get? "body")
  let fallback := if preferred == "storage" then "atlas_doc_format" else "storage"
  match body.get? preferred, body.get? fallback with
  | some (.obj value), _ => (getStr (.obj value) "value" "", preferred)
  | _, some (.obj value) => (getStr (.obj value) "value" "", fallback)
  | _, _ => ("", "storage")

/-- The page of a Cloud response. -/
def cloudPage (data : Json) (representation url : String) : Except Exn Snapshot := do
  let (body, observed) := cloudBody data representation
  let id ← providerPageId data
  let status ← requiredTextOf data "status" "page"
  let version ← providerVersion ((mapping (data.get? "version")).get? "number")
  let spaceId ← requiredIdentity data "spaceId" "page"
  let parentId ← optionalIdentity data "parentId" "page"
  return ⟨id, getStr data "title" "", status, version, spaceId, none, parentId, body,
    if observed == "storage" then Texts.htmlToText body else body, observed, url⟩

/-- The page of a Data Center response. -/
def dataCenterPage (data : Json) (url : String) : Except Exn Snapshot := do
  let body := getStr (mapping ((mapping (data.get? "body")).get? "storage")) "value" ""
  let space := mapping (data.get? "space")
  let id ← providerPageId data
  let status ← requiredTextOf data "status" "page"
  let version ← providerVersion ((mapping (data.get? "version")).get? "number")
  let spaceId ← requiredIdentity space "id" "page space"
  let spaceKey ← requiredTextOf space "key" "page space"
  let parentId ← dataCenterParentId data
  return ⟨id, getStr data "title" "", status, version, spaceId, some spaceKey, parentId, body,
    Texts.htmlToText body, "storage", url⟩

/-- `_read_page` -/
def readPage (deployment : DeploymentType) (pageId representation : String)
    (status : Option String) : ConfluenceClient Snapshot := do
  let (data, url) ← request (.getPage pageId representation status)
  match data with
  | .obj _ =>
    match deployment with
    | .cloud => lift (cloudPage data representation url)
    | .dataCenter => lift (dataCenterPage data url)
  | _ => lift (.error (connectorError "Confluence page response must be an object"))

/-! ## Poststates -/

/-- `_poststate_matches` -/
def poststateMatches (observed expected : Fields) : Bool :=
  expected.all fun (key, approved) => observed.lookup key == some approved

/-- `_page_matches` -/
def pageMatches (observed expected : Fields) : Bool :=
  poststateMatches observed (["id", "title", "body", "representation", "version", "status",
    "space_id", "space_key", "parent_id"].map fun key => (key, getValue (.obj expected) key))

/-- `_required_text` -/
def requiredText (parameters : Fields) (key : String) : Except Exn String :=
  let value := strip (getStr (.obj parameters) key "")
  if value.isEmpty then .error (connectorError ("missing required parameter: " ++ key))
  else .ok value

/-- `_optional_text` -/
def optionalText (parameters : Fields) (key : String) : Except Exn (Option String) :=
  match present (.obj parameters) key with
  | none => .ok none
  | some (.str value) => .ok (if (strip value).isEmpty then none else some (strip value))
  | some _ => .error (connectorError ("parameter must be a string: " ++ key))

/-- `_approved_status` -/
def approvedStatus (parameters : Fields) (default : String) : Except Exn String :=
  (optionalText parameters "status").map fun status => status.getD default

/-- `_representation_for_deployment` -/
def representationFor (parameters : Fields) (deployment : DeploymentType) : Except Exn String :=
  let value := strip (getStr (.obj parameters) "representation" "storage")
  if value != "storage" && value != "atlas_doc_format" then
    .error (connectorError "representation must be storage or atlas_doc_format")
  else if deployment = .dataCenter ∧ value ≠ "storage" then
    .error (connectorError "Confluence Data Center writes require storage representation")
  else .ok value

/-- `_expected_updated_version` -/
def expectedUpdatedVersion (action : AgentAction) : Except Exn Nat :=
  match action.target.expectedVersion with
  | none => .error (connectorError
      "Confluence update requires a numeric approved expected_version")
  | some expected =>
    let current := Nat.ofDigitChars 10 expected.toList 0
    if !Texts.isDecimal expected then
      .error (connectorError "Confluence update requires a numeric approved expected_version")
    else if current < 1 ∨ toString current ≠ expected then
      .error (connectorError
        "Confluence update requires a normalized positive expected_version")
    else .ok (current + 1)

/-- The space key of an update, which moves no page. -/
def updatedSpaceKey (deployment : DeploymentType) (parameters before : Fields) :
    Except Exn (Option String) :=
  match deployment with
  | .cloud => do
    match ← optionalText parameters "space_key" with
    | some _ => .error (connectorError "Confluence Cloud update cannot change space placement")
    | none => return none
  | .dataCenter => do
    let beforeSpaceKey ← requiredTextOf (.obj before) "space_key" "normalized page"
    let spaceKey := Texts.upper ((← optionalText parameters "space_key").getD beforeSpaceKey)
    if spaceKey != beforeSpaceKey then
      .error (connectorError
        "Confluence Data Center space moves require a separate placement capability")
    else .ok (some spaceKey)

/-- What an update must leave, besides what its parameters say. -/
structure Placement where
  pageId : String
  version : Nat
  status : String
  spaceId : String
  spaceKey : Option String
  parentId : Option String

/-- `_approved_poststate` -/
def approvedPoststate (action : AgentAction) (deployment : DeploymentType) (at_ : Placement) :
    Except Exn Fields := do
  let title ← requiredText action.parameters "title"
  let body ← requiredText action.parameters "body"
  let representation ← representationFor action.parameters deployment
  let expected : Fields := [("id", .str at_.pageId), ("title", .str title), ("body", .str body),
    ("representation", .str representation), ("version", .int at_.version),
    ("status", .str at_.status), ("space_id", .str at_.spaceId),
    ("parent_id", optStr at_.parentId)]
  match deployment, at_.spaceKey with
  | .cloud, _ => return expected
  | .dataCenter, some spaceKey => return expected ++ [("space_key", .str spaceKey)]
  | .dataCenter, none => .error (connectorError
      "Confluence Data Center poststate requires a stable space key")

/-- `_approved_result_poststate` of an update. -/
def approvedResultPoststate (deployment : DeploymentType) (action : AgentAction)
    (result : ExecutionResult) : Except Exn Fields := do
  let version ← expectedUpdatedVersion action
  match result.before with
  | none => .error (connectorError "Confluence update result omitted its verified prestate")
  | some before =>
    let status ← approvedStatus action.parameters
      (← requiredTextOf (.obj before) "status" "normalized page")
    let spaceId ← requiredIdentity (.obj before) "space_id" "normalized page"
    let parentId ← optionalIdentity (.obj before) "parent_id" "normalized page"
    let spaceKey ← updatedSpaceKey deployment action.parameters before
    approvedPoststate action deployment
      ⟨action.target.resourceId, version, status, spaceId, spaceKey, parentId⟩

/-- `_captured_restore_poststate` -/
def capturedRestorePoststate (original compensation : ExecutionResult)
    (deployment : DeploymentType) : Except Exn Fields :=
  match original.before, original.after, compensation.after with
  | some prior, some originalAfter, some compensationAfter => do
    let pageId ← requiredIdentity (.obj originalAfter) "id" "normalized page"
    let restoredId ← requiredIdentity (.obj compensationAfter) "id" "normalized page"
    if restoredId != pageId then
      .error (connectorError "Confluence rollback returned another page identity")
    else
      let expectedVersion := (← providerVersion (originalAfter.lookup "version")) + 1
      let version ← providerVersion (compensationAfter.lookup "version")
      if version != expectedVersion then
        .error (connectorError "Confluence rollback returned an unexpected page version")
      else
        let title ← requiredTextOf (.obj prior) "title" "normalized page"
        let body ← match prior.lookup "body" with
          | some (.str body) => Except.ok body
          | _ => .error (connectorError "Confluence normalized page omitted body")
        let representation ← requiredTextOf (.obj prior) "representation" "normalized page"
        let status ← requiredTextOf (.obj prior) "status" "normalized page"
        let spaceId ← requiredIdentity (.obj prior) "space_id" "normalized page"
        let parentId ← optionalIdentity (.obj prior) "parent_id" "normalized page"
        let spaceKey ← match deployment with
          | .cloud => Except.ok none
          | .dataCenter => (requiredTextOf (.obj prior) "space_key" "normalized page").map some
        return [("id", .str pageId), ("title", .str title), ("body", .str body),
          ("representation", .str representation), ("version", .int expectedVersion),
          ("status", .str status), ("space_id", .str spaceId), ("space_key", optStr spaceKey),
          ("parent_id", optStr parentId)]
  | none, _, _ | _, none, _ =>
    .error (connectorError "Confluence rollback omitted its captured page states")
  | _, _, none => .error (connectorError "Confluence rollback omitted its provider poststate")

/-! ## The connector -/

/-- The members of the captured state that a plan restores. -/
def compensationParameters (before : Snapshot) : Fields :=
  [("title", .str before.title), ("body", .str before.body),
    ("representation", .str before.representation)] ++
    (before.spaceKey.filter fun key => !key.isEmpty).toList.map (fun key => ("space_key", .str key)) ++
    if before.status.isEmpty then [] else [("status", .str before.status)]

def restorePreviousPage (pageId : String) (before observed : Snapshot) : CompensationDescriptor where
  kind := "restore_previous_page"
  mode := .plan
  capability := some "confluence.page.compensate"
  parameters := compensationParameters before
  expectedVersion := some (toString observed.version)
  targetResourceId := some pageId
  reason := none
  schema := "master-agent/compensation@1"
  valid := by
    simp only [CompensationDescriptorFields.checks]
    decide

/-- `_update` -/
def update (deployment : DeploymentType) (action : AgentAction) (compensating : Bool) :
    ConfluenceClient ExecutionResult := do
  let pageId := action.target.resourceId
  let title ← lift (requiredText action.parameters "title")
  let body ← lift (requiredText action.parameters "body")
  let representation ← lift (representationFor action.parameters deployment)
  let nextVersion ← lift (expectedUpdatedVersion action)
  let before ← readPage deployment pageId "storage" none
  ensure (before.id == pageId)
    (connectorError "Confluence update prestate did not match the approved resource ID")
  lift (enforceExpectedVersion action (.int before.version))
  let message := strip (getStr (.obj action.parameters) "version_message" "")
  let status ← lift (do
    approvedStatus action.parameters
      (← requiredTextOf (.obj before.fields) "status" "normalized page"))
  let spaceId ← lift (requiredIdentity (.obj before.fields) "space_id" "normalized page")
  let parentId ← lift (optionalIdentity (.obj before.fields) "parent_id" "normalized page")
  let spaceKey ← lift (updatedSpaceKey deployment action.parameters before.fields)
  match ← request (.putPage pageId
      ⟨status, title, spaceKey, representation, body, nextVersion, message⟩) with
  | none => lift (.error (versionConflictError
      "Confluence page changed before the versioned update"))
  | some url =>
    let observed ← readPage deployment pageId representation (some status)
    let expected ← lift (approvedPoststate action deployment
      ⟨pageId, nextVersion, status, spaceId, spaceKey, parentId⟩)
    ensure (poststateMatches observed.fields expected) (connectorError
      "Confluence update provider poststate did not match approved content and placement")
    return succeeded action before.fields observed.fields url
      (if compensating then "Confluence compensation update accepted"
        else "Confluence page update accepted")
      (some (restorePreviousPage pageId before observed))

/-- The connector, with its operations on spaces and new pages. -/
structure ConfluenceWriteConnector where
  deployment : DeploymentType
  create : AgentAction → ConfluenceClient ExecutionResult
  verifyCreated : AgentAction → ExecutionResult → ConfluenceClient VerificationResult
  deleteCreated : AgentAction → ExecutionResult → ConfluenceClient ExecutionResult
  verifyDeleted : AgentAction → ExecutionResult → ExecutionResult →
    ConfluenceClient VerificationResult

variable (connector : ConfluenceWriteConnector)

/-- `_validate` -/
def validateAction (action : AgentAction) : Except Exn Unit :=
  if action.target.system ≠ "confluence" then
    .error (connectorError "Confluence write connector received another system")
  else if action.capability ∉ ["confluence.page.create", "confluence.page.update",
      "confluence.page.compensate", "confluence.space.create"] then
    .error (connectorError ("unsupported Confluence write capability: " ++ action.capability))
  else if action.risk ≠ .reversibleWrite then
    .error (connectorError "Confluence writes must use reversible_write risk")
  else if action.capability = "confluence.space.create" ∧ connector.deployment ≠ .cloud then
    .error (connectorError "Confluence space creation currently requires Cloud")
  else .ok ()

/-- `execute` -/
def execute (action : AgentAction) : ConfluenceClient ExecutionResult := do
  lift (validateAction connector action)
  if action.capability = "confluence.page.update" then
    update connector.deployment action false
  else if action.capability = "confluence.page.compensate" then
    update connector.deployment action true
  else connector.create action

def verification (action : AgentAction) (verified : Bool) (observed : Option Fields)
    (message : String) : VerificationResult := ⟨action.actionId, verified, observed, message⟩

/-- A `ConnectorError` of `body` becomes a verification that fails. -/
def orUnverified {A : Type} (body : ConfluenceClient A) (unverified : VerificationResult)
    (next : A → ConfluenceClient VerificationResult) : ConfluenceClient VerificationResult := do
  let outcome ← tryCatch (return some (← body)) fun raised =>
    if raised.kind.isConnectorError then return none else lift (.error raised)
  match outcome with
  | some value => next value
  | none => return unverified

/-- The text of a member. -/
def textOf (data : Fields) (key : String) : String := getStr (.obj data) key ""

/-- `verify` -/
def verify (action : AgentAction) (result : ExecutionResult) :
    ConfluenceClient VerificationResult :=
  if action.capability = "confluence.space.create" ∨ action.capability = "confluence.page.create" then
    connector.verifyCreated action result
  else
    orUnverified (lift (approvedResultPoststate connector.deployment action result))
      (verification action false none
        "Confluence result did not identify an approved poststate") fun expected =>
    orUnverified (readPage connector.deployment (textOf expected "id")
        (textOf expected "representation") (some (textOf expected "status")))
      (verification action false none
        "Confluence page re-read omitted required content or placement") fun observed => do
    let verified := poststateMatches (result.after.getD []) expected &&
      poststateMatches observed.fields expected
    return verification action verified (some observed.fields)
      (if verified then "verified Confluence page by independent re-read"
        else "Confluence page did not match approved content and placement")

/-- The parameters of a rollback. -/
def replacementParameters (prior : Fields) : Fields :=
  [("title", getValue (.obj prior) "title"), ("body", getValue (.obj prior) "body"),
    ("representation", ((Json.obj prior).get? "representation").getD (.str "storage")),
    ("space_key", getValue (.obj prior) "space_key"),
    ("status", orElse (getValue (.obj prior) "status") (.str "current")),
    ("version_message", .str "Master Agent verified rollback")]

/-- The rollback as an action. -/
def replacement (action : AgentAction) (pageId : String) (version : Int) (prior : Fields) :
    Except Exn AgentAction := do
  let target ← ResourceRef.make "confluence" "page" pageId (some (toString version))
  AgentAction.make ⟨"confluence.page.compensate", target, replacementParameters prior,
    .reversibleWrite, action.authoritySource, false, "rollback:" ++ action.idempotencyKey,
    "Restore the state captured before this action.", .internal, [], action.actionId⟩

/-- `compensate` -/
def compensate (action : AgentAction) (result : ExecutionResult) :
    ConfluenceClient ExecutionResult :=
  if action.capability = "confluence.space.create" then connector.deleteCreated action result
  else
    match result.before with
    | none => connector.deleteCreated action result
    | some prior => do
      let after := result.after.getD []
      let pageId := getStr (.obj after) "id" action.target.resourceId
      let status ← lift (requiredTextOf (.obj after) "status" "normalized page")
      let current ← readPage connector.deployment pageId
        (getStr (.obj after) "representation" "storage") (some status)
      ensure (pageMatches current.fields after)
        (versionConflictError "Confluence page changed after update; rollback is refused")
      let restore ← lift (replacement action pageId current.version prior)
      update connector.deployment restore true

/-- `verify_compensation` -/
def verifyCompensation (action : AgentAction) (original compensation : ExecutionResult) :
    ConfluenceClient VerificationResult :=
  if action.capability = "confluence.space.create" ∨ original.before = none then
    connector.verifyDeleted action original compensation
  else
    orUnverified (lift (capturedRestorePoststate original compensation connector.deployment))
      (verification action false none
        "Confluence rollback result omitted its captured poststate") fun expected =>
    orUnverified (readPage connector.deployment (textOf expected "id")
        (textOf expected "representation") (some (textOf expected "status")))
      (verification action false none
        "Confluence restored page could not be independently verified") fun observed => do
    let verified := pageMatches (compensation.after.getD []) expected &&
      pageMatches observed.fields expected
    return verification action verified (some observed.fields)
      (if verified then "verified Confluence rollback by independent provider re-read"
        else "Confluence rollback did not restore the complete prior state")

end

end MasterAgent.Confluence
