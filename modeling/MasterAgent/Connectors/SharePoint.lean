import MasterAgent.Connectors.Utils
import MasterAgent.Credentials.Broker

/-!
# Replacement of a SharePoint file

`SharePointWriteConnector` replaces the content of an existing item and may restore the version
before. The provider compares no eTag for it: the connector reads the metadata, the content and the
versions, writes, and reads again. Other writers act between any two of its requests.
-/

namespace MasterAgent.SharePoint
open Base Client Connectors Credentials

abbrev Bytes := List UInt8

/-! ## The provider -/

/-- A state of the item. Its eTag is that of the revision; the older versions are newest first. -/
structure Item where
  revision : Nat
  bytes : Bytes
  past : List Bytes
deriving DecidableEq

def Item.versions (item : Item) : List Bytes := item.bytes :: item.past

/-- The item with another version. -/
def Item.put (item : Item) (bytes : Bytes) : Item := ⟨item.revision + 1, bytes, item.versions⟩

/-- The item with other properties. -/
def Item.touch (item : Item) : Item := { item with revision := item.revision + 1 }

/-- How the provider names things. -/
class Provider where
  driveId : String
  itemId : String
  etag : Nat → String
  etag_inj : ∀ m n, etag m = etag n → m = n
  etag_nonempty : ∀ n, (etag n).isEmpty = false
  /-- Versions are numbered from the oldest on. -/
  versionId : Nat → String
  versionId_inj : ∀ m n, versionId m = versionId n → m = n
  versionId_trimmed : ∀ n, strip (versionId n) = versionId n
  versionId_nonempty : ∀ n, (versionId n).isEmpty = false

inductive Request where
  | localArtifact (localPath : String)
  | metadata (driveId itemId : String)
  | content (driveId itemId : String) (limit : Nat)
  | versions (driveId itemId : String)
  | upload (driveId itemId : String) (body : Bytes) (contentType : String)
  | restoreVersion (driveId itemId versionId : String)
deriving DecidableEq

/-- The name and the bytes of the artifact; what a response holds and its URL. -/
abbrev Request.Answer : Request → Type
  | .localArtifact _ => String × Bytes
  | .metadata .. | .versions .. => Json × String
  | .content .. => Bytes × String
  | .upload .. | .restoreVersion .. => String

abbrev GraphClient (A : Type) := Client Request Request.Answer Exn A

def request (c : Request) : GraphClient c.Answer := ask c

def Request.isMetadata : Request → Bool
  | .metadata .. => true
  | _ => false

def Request.isUpload : Request → Bool
  | .upload .. => true
  | _ => false

def Request.isRestore : Request → Bool
  | .restoreVersion .. => true
  | _ => false

/-- A step on the item: a request of the connector, or another writer. -/
structure Event where
  request : Option Request
  found : Item
  left : Item

/-- The item with its history, newest first. -/
structure Drive where
  initial : Item
  log : List Event

def Drive.item (drive : Drive) : Item := drive.log.head?.elim drive.initial Event.left

def Drive.record (drive : Drive) (request : Option Request) (left : Item) : Drive :=
  { drive with log := ⟨request, drive.item, left⟩ :: drive.log }

section
variable [Provider]

/-- What the metadata of a state show. -/
structure Shows (data : Json) (item : Item) : Prop where
  id : data.get? "id" = some (.str Provider.itemId)
  size : data.get? "size" = some (.int item.bytes.length)
  etag : data.get? "eTag" = some (.str (Provider.etag item.revision))

/-- The versions of a state as they are listed, newest first. -/
def Lists (data : Json) (item : Item) : Prop :=
  ∃ fields items, data = .obj fields ∧ data.get? "value" = some (.arr items) ∧
    List.Forall₂ (fun value number => ∃ members, value = .obj members ∧
      value.get? "id" = some (.str (Provider.versionId number)))
      items (List.range (item.past.length + 1)).reverse

/-- A request under the item's name, what it answers, and the item afterwards. -/
def Serves (item : Item) : (c : Request) → c.Answer → Item → Prop
  | .localArtifact _, _, left => left = item
  | .metadata drive name, out, left => drive = Provider.driveId ∧ name = Provider.itemId ∧
      left = item ∧ (∃ fields, out.1 = .obj fields) ∧ Shows out.1 item
  | .content drive name limit, out, left => drive = Provider.driveId ∧ name = Provider.itemId ∧
      left = item ∧ out.1 = item.bytes ∧ item.bytes.length ≤ limit
  | .versions drive name, out, left => drive = Provider.driveId ∧ name = Provider.itemId ∧
      left = item ∧ Lists out.1 item
  | .upload drive name body _, _, left => drive = Provider.driveId ∧ name = Provider.itemId ∧
      left = item.put body
  | .restoreVersion drive name version, _, left => drive = Provider.driveId ∧
      name = Provider.itemId ∧ ∃ number bytes, version = Provider.versionId number ∧
        item.versions.reverse[number]? = some bytes ∧ left = item.put bytes

/-- A request is refused, or served, though its answer may be lost. -/
def serve (c : Request) (drive : Drive) (r : Except Exn c.Answer) (after : Drive) : Prop :=
  (after = drive ∧ ∃ e, r = .error e) ∨
    ∃ out left, Serves drive.item c out left ∧ after = drive.record (some c) left ∧
      (r = .ok out ∨ ∃ e, r = .error e)

/-- Another writer puts or restores some bytes, or changes the item's properties. -/
def others (drive after : Drive) : Prop :=
  (∃ bytes, after = drive.record none (drive.item.put bytes)) ∨
    after = drive.record none drive.item.touch

def hosting : Shared Request (fun c => Except Exn c.Answer) Drive := ⟨serve, others⟩

end

/-! ## The connector -/

structure SharePointWriteConnector where
  maxUploadBytes : Nat

/-- `_integer_size` -/
def integerSize : Json → Int
  | .int n => n
  | _ => -1

/-- What `_read_metadata` returns. -/
structure Metadata where
  id : String
  name : String
  size : Json
  etag : Json
  ctag : Json
  lastModified : Json
  webUrl : Json
  reference : String

def Metadata.fields (m : Metadata) : Fields :=
  [("id", .str m.id), ("name", .str m.name), ("size", m.size), ("etag", m.etag), ("ctag", m.ctag),
    ("last_modified", m.lastModified), ("web_url", m.webUrl), ("reference", .str m.reference)]

/-- What `_read_content_evidence` returns. -/
structure ContentEvidence where
  size : Nat
  sha256 : String
  reference : String

def ContentEvidence.fields (e : ContentEvidence) : Fields :=
  [("size", .int e.size), ("sha256", .str e.sha256), ("reference", .str e.reference)]

/-- `_uploaded_item_matches` -/
def uploadedItemMatches (metadata : Metadata) (itemId : String) (expectedSize : Int)
    (expectedSha256 : String) (evidence : ContentEvidence) (priorEtag : Json) : Bool :=
  metadata.id == itemId && integerSize metadata.size == expectedSize && truthy metadata.etag &&
    metadata.etag != priorEtag && (evidence.size : Int) == expectedSize &&
    evidence.sha256 == expectedSha256

/-- `_restored_item_matches` -/
def restoredItemMatches (metadata : Metadata) (itemId : String) (expectedSize : Int)
    (expectedSha256 : String) (evidence : ContentEvidence) (uploadedEtag : Json) : Bool :=
  expectedSha256.length == 64 && metadata.id == itemId &&
    integerSize metadata.size == expectedSize && truthy metadata.etag &&
    metadata.etag != uploadedEtag && (evidence.size : Int) == expectedSize &&
    evidence.sha256 == expectedSha256

section
variable [Host] [Sha256]

def metadataOf (data : Json) (url : String) : Metadata :=
  ⟨getStr data "id" "", getStr data "name" "", getValue data "size",
    orElse (getValue data "eTag") (getValue data "@odata.etag"), getValue data "cTag",
    getValue data "lastModifiedDateTime", getValue data "webUrl", url⟩

/-- `_read_metadata` -/
def readMetadata (driveId itemId : String) : GraphClient Metadata := do
  let (data, url) ← request (.metadata driveId itemId)
  match data with
  | .obj _ => return metadataOf data url
  | _ => lift (.error (connectorError "SharePoint DriveItem metadata must be an object"))

/-- `_read_versions` -/
def readVersions (driveId itemId : String) : GraphClient (List Fields) := do
  let (data, _) ← request (.versions driveId itemId)
  match data.get? "value" with
  | some (.arr items) => return items.filterMap fun value =>
      match value with
      | .obj members => some members
      | _ => none
  | _ => lift (.error (connectorError "SharePoint versions response must contain a value list"))

variable (connector : SharePointWriteConnector)

/-- `_read_content_evidence` -/
def readContentEvidence (driveId itemId : String) (expectedSize : Int) :
    GraphClient ContentEvidence := do
  ensure (decide (0 ≤ expectedSize ∧ expectedSize ≤ connector.maxUploadBytes))
    (connectorError "SharePoint expected content size is outside limits")
  let (body, url) ← request (.content driveId itemId (max expectedSize.toNat 1))
  return ⟨body.length, Sha256.hexdigest body, url⟩

/-- `_validate` -/
def validateAction (action : AgentAction) : Except Exn Unit :=
  if action.target.system ≠ "sharepoint" then
    .error (connectorError "SharePoint write connector received another system")
  else if action.capability ≠ "sharepoint.file.upload" then
    .error (connectorError ("unsupported SharePoint write capability: " ++ action.capability))
  else if action.risk ≠ .reversibleWrite then
    .error (connectorError "SharePoint replacement must use reversible_write risk")
  else if !action.requiresApproval then
    .error (connectorError "SharePoint replacement requires explicit approval")
  else .ok ()

/-- The approved digest. A digest is ASCII, so that `lower` is that of ASCII. -/
def approvedDigest (action : AgentAction) : String :=
  (strip (getStr (.obj action.parameters) "local_sha256" "")).toLower

/-- The name and the bytes of the approved artifact. -/
def approvedArtifact (action : AgentAction) : GraphClient (String × Bytes) := do
  let localPath ← lift (stringParameter action.parameters "local_path")
  let (name, content) ← request (.localArtifact localPath)
  ensure ((approvedDigest action).length == 64 &&
      approvedDigest action == Sha256.hexdigest content)
    (connectorError "SharePoint local artifact does not match approved local_sha256")
  ensure (decide (content.length ≤ connector.maxUploadBytes))
    (connectorError ("SharePoint upload exceeds configured maximum of " ++
      toString connector.maxUploadBytes ++ " bytes"))
  return (name, content)

/-- What `execute` retains of the item. -/
structure Retained where
  metadata : Metadata
  size : Int
  sha256 : String
  priorVersionId : String

def Retained.before (retained : Retained) : Fields :=
  retained.metadata.fields ++ [("content_size", .int retained.size),
    ("content_sha256", .str retained.sha256)]

/-- The reads of `execute` before its upload. -/
def retain (action : AgentAction) (driveId itemId : String) : GraphClient Retained := do
  let before ← readMetadata driveId itemId
  lift (enforceExpectedVersion action before.etag)
  let beforeSize := integerSize before.size
  let beforeContent ← readContentEvidence connector driveId itemId beforeSize
  ensure ((beforeContent.size : Int) == beforeSize && !beforeContent.sha256.isEmpty)
    (connectorError "SharePoint prior provider bytes could not be verified exactly")
  match ← readVersions driveId itemId with
  | [] => lift (.error (connectorError
      "SharePoint target has no restorable provider version; write rejected"))
  | newest :: _ =>
    let priorVersionId := strip (getStr (.obj newest) "id" "")
    ensure (!priorVersionId.isEmpty)
      (connectorError "SharePoint version response omitted a version ID")
    return ⟨before, beforeSize, beforeContent.sha256, priorVersionId⟩

def restoreDriveItemVersion (itemId : String) : CompensationDescriptor where
  kind := "restore_drive_item_version"
  mode := .manual
  capability := none
  parameters := []
  expectedVersion := none
  targetResourceId := some itemId
  reason := some ("DriveItem version restore has no adapter-enforced atomic " ++
    "precondition and requires manual re-review")
  schema := "master-agent/compensation@1"
  valid := by
    simp only [CompensationDescriptorFields.checks]
    decide

/-- `str(metadata.get("web_url") or response.url)` -/
def referenceOf (metadata : Metadata) (url : String) : String :=
  pyStr (orElse metadata.webUrl (.str url))

/-- The state after the upload, as `execute` returns it. -/
def uploadedFields (after : Metadata) (driveId itemId name : String) (content : Bytes)
    (providerSha256 priorVersionId : String) : Fields :=
  after.fields ++ [("drive_id", .str driveId), ("item_id", .str itemId),
    ("uploaded_size", .int content.length), ("uploaded_sha256", .str (Sha256.hexdigest content)),
    ("provider_sha256", .str providerSha256), ("source_name", .str name),
    ("prior_version_id", .str priorVersionId)]

/-- `execute` -/
def execute (action : AgentAction) : GraphClient ExecutionResult := do
  lift (validateAction action)
  let driveId ← lift (stringParameter action.parameters "drive_id")
  let itemId := action.target.resourceId
  let (name, content) ← approvedArtifact connector action
  let retained ← retain connector action driveId itemId
  let url ← request (.upload driveId itemId content
    (getStr (.obj action.parameters) "content_type" "application/octet-stream"))
  let after ← readMetadata driveId itemId
  let providerContent ← readContentEvidence connector driveId itemId content.length
  ensure (uploadedItemMatches after itemId content.length (Sha256.hexdigest content)
      providerContent retained.metadata.etag)
    (connectorError "SharePoint provider poststate did not match the approved bytes")
  return succeeded action retained.before
    (uploadedFields after driveId itemId name content providerContent.sha256
      retained.priorVersionId)
    (referenceOf after url) "SharePoint DriveItem replaced with an approved artifact"
    (some (restoreDriveItemVersion itemId))

/-- `verify` -/
def verify (action : AgentAction) (result : ExecutionResult) : GraphClient VerificationResult := do
  let driveId ← lift (stringParameter action.parameters "drive_id")
  let expectedSha256 := (getStr (.obj action.parameters) "local_sha256" "").toLower
  let expectedSize := integerSize (getValue (.obj (result.after.getD [])) "uploaded_size")
  let observed ← readContentEvidence connector driveId action.target.resourceId expectedSize
  let verified := expectedSha256.length == 64 && decide (0 ≤ expectedSize) &&
    (observed.size : Int) == expectedSize && observed.sha256 == expectedSha256
  return ⟨action.actionId, verified, some observed.fields,
    if verified then "verified SharePoint replacement by independent exact-byte digest"
    else "SharePoint provider bytes did not match the approved replacement"⟩

/-- `compensate` -/
def compensate (action : AgentAction) (result : ExecutionResult) : GraphClient ExecutionResult := do
  let after : Json := .obj (result.after.getD [])
  let driveId := strip (getStr after "drive_id" "")
  let itemId := strip (getStr after "item_id" action.target.resourceId)
  let versionId := strip (getStr after "prior_version_id" "")
  ensure (!driveId.isEmpty && !itemId.isEmpty && !versionId.isEmpty)
    (connectorError "SharePoint rollback metadata is incomplete")
  let current ← readMetadata driveId itemId
  ensure (current.etag == getValue after "etag")
    (versionConflictError "SharePoint item changed after upload; version restore is refused")
  let url ← request (.restoreVersion driveId itemId versionId)
  let restored ← readMetadata driveId itemId
  let before : Json := .obj (result.before.getD [])
  let priorSize := integerSize (getValue before "content_size")
  let priorSha256 := getStr before "content_sha256" ""
  let restoredContent ← readContentEvidence connector driveId itemId priorSize
  ensure (restoredItemMatches restored itemId priorSize priorSha256 restoredContent
      (getValue after "etag"))
    (connectorError "SharePoint restored provider version did not match prior bytes")
  let restoredFields := restored.fields ++ [("drive_id", .str driveId), ("item_id", .str itemId),
    ("restored_version_id", .str versionId), ("restored_size", .int priorSize),
    ("restored_sha256", .str restoredContent.sha256)]
  return succeeded action current.fields restoredFields (referenceOf restored url)
    "restored the prior SharePoint DriveItem version" none

end

end MasterAgent.SharePoint
