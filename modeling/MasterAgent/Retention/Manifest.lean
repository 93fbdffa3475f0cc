import MasterAgent.Models.Checks

/-!
# Retention sidecars

The manifest that a retained evidence file has in its sidecar: its persisted schema, and the
digest that binds it to the evidence.
-/

namespace MasterAgent.Retention
open Base

/-! ## Names -/

def RETENTION_FLOCK_NAME : String := ".master-agent-retention.flock"
def RETENTION_QUARANTINE_NAME : String := ".retention-quarantine"
def RETENTION_PRUNE_STAGE_NAME : String := ".retention-prune"

/-- `name.endswith(suffix)` -/
def endsWith (name suffix : String) : Bool := suffix.toList.isSuffixOf name.toList

/-- The parts of a path between slashes. -/
def splitParts : List Char → List (List Char)
  | [] => [[]]
  | c :: rest =>
    match splitParts rest with
    | [] => [[c]]
    | part :: parts => if c = '/' then [] :: part :: parts else (c :: part) :: parts

/-- `Path(text).name`: the last part, where empty parts and `.` do not count. -/
def pathName (text : String) : String :=
  let parts := (splitParts text.toList).filter fun part => part ≠ [] ∧ part ≠ ['.']
  (parts.getLast?.map String.ofList).getD ""

/-- The name of the sidecar of an evidence file. -/
def sidecarName (evidenceName : String) : String := evidenceName ++ ".retention.json"

section
variable [Host]

/-- `_is_reserved_retained_evidence_name` -/
def isReservedRetainedEvidenceName (name : String) : Bool :=
  let reservedNames := [casefold RETENTION_FLOCK_NAME, casefold RETENTION_PRUNE_STAGE_NAME,
    casefold RETENTION_QUARANTINE_NAME]
  reservedNames.contains (casefold name) || endsWith (casefold name) ".retention.json"

end

/-! ## The manifest -/

inductive PersistenceMode where
  | metadataOnly | explicitContent | prohibited
deriving DecidableEq, Repr

/-- `PersistenceMode(text)` -/
def PersistenceMode.ofText (text : String) : Except Exn PersistenceMode :=
  if text = "metadata_only" then .ok metadataOnly
  else if text = "explicit_content" then .ok explicitContent
  else if text = "prohibited" then .ok prohibited
  else .error (valueError s!"'{text}' is not a valid PersistenceMode")

def PersistenceMode.str : PersistenceMode → String
  | metadataOnly => "metadata_only"
  | explicitContent => "explicit_content"
  | prohibited => "prohibited"

def RETENTION_MANIFEST_KEYS : List String :=
  ["evidence_path", "evidence_type", "created_at", "expires_at", "persistence",
    "content_included", "content_digest", "citation_ids"]

def overflowError (message : String) : Exn := ⟨.overflow, "OverflowError", message⟩

/-- The microseconds of the calendar, from the first year to the end of the last. -/
def calendarEnd : Int := Datetime.daysBeforeYear 10000 * 86400000000

/-- `_validated_manifest_timestamp`, as an instant in UTC. -/
def validatedManifestTimestamp : Json → Except Exn Int
  | .str value =>
    match Datetime.fromIsoformat value with
    | none => .error (valueError s!"Invalid isoformat string: '{value}'")
    | some parsed =>
      match parsed.instant? with
      | none => .error (valueError "retention timestamp must be timezone-aware")
      | some instant =>
        if parsed.isoformat ≠ value then
          .error (valueError "retention timestamp is not canonical")
        else if instant < 0 ∨ calendarEnd ≤ instant then
          .error (overflowError "date value out of range")
        else .ok instant
  | _ => .error (typeError "retention timestamp is invalid")

/-- The keys of a mapping are those of the schema. -/
def hasKeys (keys : List String) (fields : Fields) : Bool :=
  fields.all (fun field => keys.contains field.1) &&
    keys.all fun key => fields.any fun field => field.1 == key

section
variable [Host]

/-- `not isinstance(values, list) or any(not isinstance(value, str) or not value …) or …` -/
def citationIdsInvalid : Json → Bool
  | .arr values =>
    match asStrings values with
    | none => true
    | some texts => texts.any String.isEmpty || decide (¬texts.Nodup)
  | _ => true

/-- Is the text the name of a sibling file? -/
def isSiblingName (name : String) : Bool :=
  !name.isEmpty && name != "." && name != ".." && pathName name == name

/-! The checks of `_validate_retention_manifest`, one for each field. -/

def checkKeys (raw : Fields) : Except Exn Unit :=
  if hasKeys RETENTION_MANIFEST_KEYS raw then .ok ()
  else .error (valueError "retention sidecar fields are invalid")

/-- The sibling relationship: the name of the evidence and the name of its sidecar. -/
def checkEvidencePath (sidecar : String) : Json → Except Exn String
  | .str name =>
    if isSiblingName name && !isReservedRetainedEvidenceName name && sidecar == sidecarName name then
      .ok name
    else .error (valueError "retention evidence sibling relationship is invalid")
  | _ => .error (valueError "retention evidence sibling relationship is invalid")

def checkEvidenceType : Json → Except Exn Unit
  | .str evidenceType =>
    if isBlank evidenceType then .error (valueError "retention evidence_type is invalid") else .ok ()
  | _ => .error (valueError "retention evidence_type is invalid")

def checkOrder (createdAt expiresAt : Int) : Except Exn Unit :=
  if expiresAt ≤ createdAt then .error (valueError "retention expiration must follow creation")
  else .ok ()

def checkPersistence : Json → Except Exn PersistenceMode
  | .str text => do
    let persistence ← PersistenceMode.ofText text
    if persistence = .prohibited then .error (valueError "prohibited evidence must not be persisted")
    else .ok persistence
  | _ => .error (typeError "retention persistence is invalid")

def checkContentIncluded (persistence : PersistenceMode) : Json → Except Exn Unit
  | .bool contentIncluded =>
    if contentIncluded && persistence != .explicitContent then
      .error (valueError "retained content is inconsistent with persistence")
    else .ok ()
  | _ => .error (valueError "retention content_included is invalid")

def checkDigest : Json → Except Exn String
  | .str digest =>
    if isSha256 digest then .ok digest else .error (valueError "retention content digest is invalid")
  | _ => .error (valueError "retention content digest is invalid")

def checkCitationIds (citationIds : Json) : Except Exn Unit :=
  if citationIdsInvalid citationIds then .error (valueError "retention citation_ids are invalid")
  else .ok ()

/-- `_validate_retention_manifest`: the evidence name and the instant of expiry. -/
def validateRetentionManifest (raw : Fields) (sidecar : String) : Except Exn (String × Int) := do
  checkKeys raw
  let evidenceName ← checkEvidencePath sidecar (← item (.obj raw) "evidence_path")
  checkEvidenceType (← item (.obj raw) "evidence_type")
  let createdAt ← validatedManifestTimestamp (← item (.obj raw) "created_at")
  let expiresAt ← validatedManifestTimestamp (← item (.obj raw) "expires_at")
  checkOrder createdAt expiresAt
  let persistence ← checkPersistence (← item (.obj raw) "persistence")
  checkContentIncluded persistence (← item (.obj raw) "content_included")
  let _ ← checkDigest (← item (.obj raw) "content_digest")
  checkCitationIds (← item (.obj raw) "citation_ids")
  return (evidenceName, expiresAt)

/-- `content_digest` -/
def contentDigest (value : Json) : String := Host.sha256 value.dumps

/-- `manifest.get("content_digest")`, when it has the shape of a digest. -/
def expectedDigest (manifest : Fields) : Except Exn String :=
  checkDigest (((Json.obj manifest).get? "content_digest").getD .null)

end

/-- `json.loads(text, object_pairs_hook=_unique_json_object)`; `none` when the text is no JSON, a
member name occurs twice in an object, or the nesting is too deep. -/
class JsonDecoder where
  loads : String → Option Json

end MasterAgent.Retention
