import MasterAgent.Base.Calendar
import MasterAgent.Base.JsonLoads
import MasterAgent.Policy.Engine
import MasterAgent.Retention.Pairs

/-!
# Writing retained evidence

`write_retained_json`, `write_retained_text` and the commit of a reservation: the evidence file
with its sidecar. What a writer returns is what it leaves on a file system that fails no call.
-/

namespace MasterAgent.Retention
open Base

/-! ## Rules -/

structure RetentionRule where
  pattern : String
  ttlHours : Int
  persistence : PersistenceMode
  named : isBlank pattern = false
  positive : 0 < ttlHours

structure RetentionConfig where
  default : RetentionRule
  rules : List RetentionRule

def PersistenceMode.restriction : PersistenceMode → Int
  | explicitContent => 0
  | metadataOnly => 1
  | prohibited => 2

/-- The key under which `decide` compares rules: the restriction, the shortest time, and
`_pattern_specificity`. -/
def RetentionRule.rank (rule : RetentionRule) : List Int :=
  let characters := rule.pattern.toList
  let wildcards := (characters.count '*' : Int) + characters.count '?'
  [rule.persistence.restriction, -rule.ttlHours, characters.length - wildcards, -wildcards,
    characters.length]

/-- `decide`: the most restrictive rule that matches. -/
def RetentionConfig.decide (config : RetentionConfig) (evidenceType : String) : RetentionRule :=
  let matched := config.rules.filter fun rule => fnmatch evidenceType rule.pattern
  (matched.maxOn? RetentionRule.rank).getD config.default

/-- `_permitted_rule` -/
def permittedRule (config : RetentionConfig) (evidenceType : String) (includeContent : Bool) :
    Except Exn RetentionRule :=
  if isBlank evidenceType then
    .error (configurationError "retention evidence_type must not be empty")
  else
    let rule := config.decide evidenceType
    if rule.persistence = .prohibited then
      .error (configurationError s!"retention policy prohibits persistence for {evidenceType}")
    else if includeContent ∧ rule.persistence ≠ .explicitContent then
      .error (configurationError
        s!"retention policy does not permit content persistence for {evidenceType}")
    else .ok rule

/-- `_aware_utc` -/
def awareUtc (now : Datetime) : Except Exn Datetime :=
  let utc := match now.instant? with
    | none => Datetime.make? now.year now.month now.day now.hour now.minute now.second now.micro
        (some 0)
    | some instant => if instant < 0 then none else Datetime.ofWall instant.toNat
  match utc with
  | none => .error (overflowError "date value out of range")
  | some utc => .ok utc

/-! ## Documents -/

/-- `float` on the text of a number with a point or an exponent; `none` when the number is not
finite. -/
class FloatReader where
  read : String → Option FloatText

/-- `_unique_json_object` -/
def uniqueJsonObject (pairs : Fields) : Option Fields :=
  if (pairs.map Prod.fst).Nodup then some (Json.mkFields pairs) else none

theorem uniqueJsonObject_sorted {fields : Fields} (sorted : Json.SortedNames fields) :
    uniqueJsonObject fields = some fields := by
  have apart : (fields.map Prod.fst).Nodup := sorted.imp fun less => less.ne
  rw [uniqueJsonObject, if_pos apart, Json.mkFields_of_sorted sorted]

/-- `_load_json_bytes` of a text. -/
instance [FloatReader] : JsonDecoder where
  loads text := Json.loads ⟨FloatReader.read, uniqueJsonObject⟩ text

/-- `json.dumps(value, indent=2, ensure_ascii=False) + "\n"` of the members in their order. -/
def dumpsIndented (members : Fields) : String :=
  String.ofList (Json.render Json.indented 0 (.obj members) ++ [Char.ofNat 10])

/-! ## The manifest -/

structure RetentionManifest where
  evidencePath : String
  evidenceType : String
  createdAt : String
  expiresAt : String
  persistence : PersistenceMode
  contentIncluded : Bool
  contentDigest : String
  citationIds : List String
deriving DecidableEq

/-- `to_dict` -/
def RetentionManifest.toDict (manifest : RetentionManifest) : Fields :=
  [("evidence_path", .str manifest.evidencePath), ("evidence_type", .str manifest.evidenceType),
    ("created_at", .str manifest.createdAt), ("expires_at", .str manifest.expiresAt),
    ("persistence", .str manifest.persistence.str),
    ("content_included", .bool manifest.contentIncluded),
    ("content_digest", .str manifest.contentDigest),
    ("citation_ids", .arr (manifest.citationIds.map .str))]

section
variable [Host]

/-- `_retention_sidecar_path`. The suffix of the path is replaced by itself with the suffix of
sidecars after it. -/
def retentionSidecarPath (name : String) : Except Exn String :=
  if isReservedRetainedEvidenceName name then
    .error (configurationError "retained evidence filename is reserved")
  else if sidecarName name = name then
    .error (configurationError "retained evidence names must be distinct")
  else .ok (sidecarName name)

/-- The microseconds of `timedelta(hours=rule.ttl_hours)`. -/
def RetentionRule.ttl (rule : RetentionRule) : Int := rule.ttlHours * 3600000000

/-- `created + timedelta(hours=rule.ttl_hours)` -/
def expiry (created : Datetime) (rule : RetentionRule) : Except Exn Datetime :=
  match created.later rule.ttl with
  | none => .error (overflowError "date value out of range")
  | some expires => .ok expires

/-- What `_build_manifest` is given. -/
structure ManifestRequest where
  evidenceType : String
  rule : RetentionRule
  created : Datetime
  contentIncluded : Bool
  digest : String
  citationIds : List String

/-- The manifest that is built for a request. -/
def ManifestRequest.manifest (request : ManifestRequest) (name : String) (expires : Datetime) :
    RetentionManifest where
  evidencePath := name
  evidenceType := request.evidenceType
  createdAt := request.created.isoformat
  expiresAt := expires.isoformat
  persistence := request.rule.persistence
  contentIncluded := request.contentIncluded
  contentDigest := request.digest
  citationIds := request.citationIds.eraseDups

/-- `_build_manifest`: the name of the sidecar and the manifest. -/
def buildManifest (name : String) (request : ManifestRequest) :
    Except Exn (String × RetentionManifest) := do
  let sidecar ← retentionSidecarPath name
  demand (!request.citationIds.any String.isEmpty)
    (configurationError "retention citation_ids are invalid")
  let expires ← expiry request.created request.rule
  let manifest := request.manifest name expires
  match validateRetentionManifest (Json.mkFields manifest.toDict) sidecar with
  | .ok _ => return (sidecar, manifest)
  | .error raised =>
    -- `except (TypeError, ValueError)`
    if raised.kind.isTypeError || raised.kind == .valueError then
      throw (configurationError "generated retention manifest is invalid")
    else throw raised

end

/-! ## Files -/

/-- An evidence file and its sidecar. -/
structure RetainedFiles where
  name : String
  evidence : String
  sidecar : String
  manifest : String
deriving DecidableEq

/-- What `_atomic_write_files` asks of the two files before it creates them. -/
def atomicWriteFiles (files : RetainedFiles) : Except Exn RetainedFiles :=
  if !isSiblingName files.name || !isSiblingName files.sidecar then
    .error (configurationError "retained evidence must be an immediate child of its pinned parent")
  else if files.evidence.utf8ByteSize > MAX_REPAIR_FILE_BYTES ∨
      files.manifest.utf8ByteSize > MAX_REPAIR_FILE_BYTES then
    .error (configurationError "retained evidence exceeds the descriptor validation size limit")
  else .ok files

/-! ## The writers -/

section
variable [Host] [FloatReader]

/-- `_serialize_retained_json`: the text, and the value that the text reads back as. -/
def serializeRetainedJson (value : Fields) : Except Exn (String × Fields) :=
  let payload := dumpsIndented value
  match JsonDecoder.loads payload with
  | none => .error (configurationError "retained JSON evidence is not serializable")
  | some (.obj normalized) => .ok (payload, normalized)
  | some _ => .error (configurationError "retained JSON evidence must be an object")

/-- The truth value of a JSON value. -/
def isTrue : Json → Bool
  | .null => false
  | .bool b => b
  | .int n => n != 0
  | .float f => f.text != "0.0" && f.text != "-0.0"
  | .str s => !s.isEmpty
  | .arr items => !items.isEmpty
  | .obj fields => !fields.isEmpty

/-- The citation identifier of one citation. -/
def citationId : Json → Option String
  | .obj members =>
    match (Json.obj members).get? "citation_id" with
    | some value => if isTrue value then some (pyStr value) else none
    | none => none
  | _ => none

/-- The identifiers of `normalized.get("citations", [])`. The characters of a text and the keys of
a mapping are no citations. -/
def citationIdsOf (normalized : Fields) : Except Exn (List String) :=
  match ((Json.obj normalized).get? "citations").getD (.arr []) with
  | .arr citations => .ok (citations.filterMap citationId)
  | .str _ | .obj _ => .ok []
  | _ => .error (typeError "citations are not iterable")

/-- What both JSON writers do once the rule and the time are fixed. -/
def retainJson (name evidenceType : String) (rule : RetentionRule) (created : Datetime)
    (contentIncluded : Bool) (output : Fields) : Except Exn RetainedFiles := do
  let (payload, normalized) ← serializeRetainedJson output
  let citationIds ← citationIdsOf normalized
  let digest := contentDigest (.obj normalized)
  let (sidecar, manifest) ←
    buildManifest name ⟨evidenceType, rule, created, contentIncluded, digest, citationIds⟩
  atomicWriteFiles ⟨name, payload, sidecar, dumpsIndented manifest.toDict⟩

variable (metadataOnly : Fields → Except Exn Fields)

/-- `dict(payload) if include_content else _metadata_only(payload)`. The payload has the members
that `json.dumps` writes, a name as often as it writes it; what `_metadata_only` keeps of it is a
parameter. -/
def projected (includeContent : Bool) (payload : Fields) : Except Exn Fields :=
  if includeContent then .ok payload else metadataOnly payload

/-- `write_retained_json` -/
def writeRetainedJson (config : RetentionConfig) (name : String) (payload : Fields)
    (evidenceType : String) (includeContent : Bool) (now : Datetime) :
    Except Exn RetainedFiles := do
  let rule ← permittedRule config evidenceType includeContent
  let created ← awareUtc now
  let output ← projected metadataOnly includeContent payload
  retainJson name evidenceType rule created includeContent output

/-- `write_retained_text` -/
def writeRetainedText (config : RetentionConfig) (name content evidenceType : String)
    (citationIds : List String) (now : Datetime) : Except Exn RetainedFiles := do
  let rule ← permittedRule config evidenceType true
  let created ← awareUtc now
  let digest := contentDigest (.str content)
  let (sidecar, manifest) ←
    buildManifest name ⟨evidenceType, rule, created, true, digest, citationIds⟩
  atomicWriteFiles ⟨name, content, sidecar, dumpsIndented manifest.toDict⟩

/-- `RetainedJSONReservation`, while it holds its two names. -/
structure RetainedJSONReservation where
  rule : RetentionRule
  evidenceType : String
  includeContent : Bool
  createdAt : Datetime
  evidenceName : String
  sidecar : String

/-- The constructor. -/
def RetainedJSONReservation.open (config : RetentionConfig) (name evidenceType : String)
    (includeContent : Bool) (now : Datetime) : Except Exn RetainedJSONReservation := do
  let rule ← permittedRule config evidenceType includeContent
  let createdAt ← awareUtc now
  demand (isSiblingName name)
    (configurationError "retained evidence must be an immediate child of its pinned parent")
  let sidecar ← retentionSidecarPath name
  return ⟨rule, evidenceType, includeContent, createdAt, name, sidecar⟩

/-- `commit` -/
def RetainedJSONReservation.commit (reservation : RetainedJSONReservation) (payload : Fields) :
    Except Exn RetainedFiles := do
  let output ← projected metadataOnly reservation.includeContent payload
  retainJson reservation.evidenceName reservation.evidenceType reservation.rule
    reservation.createdAt reservation.includeContent output

end

end MasterAgent.Retention
