import Mathlib.Computability.RegularExpressions
import MasterAgent.Models.Bindings

/-!
# Execution context

The runtime inputs, plugins and capability capsules bound to a plan, and the context that
gathers all execution bindings. Result: for each record, decoding what was encoded gives the
record back (`fromDict_toDict`).
-/

namespace MasterAgent
open Base

variable [Host]

/-! ## Runtime paths -/

structure RuntimePathFields where
  name : String
  path : String
  anchorPath : String
  device : Int
  inode : Int
  owner : Int
  mode : Int
  objectIdentity : Option PlatformObjectIdentity
deriving DecidableEq

namespace RuntimePathFields

/-- The explicit native identity, or the POSIX view of the legacy numbers. -/
def identity (x : RuntimePathFields) : Except Exn PlatformObjectIdentity :=
  match x.objectIdentity with
  | some identity => .ok identity
  | none => PlatformObjectIdentity.fromPosix .directory x.device x.inode x.owner x.mode

/-- The requirements on the identity. -/
def identityChecks (x : RuntimePathFields) : List Check :=
  match x.identity with
  | .error _ => [require false s!"runtime path execution binding {x.name} identity is invalid"]
  | .ok identity =>
      [require (identity.fields.kind = .directory)
          s!"runtime path execution binding {x.name} must identify a directory",
        if identity.fields.platform = "posix" then
          require ([some x.device, some x.inode, some x.owner, some x.mode] =
              [identity.fields.device, identity.fields.inode, identity.fields.owner,
                identity.fields.mode])
            s!"runtime path execution binding {x.name} POSIX identity drifted"
        else
          require ([x.device, x.inode, x.owner, x.mode] = [0, 0, 0, 0])
            s!"runtime path execution binding {x.name} mixes native identities"]

/-- What `RuntimePathExecutionBinding.__post_init__` requires. -/
def checks (x : RuntimePathFields) : List Check :=
  [require (!isBlank x.name) "runtime path execution binding name is empty",
    require (!isBlank x.path && Host.isAbsolute x.path)
      s!"runtime path execution binding {x.name} must be absolute",
    require (!isBlank x.anchorPath && Host.isAbsolute x.anchorPath)
      s!"runtime path execution binding {x.name} anchor must be absolute",
    require (x.anchorPath == x.path)
      s!"runtime path execution binding {x.name} must pin its exact path"] ++
    x.identityChecks

end RuntimePathFields

structure RuntimePathExecutionBinding where
  fields : RuntimePathFields
  valid : firstError fields.checks = none
deriving DecidableEq

namespace RuntimePathExecutionBinding

def make (x : RuntimePathFields) : Except Exn RuntimePathExecutionBinding :=
  build x.checks fun valid => ⟨x, valid⟩

def toDict (x : RuntimePathExecutionBinding) : Json :=
  .mkObj ([("name", .str x.fields.name),
    ("path", .str x.fields.path),
    ("anchor_path", .str x.fields.anchorPath),
    ("device", .int x.fields.device),
    ("inode", .int x.fields.inode),
    ("owner", .int x.fields.owner),
    ("mode", .int x.fields.mode)] ++
    match x.fields.objectIdentity with
    | none => []
    | some identity => [("object_identity", identity.toDict)])

/-- The optional native identity of a path payload. -/
def decodeIdentity (data : Json) : Except Exn (Option PlatformObjectIdentity) :=
  match data.get? "object_identity" with
  | none => .ok none
  | some raw =>
      if isObject raw then
        match PlatformObjectIdentity.fromDict raw with
        | .ok identity => .ok (some identity)
        | .error e =>
            if e.kind.isTypeError || e.kind.isValueError then
              .error (validationError "runtime path object identity is invalid")
            else .error e
      else .error (validationError "runtime path object identity is invalid")

/-- `int(data.get(name, -1))`. -/
def legacyInt (data : Json) (name : String) : Except Exn Int :=
  pyInt ((data.get? name).getD (.int (-1)))

def fromDict (data : Json) : Except Exn RuntimePathExecutionBinding := do
  let objectIdentity ← decodeIdentity data
  let name ← itemStr data "name"
  let path ← itemStr data "path"
  let device ← legacyInt data "device"
  let inode ← legacyInt data "inode"
  let owner ← legacyInt data "owner"
  let mode ← legacyInt data "mode"
  make {
    anchorPath := getStr data "anchor_path" ""
    name, path, device, inode, owner, mode, objectIdentity }

theorem decodeIdentity_toDict (x : RuntimePathExecutionBinding) :
    decodeIdentity x.toDict = .ok x.fields.objectIdentity := by
  cases identity : x.fields.objectIdentity with
  | none =>
      simp only [decodeIdentity, toDict, identity, List.append_nil, Json.get?_mkObj,
        Json.lookup_cons, String.reduceEq, reduceIte, List.lookup_nil]
  | some i =>
      have object : isObject i.toDict = true := rfl
      simp only [decodeIdentity, toDict, identity, List.cons_append, List.nil_append,
        Json.get?_mkObj, Json.lookup_cons, String.reduceEq, reduceIte, object,
        i.fromDict_toDict]

theorem fromDict_toDict (x : RuntimePathExecutionBinding) : fromDict x.toDict = .ok x := by
  unfold fromDict
  rw [decodeIdentity_toDict]
  simp only [toDict, itemStr, item, getStr, legacyInt, Json.get?_mkObj, List.cons_append,
    Json.lookup_cons, String.reduceEq, reduceIte, Except.map, pyStr_str, ok_bind,
    Option.getD_some, pyInt_int, Option.elim_some]
  exact build_ok x.valid

end RuntimePathExecutionBinding

/-! ## Runtime inputs -/

structure RuntimeExecutionBindingFields where
  connectorMode : String
  includeWrites : Bool
  includeCommunications : Bool
  auditDatabase : String
  artifactRoot : String
  workspaceRoot : Option String
  resultJson : Option String
  evidenceType : Option String
  configurations : List ConfigurationExecutionBinding
  runtimePaths : List RuntimePathExecutionBinding
  credentialFile : Option String
  publicationRoots : List RuntimePathExecutionBinding
  schema : String
deriving DecidableEq

/-- Equality of two dictionaries given by their items. -/
def sameDict (xs ys : List (String × String)) : Bool :=
  (xs.all fun (k, v) => ys.lookup k == some v) && ys.all fun (k, v) => xs.lookup k == some v

namespace RuntimeExecutionBindingFields

/-- The directories the run writes to. -/
def writableDirectories (x : RuntimeExecutionBindingFields) : List (String × String) :=
  [("audit.parent", Host.parent x.auditDatabase), ("artifact.root", x.artifactRoot)] ++
    x.resultJson.toList.map fun result => ("result.parent", Host.parent result)

def expectedRuntimePaths (x : RuntimeExecutionBindingFields) : List (String × String) :=
  [("audit.parent", Host.parent x.auditDatabase), ("artifact.root", x.artifactRoot)] ++
    x.workspaceRoot.toList.map (fun root => ("workspace.root", root)) ++
    x.resultJson.toList.map fun result => ("result.parent", Host.parent result)

/-- The native keys of the writable roots' identities. -/
def writableIdentities (x : RuntimeExecutionBindingFields) :
    List (Except Exn (String × String × String)) :=
  (x.runtimePaths.filter fun path =>
    ["audit.parent", "artifact.root", "result.parent"].contains path.fields.name).map
      fun path => path.fields.identity.map PlatformObjectIdentity.objectKey

/-- The bindings are kept sorted by name. -/
def normalize (x : RuntimeExecutionBindingFields) : RuntimeExecutionBindingFields :=
  { x with
    configurations := sortBy (·.name) x.configurations
    runtimePaths := sortBy (·.fields.name) x.runtimePaths
    publicationRoots := sortBy (·.fields.name) x.publicationRoots }

def absolutePath (name : String) (value : String) : Check :=
  require (!isBlank value && Host.isAbsolute value) s!"runtime {name} must be an absolute path"

/-- What `RuntimeExecutionBinding.__post_init__` requires once the bindings are sorted. -/
def checks (x : RuntimeExecutionBindingFields) : List Check :=
  [require (x.schema == "master-agent/runtime-execution-binding@2")
      "unsupported runtime execution binding schema",
    require (x.connectorMode == "mock" || x.connectorMode == "live")
      "runtime connector_mode must be mock or live",
    absolutePath "audit_database" x.auditDatabase,
    absolutePath "artifact_root" x.artifactRoot] ++
  x.workspaceRoot.toList.map (absolutePath "workspace_root") ++
  x.resultJson.toList.map (absolutePath "result_json") ++
  x.credentialFile.toList.map (absolutePath "credential_file") ++
  [require (x.resultJson.isNone == x.evidenceType.isNone)
      "runtime result_json and evidence_type must be supplied together",
    require (x.evidenceType.all (!isBlank ·)) "runtime evidence_type is empty",
    require (x.writableDirectories.map Prod.snd).Nodup
      "runtime audit, artifact, and result directories must be pairwise distinct",
    require (x.configurations.map (·.name)).Nodup
      "runtime configuration binding names must be unique",
    require (x.runtimePaths.map (·.fields.name)).Nodup
      "runtime path identity names must be unique",
    require (x.publicationRoots.map (·.fields.name)).Nodup
      "runtime publication root names must be unique",
    require (sameDict (x.runtimePaths.map fun path => (path.fields.name, path.fields.path))
      x.expectedRuntimePaths)
      "runtime path identities must exactly cover selected writable roots",
    require (x.writableIdentities.filterMap fun key => key.toOption).Nodup
      ("runtime audit, artifact, and result directory identities must be " ++
        "pairwise distinct")]

theorem normalize_normalize (x : RuntimeExecutionBindingFields) :
    x.normalize.normalize = x.normalize := by
  simp only [normalize, sortBy_sortBy]

end RuntimeExecutionBindingFields

structure RuntimeExecutionBinding where
  fields : RuntimeExecutionBindingFields
  normal : fields.normalize = fields
  valid : firstError fields.checks = none
deriving DecidableEq

namespace RuntimeExecutionBinding

def make (x : RuntimeExecutionBindingFields) : Except Exn RuntimeExecutionBinding :=
  build x.normalize.checks fun valid => ⟨x.normalize, x.normalize_normalize, valid⟩

theorem make_self (x : RuntimeExecutionBinding) : make x.fields = .ok x :=
  build_normal RuntimeExecutionBindingFields.normalize_normalize x.normal x.valid

def toDict (x : RuntimeExecutionBinding) : Json :=
  .mkObj ([("schema", .str x.fields.schema),
    ("connector_mode", .str x.fields.connectorMode),
    ("include_writes", .bool x.fields.includeWrites),
    ("include_communications", .bool x.fields.includeCommunications),
    ("audit_database", .str x.fields.auditDatabase),
    ("artifact_root", .str x.fields.artifactRoot),
    ("workspace_root", optStr x.fields.workspaceRoot),
    ("result_json", optStr x.fields.resultJson),
    ("evidence_type", optStr x.fields.evidenceType),
    ("configurations", .arr (x.fields.configurations.map ConfigurationExecutionBinding.toDict)),
    ("runtime_paths", .arr (x.fields.runtimePaths.map RuntimePathExecutionBinding.toDict)),
    ("publication_roots",
      .arr (x.fields.publicationRoots.map RuntimePathExecutionBinding.toDict))] ++
    match x.fields.credentialFile with
    | none => []
    | some file => [("credential_file", .str file)])

def fromDict (data : Json) : Except Exn RuntimeExecutionBinding := do
  let configurations ← objectList (data.get? "configurations")
    (validationError "runtime configurations must be a list of objects")
  let publicationRoots ← objectList (some ((data.get? "publication_roots").getD (.arr [])))
    (validationError "runtime publication_roots must be a list of objects")
  let runtimePaths ← objectList (data.get? "runtime_paths")
    (validationError "runtime runtime_paths must be a list of objects")
  let connectorMode ← itemStr data "connector_mode"
  let includeWrites ← strictBool (data.get? "include_writes") "runtime include_writes"
  let includeCommunications ← strictBool (data.get? "include_communications")
    "runtime include_communications"
  let auditDatabase ← itemStr data "audit_database"
  let artifactRoot ← itemStr data "artifact_root"
  let configurations ← configurations.mapM ConfigurationExecutionBinding.fromDict
  let runtimePaths ← runtimePaths.mapM RuntimePathExecutionBinding.fromDict
  let publicationRoots ← publicationRoots.mapM RuntimePathExecutionBinding.fromDict
  make {
    schema := getStr data "schema" ""
    workspaceRoot := getOptStr data "workspace_root"
    resultJson := getOptStr data "result_json"
    credentialFile := getOptStr data "credential_file"
    evidenceType := getOptStr data "evidence_type"
    connectorMode, includeWrites, includeCommunications, auditDatabase, artifactRoot,
    configurations, runtimePaths, publicationRoots }

theorem fromDict_toDict (x : RuntimeExecutionBinding) : fromDict x.toDict = .ok x := by
  have self := x.make_self
  have configurations := mapM_decode ConfigurationExecutionBinding.fromDict_toDict
    x.fields.configurations
  have runtimePaths := mapM_decode RuntimePathExecutionBinding.fromDict_toDict
    x.fields.runtimePaths
  have publicationRoots := mapM_decode RuntimePathExecutionBinding.fromDict_toDict
    x.fields.publicationRoots
  obtain ⟨fields, normal, valid⟩ := x
  cases file : fields.credentialFile <;>
  · simp only [fromDict, toDict, itemStr, item, getStr, getOptStr, present, strictBool, file,
      List.append_nil, List.cons_append, List.nil_append, Json.get?_mkObj, Json.lookup_cons,
      String.reduceEq, reduceIte, List.lookup_nil, Except.map, pyStr_str, ok_bind,
      Option.getD_some, Option.elim_some, map_optStr, map_str, Option.filter_none,
      Option.map_none]
    rw [objectList_map fun _ => rfl, ok_bind, objectList_map fun _ => rfl, ok_bind,
      objectList_map fun _ => rfl, ok_bind, configurations, ok_bind, runtimePaths, ok_bind,
      publicationRoots, ok_bind, ← file]
    exact self

end RuntimeExecutionBinding

/-! ## Plugins -/

structure PluginExecutionBindingFields where
  name : String
  group : String
  entryPoint : String
  distribution : String
  distributionVersion : String
  artifactSha256 : String
  identitySha256 : String
deriving DecidableEq

/-- What `PluginExecutionBinding.__post_init__` requires. -/
def PluginExecutionBindingFields.checks (x : PluginExecutionBindingFields) : List Check :=
  nonBlank [("name", x.name), ("group", x.group), ("entry_point", x.entryPoint),
    ("distribution", x.distribution), ("distribution_version", x.distributionVersion)]
    (fun name => s!"plugin execution binding {name} is empty") ++
  [validateSha256 x.artifactSha256 "plugin execution binding artifact_sha256",
    validateSha256 x.identitySha256 "plugin execution binding identity_sha256"]

structure PluginExecutionBinding where
  fields : PluginExecutionBindingFields
  valid : firstError fields.checks = none
deriving DecidableEq

namespace PluginExecutionBinding

def make (x : PluginExecutionBindingFields) : Except Exn PluginExecutionBinding :=
  build x.checks fun valid => ⟨x, valid⟩

def toDict (x : PluginExecutionBinding) : Json :=
  .mkObj [("name", .str x.fields.name),
    ("group", .str x.fields.group),
    ("entry_point", .str x.fields.entryPoint),
    ("distribution", .str x.fields.distribution),
    ("distribution_version", .str x.fields.distributionVersion),
    ("artifact_sha256", .str x.fields.artifactSha256),
    ("identity_sha256", .str x.fields.identitySha256)]

def fromDict (data : Json) : Except Exn PluginExecutionBinding := do
  let name ← itemStr data "name"
  let group ← itemStr data "group"
  let entryPoint ← itemStr data "entry_point"
  let distribution ← itemStr data "distribution"
  let distributionVersion ← itemStr data "distribution_version"
  let artifactSha256 ← itemStr data "artifact_sha256"
  let identitySha256 ← itemStr data "identity_sha256"
  make {
    name := name, group, entryPoint, distribution, distributionVersion, artifactSha256,
    identitySha256 }

theorem fromDict_toDict (x : PluginExecutionBinding) : fromDict x.toDict = .ok x := by
  simp only [fromDict, toDict, itemStr, item, Json.get?_mkObj, Json.lookup_cons,
    String.reduceEq, reduceIte, Except.map, pyStr_str, ok_bind]
  exact build_ok x.valid

end PluginExecutionBinding

/-! ## Capsules -/

structure CapsuleBindingFields where
  capabilityId : String
  version : String
  risk : RiskLevel
  manifestSha256 : String
  sourceSha256 : String
  artifactSha256 : String
  dependencyLockSha256 : String
  sbomSha256 : String
  testSuiteSha256 : String
  validationResultSha256 : String
  sandboxValidationSha256 : String
  verificationContractSha256 : String
  compensationContractSha256 : String
  policyContractSha256 : String
  workerSha256 : String
  publisher : String
  reviewer : String
  signerKeyId : String
  authenticatedPrincipal : String
  agentIdentity : String
  tenantId : String
  providerAccountId : String
  credentialProviderId : String
  allowedOrigins : List String
  allowedMethods : List String
  allowedPathPrefixes : List String
  credentialNames : List String
  credentialScopes : List String
  dataClassification : DataClassification
  retentionClass : String
  maxInputBytes : Int
  maxOutputBytes : Int
  timeoutSeconds : Int
  cpuSeconds : Int
  memoryBytes : Int
  maxProcesses : Int
  state : String
deriving DecidableEq

/-- `[a-z]` and its like, as the sum of its characters. -/
def charClass (cs : List Char) : RegularExpression Char :=
  cs.foldr (fun c r => .char c + r) 0

def lowerClass : List Char := "abcdefghijklmnopqrstuvwxyz".toList
def upperClass : List Char := "ABCDEFGHIJKLMNOPQRSTUVWXYZ".toList
def digitClass : List Char := "0123456789".toList

/-- `r+`. -/
def plus (r : RegularExpression Char) : RegularExpression Char := r * r.star

/-- `_CAPSULE_CAPABILITY_PATTERN`: lower-case names joined by `.`, `_` or `-`. -/
def capsuleCapabilityPattern : RegularExpression Char :=
  charClass lowerClass * (charClass (lowerClass ++ digitClass)).star *
    plus (charClass ['.', '_', '-'] * charClass (lowerClass ++ digitClass) *
      (charClass (lowerClass ++ digitClass ++ ['_', '-'])).star)

/-- `_CAPSULE_VERSION_PATTERN`: three numbers and an optional suffix. -/
def capsuleVersionPattern : RegularExpression Char :=
  plus (charClass digitClass) * .char '.' * plus (charClass digitClass) * .char '.' *
    plus (charClass digitClass) *
    (1 + charClass ['-', '+'] *
      plus (charClass (upperClass ++ lowerClass ++ digitClass ++ ['.', '-'])))

/-- `_validate_approval_claim`. -/
def validateApprovalClaim (value name : String) : List Check :=
  [require (value != "" && value == strip value) s!"{name} must be a non-empty normalized value",
    require (Host.nfc value == value) s!"{name} must use Unicode NFC normalization",
    rejectControlCharacters value name]

namespace CapsuleBindingFields

/-- The claims of a capsule, with the names its errors use. -/
def claims (x : CapsuleBindingFields) : List (String × String) :=
  [("publisher", x.publisher), ("reviewer", x.reviewer), ("signer_key_id", x.signerKeyId),
    ("authenticated_principal", x.authenticatedPrincipal), ("agent_identity", x.agentIdentity),
    ("tenant_id", x.tenantId), ("provider_account_id", x.providerAccountId),
    ("credential_provider_id", x.credentialProviderId), ("retention_class", x.retentionClass)]

/-- The digests of a capsule. -/
def digests (x : CapsuleBindingFields) : List (String × String) :=
  [("manifest_sha256", x.manifestSha256), ("source_sha256", x.sourceSha256),
    ("artifact_sha256", x.artifactSha256), ("dependency_lock_sha256", x.dependencyLockSha256),
    ("sbom_sha256", x.sbomSha256), ("test_suite_sha256", x.testSuiteSha256),
    ("validation_result_sha256", x.validationResultSha256),
    ("sandbox_validation_sha256", x.sandboxValidationSha256),
    ("verification_contract_sha256", x.verificationContractSha256),
    ("compensation_contract_sha256", x.compensationContractSha256),
    ("policy_contract_sha256", x.policyContractSha256), ("worker_sha256", x.workerSha256)]

/-- The text sets of a capsule. -/
def textSets (x : CapsuleBindingFields) : List (String × List String) :=
  [("allowed_origins", x.allowedOrigins), ("allowed_methods", x.allowedMethods),
    ("allowed_path_prefixes", x.allowedPathPrefixes), ("credential_names", x.credentialNames),
    ("credential_scopes", x.credentialScopes)]

/-- The limits of a capsule with their safe bounds. -/
def limits (x : CapsuleBindingFields) : List (String × Int × Int × Int) :=
  [("max_input_bytes", x.maxInputBytes, 1, 1024 * 1024),
    ("max_output_bytes", x.maxOutputBytes, 1, 1024 * 1024),
    ("timeout_seconds", x.timeoutSeconds, 1, 30), ("cpu_seconds", x.cpuSeconds, 1, 10),
    ("memory_bytes", x.memoryBytes, 32 * 1024 * 1024, 512 * 1024 * 1024),
    ("max_processes", x.maxProcesses, 1, 4)]

/-- What `CapabilityCapsuleExecutionBinding.__post_init__` requires. -/
def checks (x : CapsuleBindingFields) : List Check :=
  [validateBoundedString x.capabilityId "capsule binding capability_id",
    validateBoundedString x.version "capsule binding version",
    require (capsuleCapabilityPattern.rmatch x.capabilityId.toList)
      "capsule binding capability_id is malformed",
    require (capsuleVersionPattern.rmatch x.version.toList)
      "capsule binding version is malformed"] ++
  x.claims.flatMap (fun (name, value) =>
    require (value != "" && value == strip value)
      s!"capsule binding {name} is empty or malformed" ::
    validateApprovalClaim value s!"capsule binding {name}" ++
    [validateBoundedString value s!"capsule binding {name}"]) ++
  [require (casefold x.publisher != casefold x.reviewer)
      "capsule publisher and reviewer must be distinct",
    require (x.state == "enabled") "only enabled capability capsules may bind to plans"] ++
  x.digests.map (fun (name, value) => validateSha256 value s!"capsule binding {name}") ++
  x.textSets.flatMap (fun (name, values) =>
    require (values.Nodup && values.all fun value => value != "" && value == strip value)
      s!"capsule binding {name} is malformed" ::
    values.flatMap fun value =>
      [rejectControlCharacters value s!"capsule binding {name}",
        validateBoundedString value s!"capsule binding {name}"]) ++
  x.limits.map fun (name, value, minimum, maximum) =>
    require (minimum ≤ value && value ≤ maximum)
      s!"capsule binding {name} is outside its safe bound"

end CapsuleBindingFields

structure CapabilityCapsuleExecutionBinding where
  fields : CapsuleBindingFields
  valid : firstError fields.checks = none
deriving DecidableEq

namespace CapabilityCapsuleExecutionBinding

def make (x : CapsuleBindingFields) : Except Exn CapabilityCapsuleExecutionBinding :=
  build x.checks fun valid => ⟨x, valid⟩

def toDict (x : CapabilityCapsuleExecutionBinding) : Json :=
  .mkObj [("capability_id", .str x.fields.capabilityId),
    ("version", .str x.fields.version),
    ("risk", .str x.fields.risk.str),
    ("manifest_sha256", .str x.fields.manifestSha256),
    ("source_sha256", .str x.fields.sourceSha256),
    ("artifact_sha256", .str x.fields.artifactSha256),
    ("dependency_lock_sha256", .str x.fields.dependencyLockSha256),
    ("sbom_sha256", .str x.fields.sbomSha256),
    ("test_suite_sha256", .str x.fields.testSuiteSha256),
    ("validation_result_sha256", .str x.fields.validationResultSha256),
    ("sandbox_validation_sha256", .str x.fields.sandboxValidationSha256),
    ("verification_contract_sha256", .str x.fields.verificationContractSha256),
    ("compensation_contract_sha256", .str x.fields.compensationContractSha256),
    ("policy_contract_sha256", .str x.fields.policyContractSha256),
    ("worker_sha256", .str x.fields.workerSha256),
    ("publisher", .str x.fields.publisher),
    ("reviewer", .str x.fields.reviewer),
    ("signer_key_id", .str x.fields.signerKeyId),
    ("authenticated_principal", .str x.fields.authenticatedPrincipal),
    ("agent_identity", .str x.fields.agentIdentity),
    ("tenant_id", .str x.fields.tenantId),
    ("provider_account_id", .str x.fields.providerAccountId),
    ("credential_provider_id", .str x.fields.credentialProviderId),
    ("allowed_origins", textArray x.fields.allowedOrigins),
    ("allowed_methods", textArray x.fields.allowedMethods),
    ("allowed_path_prefixes", textArray x.fields.allowedPathPrefixes),
    ("credential_names", textArray x.fields.credentialNames),
    ("credential_scopes", textArray x.fields.credentialScopes),
    ("data_classification", .str x.fields.dataClassification.str),
    ("retention_class", .str x.fields.retentionClass),
    ("max_input_bytes", .int x.fields.maxInputBytes),
    ("max_output_bytes", .int x.fields.maxOutputBytes),
    ("timeout_seconds", .int x.fields.timeoutSeconds),
    ("cpu_seconds", .int x.fields.cpuSeconds),
    ("memory_bytes", .int x.fields.memoryBytes),
    ("max_processes", .int x.fields.maxProcesses),
    ("state", .str x.fields.state)]

/-- `_capsule_binding_strings`. -/
def bindingStrings (data : Json) (key : String) : Except Exn (List String) :=
  stringList (data.get? key) (validationError s!"capsule binding {key} must be a string list")

/-- `_required_positive_int`. -/
def requiredPositiveInt (data : Json) (key : String) : Except Exn Int :=
  match data.get? key with
  | some (.int n) =>
      if 0 < n then .ok n
      else .error (validationError s!"capsule binding {key} must be positive")
  | _ => .error (validationError s!"capsule binding {key} must be positive")

def fromDict (data : Json) : Except Exn CapabilityCapsuleExecutionBinding := do
  let capabilityId ← itemStr data "capability_id"
  let version ← itemStr data "version"
  let risk ← RiskLevel.parse (← itemStr data "risk")
  let manifestSha256 ← itemStr data "manifest_sha256"
  let sourceSha256 ← itemStr data "source_sha256"
  let artifactSha256 ← itemStr data "artifact_sha256"
  let dependencyLockSha256 ← itemStr data "dependency_lock_sha256"
  let sbomSha256 ← itemStr data "sbom_sha256"
  let testSuiteSha256 ← itemStr data "test_suite_sha256"
  let validationResultSha256 ← itemStr data "validation_result_sha256"
  let sandboxValidationSha256 ← itemStr data "sandbox_validation_sha256"
  let verificationContractSha256 ← itemStr data "verification_contract_sha256"
  let compensationContractSha256 ← itemStr data "compensation_contract_sha256"
  let policyContractSha256 ← itemStr data "policy_contract_sha256"
  let workerSha256 ← itemStr data "worker_sha256"
  let publisher ← itemStr data "publisher"
  let reviewer ← itemStr data "reviewer"
  let signerKeyId ← itemStr data "signer_key_id"
  let authenticatedPrincipal ← itemStr data "authenticated_principal"
  let agentIdentity ← itemStr data "agent_identity"
  let tenantId ← itemStr data "tenant_id"
  let providerAccountId ← itemStr data "provider_account_id"
  let credentialProviderId ← itemStr data "credential_provider_id"
  let allowedOrigins ← bindingStrings data "allowed_origins"
  let allowedMethods ← bindingStrings data "allowed_methods"
  let allowedPathPrefixes ← bindingStrings data "allowed_path_prefixes"
  let credentialNames ← bindingStrings data "credential_names"
  let credentialScopes ← bindingStrings data "credential_scopes"
  let dataClassification ← DataClassification.parse (← itemStr data "data_classification")
  let retentionClass ← itemStr data "retention_class"
  let maxInputBytes ← requiredPositiveInt data "max_input_bytes"
  let maxOutputBytes ← requiredPositiveInt data "max_output_bytes"
  let timeoutSeconds ← requiredPositiveInt data "timeout_seconds"
  let cpuSeconds ← requiredPositiveInt data "cpu_seconds"
  let memoryBytes ← requiredPositiveInt data "memory_bytes"
  let maxProcesses ← requiredPositiveInt data "max_processes"
  let state ← itemStr data "state"
  make {
    capabilityId := capabilityId, version, risk, manifestSha256, sourceSha256, artifactSha256,
    dependencyLockSha256, sbomSha256, testSuiteSha256, validationResultSha256,
    sandboxValidationSha256, verificationContractSha256, compensationContractSha256,
    policyContractSha256, workerSha256, publisher, reviewer, signerKeyId, authenticatedPrincipal,
    agentIdentity, tenantId, providerAccountId, credentialProviderId, allowedOrigins,
    allowedMethods, allowedPathPrefixes, credentialNames, credentialScopes, dataClassification,
    retentionClass, maxInputBytes, maxOutputBytes, timeoutSeconds, cpuSeconds, memoryBytes,
    maxProcesses, state }

/-- The limits of a capsule are positive. -/
theorem limits_positive (x : CapabilityCapsuleExecutionBinding) :
    0 < x.fields.maxInputBytes ∧ 0 < x.fields.maxOutputBytes ∧ 0 < x.fields.timeoutSeconds ∧
      0 < x.fields.cpuSeconds ∧ 0 < x.fields.memoryBytes ∧ 0 < x.fields.maxProcesses := by
  have facts := firstError_none.mp x.valid
  have above : ∀ l ∈ x.fields.limits, l.2.2.1 ≤ l.2.1 := by
    intro l h
    have check := facts _ (List.mem_append_right _ (List.mem_map.mpr ⟨_, h, rfl⟩))
    simp only [require, Bool.and_eq_true, decide_eq_true_eq] at check
    exact check.1
  simp only [CapsuleBindingFields.limits, List.mem_cons, List.not_mem_nil, or_false,
    forall_eq_or_imp, forall_eq] at above
  omega

theorem fromDict_toDict (x : CapabilityCapsuleExecutionBinding) :
    fromDict x.toDict = .ok x := by
  obtain ⟨input, output, timeout, cpu, memory, processes⟩ := x.limits_positive
  simp only [fromDict, toDict, itemStr, item, bindingStrings, requiredPositiveInt, textArray,
    Json.get?_mkObj, Json.lookup_cons, String.reduceEq, reduceIte, Except.map, pyStr_str,
    ok_bind, stringList_map, RiskLevel.parse_str, DataClassification.parse_str, if_pos input,
    if_pos output, if_pos timeout, if_pos cpu, if_pos memory, if_pos processes]
  exact build_ok x.valid

end CapabilityCapsuleExecutionBinding

/-! ## Context -/

structure ExecutionContextFields where
  integrationsSha256 : String
  connectors : List ConnectorExecutionBinding
  plugins : List PluginExecutionBinding
  capsules : List CapabilityCapsuleExecutionBinding
  runtime : Option RuntimeExecutionBinding
  schema : String
deriving DecidableEq

namespace ExecutionContextFields

/-- The order of capsules by capability and version. -/
def capsuleLe (a b : CapabilityCapsuleExecutionBinding) : Prop :=
  a.fields.capabilityId < b.fields.capabilityId ∨
    a.fields.capabilityId = b.fields.capabilityId ∧ a.fields.version ≤ b.fields.version

instance (a b : CapabilityCapsuleExecutionBinding) : Decidable (capsuleLe a b) :=
  inferInstanceAs (Decidable (_ ∨ _ ∧ _))

def sortCapsules (xs : List CapabilityCapsuleExecutionBinding) :
    List CapabilityCapsuleExecutionBinding :=
  xs.insertionSort capsuleLe

theorem sortCapsules_sortCapsules (xs : List CapabilityCapsuleExecutionBinding) :
    sortCapsules (sortCapsules xs) = sortCapsules xs := by
  have total : Std.Total capsuleLe := by
    refine ⟨fun a b => ?_⟩
    rcases lt_trichotomy a.fields.capabilityId b.fields.capabilityId with h | h | h
    · exact .inl (.inl h)
    · exact (String.le_total a.fields.version b.fields.version).imp (fun v => .inr ⟨h, v⟩)
        fun v => .inr ⟨h.symm, v⟩
    · exact .inr (.inl h)
  have trans : IsTrans CapabilityCapsuleExecutionBinding capsuleLe := by
    refine ⟨fun a b c hab hbc => ?_⟩
    rcases hab with hab | ⟨hab, vab⟩
    · rcases hbc with hbc | ⟨hbc, _⟩
      · exact .inl (lt_trans hab hbc)
      · exact .inl (hbc ▸ hab)
    · rcases hbc with hbc | ⟨hbc, vbc⟩
      · exact .inl (hab ▸ hbc)
      · exact .inr ⟨hab.trans hbc, String.le_trans vab vbc⟩
  exact (List.pairwise_insertionSort _ xs).insertionSort_eq

/-- The bindings are kept sorted. -/
def normalize (x : ExecutionContextFields) : ExecutionContextFields :=
  { x with
    connectors := sortBy (·.fields.system) x.connectors
    plugins := sortBy (·.fields.name) x.plugins
    capsules := sortCapsules x.capsules }

/-- What `ExecutionContext.__post_init__` requires once the bindings are sorted. -/
def checks (x : ExecutionContextFields) : List Check :=
  [require (x.schema == "master-agent/execution-context@2")
      "unsupported execution context schema",
    validateSha256 x.integrationsSha256 "execution context integrations_sha256",
    require (x.connectors.map (·.fields.system)).Nodup
      "execution context connector systems must be unique",
    require (x.plugins.map (·.fields.name)).Nodup
      "execution context plugin names must be unique",
    require (x.capsules.map (·.fields.capabilityId)).Nodup
      "execution context capsule capabilities must be unique"]

end ExecutionContextFields

structure ExecutionContext where
  fields : ExecutionContextFields
  normal : fields.normalize = fields
  valid : firstError fields.checks = none
deriving DecidableEq

namespace ExecutionContext

theorem normalize_normalize (x : ExecutionContextFields) :
    x.normalize.normalize = x.normalize := by
  simp only [ExecutionContextFields.normalize, sortBy_sortBy,
    ExecutionContextFields.sortCapsules_sortCapsules]

def make (x : ExecutionContextFields) : Except Exn ExecutionContext :=
  build x.normalize.checks fun valid => ⟨x.normalize, normalize_normalize x, valid⟩

theorem make_self (x : ExecutionContext) : make x.fields = .ok x :=
  build_normal normalize_normalize x.normal x.valid

def toDict (x : ExecutionContext) : Json :=
  .mkObj ([("schema", .str x.fields.schema),
    ("integrations_sha256", .str x.fields.integrationsSha256),
    ("connectors", .arr (x.fields.connectors.map ConnectorExecutionBinding.toDict)),
    ("plugins", .arr (x.fields.plugins.map PluginExecutionBinding.toDict))] ++
    optField "runtime" (x.fields.runtime.map RuntimeExecutionBinding.toDict) ++
    optField "capsules" (if x.fields.capsules = [] then none
      else some (.arr (x.fields.capsules.map CapabilityCapsuleExecutionBinding.toDict))))

def fingerprint (x : ExecutionContext) : String := stableSha256 x.toDict

/-- A member of a context payload that must be a list. -/
def contextList (name : String) : Option Json → Except Exn (List Json)
  | some (.arr items) => .ok items
  | _ => .error (validationError s!"execution context {name} must be a list")

/-- The items of a context payload's list must be objects. -/
def contextObjects (name : String) (items : List Json) : Except Exn Unit :=
  if items.all isObject then .ok ()
  else .error (validationError s!"execution context {name} must be objects")

omit [Host] in
theorem contextObjects_map {R : Type} {toDict : R → Json} {xs : List R} {name : String}
    (h : ∀ x, isObject (toDict x) = true) : contextObjects name (xs.map toDict) = .ok () := by
  simp [contextObjects, h]

/-- The optional runtime binding of a context payload. -/
def decodeRuntime (data : Json) : Except Exn (Option RuntimeExecutionBinding) :=
  if (present data "runtime").isSome then do
    let runtime ← expectMapping data "runtime"
    (RuntimeExecutionBinding.fromDict runtime).map some
  else .ok none

def fromDict (data : Json) : Except Exn ExecutionContext :=
  if data.get? "schema" ≠ some (.str "master-agent/execution-context@2") then
    .error (validationError "unsupported execution context schema")
  else do
    let connectors ← contextList "connectors" (data.get? "connectors")
    let plugins ← contextList "plugins" (data.get? "plugins")
    let capsules ← contextList "capsules" (some ((data.get? "capsules").getD (.arr [])))
    contextObjects "connectors" connectors
    contextObjects "plugins" plugins
    contextObjects "capsules" capsules
    let integrationsSha256 ← itemStr data "integrations_sha256"
    let connectors ← connectors.mapM ConnectorExecutionBinding.fromDict
    let plugins ← plugins.mapM PluginExecutionBinding.fromDict
    let capsules ← capsules.mapM CapabilityCapsuleExecutionBinding.fromDict
    let runtime ← decodeRuntime data
    make {
      schema := getStr data "schema" ""
      integrationsSha256, connectors, plugins, capsules, runtime }

/-- The optional members of a context payload. -/
theorem get?_runtime (x : ExecutionContext) :
    x.toDict.get? "runtime" = x.fields.runtime.map RuntimeExecutionBinding.toDict := by
  simp only [toDict, Json.get?_mkObj, List.lookup_append, Json.lookup_cons, String.reduceEq,
    reduceIte, List.lookup_nil, lookup_optField, Option.none_or, Option.or_none]

theorem get?_capsules (x : ExecutionContext) : (x.toDict.get? "capsules").getD (.arr []) =
    .arr (x.fields.capsules.map CapabilityCapsuleExecutionBinding.toDict) := by
  simp only [toDict, Json.get?_mkObj, List.lookup_append, Json.lookup_cons, String.reduceEq,
    reduceIte, List.lookup_nil, lookup_optField, Option.none_or]
  split
  · next empty => rw [empty]; rfl
  · rfl

theorem decodeRuntime_toDict (x : ExecutionContext) :
    decodeRuntime x.toDict = .ok x.fields.runtime := by
  unfold decodeRuntime present expectMapping
  rw [get?_runtime]
  cases runtime : x.fields.runtime with
  | none => rfl
  | some r =>
      have object : isObject r.toDict = true := rfl
      simp only [Option.map_some, Option.filter_some, object_not_null object, Bool.not_false,
        reduceIte, Option.isSome_some, object, ok_bind, r.fromDict_toDict, Except.map]

theorem fromDict_toDict (x : ExecutionContext) : fromDict x.toDict = .ok x := by
  have schema : x.fields.schema = "master-agent/execution-context@2" := by
    have check := firstError_none.mp x.valid _ List.mem_cons_self
    simpa [require] using check
  have connectors := mapM_decode ConnectorExecutionBinding.fromDict_toDict x.fields.connectors
  have plugins := mapM_decode PluginExecutionBinding.fromDict_toDict x.fields.plugins
  have capsules := mapM_decode CapabilityCapsuleExecutionBinding.fromDict_toDict
    x.fields.capsules
  unfold fromDict
  rw [get?_capsules, decodeRuntime_toDict]
  simp only [toDict, itemStr, item, getStr, Json.get?_mkObj, List.lookup_append,
    Json.lookup_cons, String.reduceEq, reduceIte, Option.some_or, contextList, ok_bind,
    Except.map, pyStr_str, Option.elim_some, schema, ne_eq, not_true_eq_false]
  rw [contextObjects_map fun _ => rfl, ok_bind, contextObjects_map fun _ => rfl, ok_bind,
    contextObjects_map fun _ => rfl, ok_bind, connectors, ok_bind, plugins, ok_bind, capsules,
    ok_bind, ← schema]
  exact x.make_self

end ExecutionContext

end MasterAgent
