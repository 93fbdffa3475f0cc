import MasterAgent.Models.Action

/-!
# Execution bindings

The reviewed identities a plan is executed with: connector destinations, configuration
digests, runtime paths, plugins and capability capsules. Result: for each record, decoding
what was encoded gives the record back (`fromDict_toDict`).
-/

namespace MasterAgent
open Base

/-- A blank text among named ones is refused with a message made of its name. -/
def nonBlank (texts : List (String × String)) (message : String → String) : List Check :=
  texts.map fun (name, value) => require (!isBlank value) (message name)

variable [Host]

/-! ## Connectors -/

structure ConnectorExecutionBindingFields where
  system : String
  deployment : String
  configIdentitySha256 : String
  resolvedBaseUrl : String
  resolvedOrigin : String
  implementation : String
  authenticationMode : String
  credentialScopes : List String
  credentialIdentity : Option String
  caBundlePath : Option String
  caBundleSha256 : Option String
  networkProfileName : String
  networkProfileSha256 : Option String
  proxyOrigin : Option String
deriving DecidableEq

/-- A proxy origin is an HTTP URL without credentials, path, query or fragment. -/
def proxyOriginCheck (origin : String) : Check :=
  match Host.urlsplit origin with
  | .error e => (false, e)
  | .ok u =>
      require (u.scheme == "http" && u.hostname.any (· != "") && u.username.isNone &&
        u.password.isNone && (u.path == "" || u.path == "/") && u.query == "" && u.fragment == "")
        "connector execution binding proxy origin is invalid"

/-- What `ConnectorExecutionBinding.__post_init__` requires once the scopes are sorted. -/
def ConnectorExecutionBindingFields.checks (x : ConnectorExecutionBindingFields) : List Check :=
  nonBlank [("system", x.system), ("deployment", x.deployment),
    ("implementation", x.implementation), ("resolved_base_url", x.resolvedBaseUrl),
    ("resolved_origin", x.resolvedOrigin), ("authentication_mode", x.authenticationMode)]
    (fun name => s!"connector execution binding {name} is empty") ++
  [require (x.implementation == "native")
      "connector execution binding implementation is unsupported",
    validateSha256 x.configIdentitySha256 "connector execution binding config_identity_sha256",
    require (x.caBundlePath.isNone == x.caBundleSha256.isNone)
      "connector execution binding CA path and digest must be supplied together",
    require (x.credentialIdentity.all (!isBlank ·))
      "connector execution binding credential_identity is empty",
    require (x.credentialScopes.all (!isBlank ·))
      "connector execution binding credential scope is empty",
    require (x.credentialScopes.length ≤ 128 && x.credentialScopes.all (·.length ≤ 256))
      "connector execution binding credential scopes are too large"] ++
  x.credentialScopes.map
    (rejectControlCharacters · "connector execution binding credential scope") ++
  [require (x.caBundlePath.all (!isBlank ·)) "connector execution binding CA path is empty"] ++
  x.caBundleSha256.toList.map
    (validateSha256 · "connector execution binding ca_bundle_sha256") ++
  [require (!isBlank x.networkProfileName)
    "connector execution binding network profile name is empty"] ++
  x.networkProfileSha256.toList.map
    (validateSha256 · "connector execution binding network_profile_sha256") ++
  x.proxyOrigin.toList.map proxyOriginCheck

/-- The scopes are kept sorted and without duplicates. -/
def ConnectorExecutionBindingFields.normalize (x : ConnectorExecutionBindingFields) :
    ConnectorExecutionBindingFields :=
  { x with credentialScopes := sortedSet x.credentialScopes }

structure ConnectorExecutionBinding where
  fields : ConnectorExecutionBindingFields
  normal : fields.normalize = fields
  valid : firstError fields.checks = none
deriving DecidableEq

namespace ConnectorExecutionBinding

omit [Host] in
theorem normalize_normalize (x : ConnectorExecutionBindingFields) :
    x.normalize.normalize = x.normalize := by
  simp only [ConnectorExecutionBindingFields.normalize, sortedSet_sortedSet]

def make (x : ConnectorExecutionBindingFields) : Except Exn ConnectorExecutionBinding :=
  build x.normalize.checks fun valid => ⟨x.normalize, normalize_normalize x, valid⟩

theorem make_self (x : ConnectorExecutionBinding) : make x.fields = .ok x :=
  build_normal normalize_normalize x.normal x.valid

def toDict (x : ConnectorExecutionBinding) : Json :=
  .mkObj ([("system", .str x.fields.system),
    ("deployment", .str x.fields.deployment),
    ("implementation", .str x.fields.implementation),
    ("config_identity_sha256", .str x.fields.configIdentitySha256),
    ("resolved_base_url", .str x.fields.resolvedBaseUrl),
    ("resolved_origin", .str x.fields.resolvedOrigin),
    ("authentication_mode", .str x.fields.authenticationMode),
    ("ca_bundle_path", optStr x.fields.caBundlePath),
    ("ca_bundle_sha256", optStr x.fields.caBundleSha256),
    ("network_profile_name", .str x.fields.networkProfileName),
    ("network_profile_sha256", optStr x.fields.networkProfileSha256),
    ("proxy_origin", optStr x.fields.proxyOrigin),
    ("credential_scopes", textArray x.fields.credentialScopes)] ++
    match x.fields.credentialIdentity with
    | none => []
    | some identity => [("credential_identity", .str identity)])

def fromDict (data : Json) : Except Exn ConnectorExecutionBinding :=
  if (data.get? "implementation").isNone then
    .error (validationError "connector execution binding implementation is required")
  else do
    let credentialScopes ← stringList
      (some ((data.get? "credential_scopes").getD (.arr [])))
      (validationError "connector execution binding credential_scopes must be strings")
    let system ← itemStr data "system"
    let deployment ← itemStr data "deployment"
    let implementation ← itemStr data "implementation"
    let configIdentitySha256 ← itemStr data "config_identity_sha256"
    let resolvedBaseUrl ← itemStr data "resolved_base_url"
    let resolvedOrigin ← itemStr data "resolved_origin"
    make {
      authenticationMode := getStr data "authentication_mode" "none"
      credentialIdentity := getOptStr data "credential_identity"
      caBundlePath := getOptStr data "ca_bundle_path"
      caBundleSha256 := getOptStr data "ca_bundle_sha256"
      networkProfileName := getStr data "network_profile_name" "direct"
      networkProfileSha256 := getOptStr data "network_profile_sha256"
      proxyOrigin := getOptStr data "proxy_origin"
      system, deployment, implementation, configIdentitySha256, resolvedBaseUrl, resolvedOrigin,
      credentialScopes }

theorem fromDict_toDict (x : ConnectorExecutionBinding) : fromDict x.toDict = .ok x := by
  have self := x.make_self
  obtain ⟨fields, normal, valid⟩ := x
  cases identity : fields.credentialIdentity <;>
  · simp only [fromDict, toDict, itemStr, item, getStr, getOptStr, present, textArray, identity,
      List.append_nil, List.cons_append, List.nil_append, Json.get?_mkObj, Json.lookup_cons,
      String.reduceEq, reduceIte, List.lookup_nil, Option.isNone_some, Bool.false_eq_true,
      Except.map, pyStr_str, ok_bind, stringList_map, Option.getD_some, Option.elim_some,
      map_optStr, map_str, Option.filter_none, Option.map_none]
    rw [← identity]
    exact self

end ConnectorExecutionBinding

/-! ## Configurations -/

structure ConfigurationExecutionBinding where
  name : String
  sha256 : String
  valid : firstError [require (!isBlank name) "configuration execution binding name is empty",
    validateSha256 sha256 s!"configuration binding {name} sha256"] = none
deriving DecidableEq

namespace ConfigurationExecutionBinding

def make (name sha256 : String) : Except Exn ConfigurationExecutionBinding :=
  build _ fun valid => ⟨name, sha256, valid⟩

def toDict (x : ConfigurationExecutionBinding) : Json :=
  .mkObj [("name", .str x.name), ("sha256", .str x.sha256)]

def fromDict (data : Json) : Except Exn ConfigurationExecutionBinding := do
  let name ← itemStr data "name"
  let sha256 ← itemStr data "sha256"
  make name sha256

theorem fromDict_toDict (x : ConfigurationExecutionBinding) : fromDict x.toDict = .ok x := by
  simp only [fromDict, toDict, itemStr, item, Json.get?_mkObj, Json.lookup_cons,
    String.reduceEq, reduceIte, Except.map, pyStr_str, ok_bind]
  exact build_ok x.valid

end ConfigurationExecutionBinding

/-! ## Runtime paths -/

inductive FilesystemObjectKind where
  | directory | file
deriving DecidableEq, Repr

namespace FilesystemObjectKind

def str : FilesystemObjectKind → String
  | directory => "directory"
  | file => "file"

def parse : String → Except Exn FilesystemObjectKind :=
  parseEnum [directory, file] str "FilesystemObjectKind"

omit [Host] in
@[simp]
theorem parse_str (k : FilesystemObjectKind) : parse k.str = .ok k := by cases k <;> rfl

end FilesystemObjectKind

/-- A requirement that raises `ValueError`. -/
def requireValue (holds : Bool) (message : String) : Check := (holds, valueError message)

/-- `_lower_hex`. -/
def lowerHex (value : Option String) (minimum maximum : Nat) : Bool :=
  value.any fun s => minimum ≤ s.length && s.length ≤ maximum && s.toList.all isLowerHex

structure PlatformObjectIdentityFields where
  platform : String
  kind : FilesystemObjectKind
  device : Option Int := none
  inode : Option Int := none
  owner : Option Int := none
  mode : Option Int := none
  volumeSerial : Option String := none
  fileId : Option String := none
  ownerSid : Option String := none
  daclSha256 : Option String := none
  trustPolicySha256 : Option String := none
  schema : String := "master-agent/platform-object-identity@1"
deriving DecidableEq

namespace PlatformObjectIdentityFields

/-- `_validate_posix`. -/
def posixChecks (x : PlatformObjectIdentityFields) : List Check :=
  [requireValue ([x.device, x.inode, x.owner, x.mode].all fun v => v.any (0 ≤ ·))
      "POSIX platform object identity payload is invalid",
    requireValue (x.mode.all (· ≤ 0o7777)) "POSIX platform object identity mode is invalid",
    requireValue ([x.volumeSerial, x.fileId, x.ownerSid, x.daclSha256,
      x.trustPolicySha256].all (·.isNone))
      "POSIX platform object identity mixes native payloads"]

/-- `_validate_windows`. -/
def windowsChecks (x : PlatformObjectIdentityFields) : List Check :=
  [requireValue ([x.device, x.inode, x.owner, x.mode].all (·.isNone))
      "Windows platform object identity mixes native payloads",
    requireValue (lowerHex x.volumeSerial 1 16) "Windows platform volume identity is invalid",
    requireValue (lowerHex x.fileId 32 32) "Windows platform file identity is invalid",
    requireValue (x.ownerSid.any fun sid => "S-".isPrefixOf sid && 3 ≤ sid.length &&
      sid.length ≤ 184 && sid.toList.all fun c => 33 ≤ c.toNat && c.toNat ≤ 126)
      "Windows platform owner SID is invalid",
    requireValue (lowerHex x.daclSha256 64 64) "Windows platform DACL digest is invalid",
    requireValue (lowerHex x.trustPolicySha256 64 64)
      "Windows platform trust policy digest is invalid"]

/-- What `PlatformObjectIdentity.__post_init__` requires. -/
def checks (x : PlatformObjectIdentityFields) : List Check :=
  requireValue (x.schema == "master-agent/platform-object-identity@1")
    "unsupported platform object identity schema" ::
  if x.platform = "posix" then x.posixChecks
  else if x.platform = "windows" then x.windowsChecks
  else [requireValue false "platform object identity platform is invalid"]

end PlatformObjectIdentityFields

structure PlatformObjectIdentity where
  fields : PlatformObjectIdentityFields
  valid : firstError fields.checks = none
deriving DecidableEq

namespace PlatformObjectIdentity

def make (x : PlatformObjectIdentityFields) : Except Exn PlatformObjectIdentity :=
  build x.checks fun valid => ⟨x, valid⟩

/-- `PlatformObjectIdentity.from_posix`. -/
def fromPosix (kind : FilesystemObjectKind) (device inode owner mode : Int) :
    Except Exn PlatformObjectIdentity :=
  make { platform := "posix", kind, device, inode, owner, mode }

/-- `PlatformObjectIdentity.object_key`. -/
def objectKey (x : PlatformObjectIdentity) : String × String × String :=
  if x.fields.platform = "posix" then
    (x.fields.platform, (x.fields.device.elim "None" toString),
      (x.fields.inode.elim "None" toString))
  else (x.fields.platform, x.fields.volumeSerial.getD "None", x.fields.fileId.getD "None")

def posixPayload (x : PlatformObjectIdentityFields) : Json :=
  .mkObj [("device", optInt x.device), ("inode", optInt x.inode), ("owner", optInt x.owner),
    ("mode", optInt x.mode)]

def windowsPayload (x : PlatformObjectIdentityFields) : Json :=
  .mkObj [("volume_serial", optStr x.volumeSerial), ("file_id", optStr x.fileId),
    ("owner_sid", optStr x.ownerSid), ("dacl_sha256", optStr x.daclSha256),
    ("trust_policy_sha256", optStr x.trustPolicySha256)]

def toDict (x : PlatformObjectIdentity) : Json :=
  .mkObj ([("schema", .str x.fields.schema), ("platform", .str x.fields.platform),
    ("kind", .str x.fields.kind.str)] ++
    if x.fields.platform = "posix" then [("posix", posixPayload x.fields)]
    else [("windows", windowsPayload x.fields)])

/-- `_identity_int`. -/
def identityInt (data : Json) (name : String) : Except Exn (Option Int) :=
  match data.get? name with
  | some (.int n) => .ok (some n)
  | _ => .error (typeError s!"platform object identity {name} is invalid")

def fromDict (data : Json) : Except Exn PlatformObjectIdentity := do
  let platform := getStr data "platform" ""
  let kind ← match FilesystemObjectKind.parse (getStr data "kind" "") with
    | .ok kind => .ok kind
    | .error _ => .error (valueError "platform object identity kind is invalid")
  let schema := getStr data "schema" ""
  if platform = "posix" then
    if hasKeys data ["schema", "platform", "kind", "posix"] then
      let native := (data.get? "posix").getD .null
      if isObject native then
        if hasKeys native ["device", "inode", "owner", "mode"] then
          let device ← identityInt native "device"
          let inode ← identityInt native "inode"
          let owner ← identityInt native "owner"
          let mode ← identityInt native "mode"
          make { platform, kind, device, inode, owner, mode, schema }
        else .error (valueError "POSIX platform object identity shape is invalid")
      else .error (valueError "POSIX platform object identity payload is invalid")
    else .error (valueError "POSIX platform object identity shape is invalid")
  else if platform = "windows" then
    if hasKeys data ["schema", "platform", "kind", "windows"] then
      let native := (data.get? "windows").getD .null
      if isObject native then
        if hasKeys native ["volume_serial", "file_id", "owner_sid", "dacl_sha256",
            "trust_policy_sha256"] then
          make {
            volumeSerial := getStr native "volume_serial" ""
            fileId := getStr native "file_id" ""
            ownerSid := getStr native "owner_sid" ""
            daclSha256 := getStr native "dacl_sha256" ""
            trustPolicySha256 := getStr native "trust_policy_sha256" ""
            platform, kind, schema }
        else .error (valueError "Windows platform object identity shape is invalid")
      else .error (valueError "Windows platform object identity payload is invalid")
    else .error (valueError "Windows platform object identity shape is invalid")
  else make { platform, kind, schema }

omit [Host] in
/-- A POSIX identity has its four numbers and no Windows text. -/
theorem posix_shape {x : PlatformObjectIdentityFields} (h : firstError x.posixChecks = none) :
    ∃ device inode owner mode : Int, x = { x with
      device := some device, inode := some inode, owner := some owner, mode := some mode,
      volumeSerial := none, fileId := none, ownerSid := none, daclSha256 := none,
      trustPolicySha256 := none } := by
  obtain ⟨platform, kind, device, inode, owner, mode, volume, file, sid, dacl, trust, schema⟩ := x
  have facts := firstError_none.mp h
  simp only [PlatformObjectIdentityFields.posixChecks, requireValue, List.all_cons, List.all_nil,
    List.mem_cons, List.not_mem_nil, or_false, forall_eq_or_imp, forall_eq, Bool.and_eq_true,
    Option.any_eq_true_iff_get, Option.isNone_iff_eq_none] at facts
  obtain ⟨⟨⟨hd, -⟩, ⟨hi, -⟩, ⟨ho, -⟩, ⟨hm, -⟩, -⟩, -, rfl, rfl, rfl, rfl, rfl, -⟩ := facts
  exact ⟨device.get hd, inode.get hi, owner.get ho, mode.get hm, by simp⟩

omit [Host] in
/-- A Windows identity has its five texts and no POSIX number. -/
theorem windows_shape {x : PlatformObjectIdentityFields}
    (h : firstError x.windowsChecks = none) :
    ∃ volume file sid dacl trust : String, x = { x with
      device := none, inode := none, owner := none, mode := none,
      volumeSerial := some volume, fileId := some file, ownerSid := some sid,
      daclSha256 := some dacl, trustPolicySha256 := some trust } := by
  obtain ⟨platform, kind, device, inode, owner, mode, volume, file, sid, dacl, trust, schema⟩ := x
  have facts := firstError_none.mp h
  simp only [PlatformObjectIdentityFields.windowsChecks, requireValue, lowerHex, List.all_cons,
    List.all_nil, List.mem_cons, List.not_mem_nil, or_false, forall_eq_or_imp, forall_eq,
    Bool.and_eq_true, Option.any_eq_true_iff_get, Option.isNone_iff_eq_none] at facts
  obtain ⟨⟨rfl, rfl, rfl, rfl, -⟩, ⟨hv, -⟩, ⟨hf, -⟩, ⟨hs, -⟩, ⟨hd, -⟩, ⟨ht, -⟩⟩ := facts
  exact ⟨volume.get hv, file.get hf, sid.get hs, dacl.get hd, trust.get ht, by simp⟩

theorem fromDict_posix {x : PlatformObjectIdentity} (posix : x.fields.platform = "posix") :
    fromDict x.toDict = .ok x := by
  obtain ⟨fields, valid⟩ := x
  have facts := valid
  rw [PlatformObjectIdentityFields.checks, if_pos posix, firstError_none] at facts
  obtain ⟨device, inode, owner, mode, shape⟩ :=
    posix_shape (firstError_none.mpr fun c hc => facts c (List.mem_cons_of_mem _ hc))
  have hd : fields.device = some device := congrArg (·.device) shape
  have hi : fields.inode = some inode := congrArg (·.inode) shape
  have ho : fields.owner = some owner := congrArg (·.owner) shape
  have hm : fields.mode = some mode := congrArg (·.mode) shape
  have native : isObject (posixPayload fields) = true := rfl
  have keys : hasKeys (posixPayload fields) ["device", "inode", "owner", "mode"] = true :=
    hasKeys_mkObj fun k => Iff.rfl
  have outer : hasKeys (toDict ⟨fields, valid⟩) ["schema", "platform", "kind", "posix"] =
      true := by
    unfold toDict
    rw [if_pos posix]
    exact hasKeys_mkObj fun k => Iff.rfl
  unfold fromDict
  rw [outer]
  simp only [toDict, if_pos posix, getStr, Json.get?_mkObj, List.cons_append, List.nil_append,
    Json.lookup_cons, String.reduceEq, reduceIte, Option.elim_some, pyStr_str,
    FilesystemObjectKind.parse_str, Option.getD_some, ok_bind, native, keys]
  simp only [posixPayload, identityInt, optInt, hd, hi, ho, hm, Json.get?_mkObj,
    Json.lookup_cons, String.reduceEq, reduceIte, ok_bind]
  exact (congrArg make shape.symm).trans (build_ok valid)

theorem fromDict_windows {x : PlatformObjectIdentity} (windows : x.fields.platform = "windows") :
    fromDict x.toDict = .ok x := by
  obtain ⟨fields, valid⟩ := x
  have windows : fields.platform = "windows" := windows
  have posix : ¬ fields.platform = "posix" := by simp [windows]
  have facts := valid
  rw [PlatformObjectIdentityFields.checks, if_neg posix, if_pos windows, firstError_none] at facts
  obtain ⟨volume, file, sid, dacl, trust, shape⟩ :=
    windows_shape (firstError_none.mpr fun c hc => facts c (List.mem_cons_of_mem _ hc))
  have hv : fields.volumeSerial = some volume := congrArg (·.volumeSerial) shape
  have hf : fields.fileId = some file := congrArg (·.fileId) shape
  have hs : fields.ownerSid = some sid := congrArg (·.ownerSid) shape
  have hd : fields.daclSha256 = some dacl := congrArg (·.daclSha256) shape
  have ht : fields.trustPolicySha256 = some trust := congrArg (·.trustPolicySha256) shape
  have native : isObject (windowsPayload fields) = true := rfl
  have keys : hasKeys (windowsPayload fields) ["volume_serial", "file_id", "owner_sid",
      "dacl_sha256", "trust_policy_sha256"] = true :=
    hasKeys_mkObj fun k => Iff.rfl
  have outer : hasKeys (toDict ⟨fields, valid⟩) ["schema", "platform", "kind", "windows"] =
      true := by
    unfold toDict
    rw [if_neg posix]
    exact hasKeys_mkObj fun k => Iff.rfl
  unfold fromDict
  rw [outer]
  simp only [toDict, getStr, Json.get?_mkObj, List.cons_append, List.nil_append,
    Json.lookup_cons, String.reduceEq, reduceIte, Option.elim_some, pyStr_str,
    FilesystemObjectKind.parse_str, Option.getD_some, ok_bind, native, keys, windows]
  simp only [windowsPayload, optStr, hv, hf, hs, hd, ht, Json.get?_mkObj, Json.lookup_cons,
    String.reduceEq, reduceIte, Option.elim_some, pyStr_str]
  rw [← windows]
  exact (congrArg make shape.symm).trans (build_ok valid)

theorem fromDict_toDict (x : PlatformObjectIdentity) : fromDict x.toDict = .ok x := by
  by_cases posix : x.fields.platform = "posix"
  · exact fromDict_posix posix
  · refine fromDict_windows ?_
    by_contra windows
    have facts := x.valid
    rw [PlatformObjectIdentityFields.checks, if_neg posix, if_neg windows,
      firstError_none] at facts
    exact absurd (facts _ (List.mem_cons_of_mem _ List.mem_cons_self)) (by simp [requireValue])

end PlatformObjectIdentity

end MasterAgent
