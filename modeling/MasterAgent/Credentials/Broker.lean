import MasterAgent.Base.Frames
import MasterAgent.Models.ExecutionContext
import MasterAgent.Retention.Manifest

/-!
# The credential broker

Generated code never receives a credential. It is given a handle, which a trusted provider adapter
redeems once, for one operation, under the capsule it was issued for. Instants are microseconds in
UTC, and every call reads the clock once.
-/

namespace MasterAgent.Credentials
open Base

/-- `AuthenticationError` is a `ConnectorError`. -/
def authenticationError (message : String) : Exn := ⟨.connector, "AuthenticationError", message⟩

/-! ## Digests -/

/-- `hashlib.sha256(bytes).hexdigest()` -/
class Sha256 where
  hexdigest : List UInt8 → String

/-- No two byte strings share a digest. -/
structure Sha256.CollisionFree [Sha256] : Prop where
  inj : ∀ a b, hexdigest a = hexdigest b → a = b

section
variable [Sha256]

/-- `hashlib.sha256(text.encode()).hexdigest()` -/
def sha256Text (text : String) : String := Sha256.hexdigest (utf8 text)

/-- `_sha256_fields`: each field after its length in eight bytes. -/
def sha256Fields (fields : List String) : Except Exn String :=
  let encoded := fields.map utf8
  if encoded.any fun bytes => 256 ^ 8 ≤ bytes.length then
    .error ⟨.overflow, "OverflowError", "int too big to convert"⟩
  else .ok (Sha256.hexdigest (frames 8 encoded))

/-- `_sha256_mapping` -/
def sha256Mapping (value : Json) : String := sha256Text value.dumps

end

/-! ## Principals and material -/

structure RuntimePrincipalFields where
  userId : String
  agentId : String
  tenantId : String
  provider : String
  accountId : String
  scopes : List String
deriving DecidableEq

/-- `not value or value != value.strip()` does not hold. -/
def isTrimmed (value : String) : Bool := !value.isEmpty && value == strip value

/-- What `RuntimePrincipal.__post_init__` requires. -/
def RuntimePrincipalFields.checks (x : RuntimePrincipalFields) : List Check :=
  ([("user_id", x.userId), ("agent_id", x.agentId), ("tenant_id", x.tenantId),
      ("provider", x.provider), ("account_id", x.accountId)].map fun (name, value) =>
    (isTrimmed value, configurationError s!"runtime principal {name} is malformed")) ++
  [(!x.scopes.isEmpty && x.scopes.all isTrimmed && decide (x.scopes.Pairwise (· < ·)),
    configurationError "runtime principal scopes are malformed")]

structure RuntimePrincipal where
  fields : RuntimePrincipalFields
  valid : firstError fields.checks = none
deriving DecidableEq

/-- `RuntimePrincipal(…)`, with its scopes sorted and each once. -/
def RuntimePrincipal.make (x : RuntimePrincipalFields) : Except Exn RuntimePrincipal :=
  let normalized := { x with scopes := x.scopes.dedup.insertionSort (· ≤ ·) }
  build normalized.checks fun valid => ⟨normalized, valid⟩

/-- `RuntimePrincipal.binding_sha256` -/
def RuntimePrincipal.bindingSha256 [Sha256] (x : RuntimePrincipal) : Except Exn String :=
  sha256Fields ([x.fields.userId, x.fields.agentId, x.fields.tenantId, x.fields.provider,
    x.fields.accountId] ++ x.fields.scopes)

structure CredentialMaterialFields where
  providerId : String
  credentialName : String
  principal : RuntimePrincipal
  value : String
deriving DecidableEq

/-- What `CredentialMaterial.__post_init__` requires. -/
def CredentialMaterialFields.checks (x : CredentialMaterialFields) : List Check :=
  [(!x.providerId.isEmpty && !x.credentialName.isEmpty && !x.value.isEmpty,
    authenticationError "credential material is incomplete")]

structure CredentialMaterial where
  fields : CredentialMaterialFields
  valid : firstError fields.checks = none
deriving DecidableEq

/-! ## Operations and handles -/

/-- `ProviderOperationBinding`, with any values in its fields. -/
structure ProviderOperationBinding where
  planFingerprint : String
  actionId : Uuid
  origin : String
  method : String
  path : String
deriving DecidableEq

/-- `ProviderOperationBinding.binding_sha256` -/
def ProviderOperationBinding.bindingSha256 [Sha256] (x : ProviderOperationBinding) :
    Except Exn String :=
  sha256Fields [x.planFingerprint, x.actionId.str, x.origin, x.method, x.path]

structure OpaqueCredentialHandle where
  token : String
  bindingSha256 : String
  expiresAt : Int
  wellFormed : 32 ≤ token.length ∧ bindingSha256.length = 64

/-- `OpaqueCredentialHandle(…)` -/
def OpaqueCredentialHandle.make (token bindingSha256 : String) (expiresAt : Int) :
    Except Exn OpaqueCredentialHandle :=
  if wellFormed : 32 ≤ token.length ∧ bindingSha256.length = 64 then
    .ok ⟨token, bindingSha256, expiresAt, wellFormed⟩
  else .error (authenticationError "opaque credential handle is malformed")

/-- `_Lease` -/
structure Lease where
  material : CredentialMaterial
  capsuleBindingSha256 : String
  operationBindingSha256 : String
  bindingSha256 : String
  expiresAt : Int

/-! ## Checks -/

/-- `_valid_provider_path` -/
def validProviderPath (path : String) : Bool :=
  path.toList.head? == some '/' && path.toList.all (fun c =>
    c != '?' && c != '#' && c != Json.backslash && c != '%') &&
    (Retention.splitParts path.toList).tail.all fun part =>
      part ≠ [] ∧ part ≠ ['.'] ∧ part ≠ ['.', '.']

/-- `prefix.rstrip("/")` -/
def rstripSlash (name : String) : List Char := (name.toList.reverse.dropWhile (· == '/')).reverse

/-- `_path_is_within` -/
def pathIsWithin (path allowed : String) : Bool :=
  validProviderPath path &&
    (path == allowed || (rstripSlash allowed ++ ['/']).isPrefixOf path.toList)

/-- The system of a capability: `capability_id.split(".", 1)[0]` -/
def systemOf (capabilityId : String) : String :=
  String.ofList (capabilityId.toList.takeWhile (· != '.'))

section
variable [Host]

/-- `_validate_operation_binding` -/
def validateOperationBinding (capsule : CapabilityCapsuleExecutionBinding)
    (operation : ProviderOperationBinding) : Except Exn Unit :=
  if !capsule.fields.allowedOrigins.contains operation.origin then
    .error (authenticationError "provider origin is outside the capsule allowlist")
  else if !capsule.fields.allowedMethods.contains operation.method then
    .error (authenticationError "provider method is outside the capsule allowlist")
  else if !capsule.fields.allowedPathPrefixes.any (pathIsWithin operation.path) then
    .error (authenticationError "provider path is outside the capsule allowlist")
  else .ok ()

/-- `_validate_principal_binding` -/
def validatePrincipalBinding (capsule : CapabilityCapsuleExecutionBinding)
    (principal : RuntimePrincipal) (providerId : String) : Except Exn Unit :=
  let expected := (capsule.fields.authenticatedPrincipal, capsule.fields.agentIdentity,
    capsule.fields.tenantId, systemOf capsule.fields.capabilityId,
    capsule.fields.providerAccountId, capsule.fields.credentialProviderId)
  let observed := (principal.fields.userId, principal.fields.agentId, principal.fields.tenantId,
    principal.fields.provider, principal.fields.accountId, providerId)
  if observed = expected then .ok ()
  else .error (authenticationError
    "runtime principal, tenant, account, or credential provider drifted")

/-- `hmac.compare_digest`, which takes ASCII texts only. -/
def compareDigest (a b : String) : Except Exn Bool :=
  if a.toList.all (·.toNat < 128) && b.toList.all (·.toNat < 128) then .ok (a == b)
  else .error (typeError "comparing strings with non-ASCII characters is not supported")

/-- `if not holds: raise AuthenticationError(message)` -/
def authenticate (holds : Bool) (message : String) : Except Exn Unit :=
  if holds then .ok () else .error (authenticationError message)

/-! ## The broker -/

def MAX_ACTIVE_HANDLES : Nat := 128

/-- `CredentialBroker`: its provider and its limit. -/
structure CredentialBroker where
  providerId : String
  maximumTtlSeconds : Int
  bounded : 1 ≤ maximumTtlSeconds ∧ maximumTtlSeconds ≤ 300

/-- `self._leases` -/
abbrev Leases := List (String × Lease)

/-- `_purge` -/
def purge (now : Int) (leases : Leases) : Leases :=
  leases.filter fun entry => now < entry.2.expiresAt

/-- A call of `issue`, with what the clock reads, what the provider resolves and the token that is
drawn. -/
structure IssueRequest where
  capsule : CapabilityCapsuleExecutionBinding
  principal : RuntimePrincipal
  credentialName : String
  operation : ProviderOperationBinding
  now : Int
  ttlSeconds : Int
  resolve : RuntimePrincipal → String → Except Exn CredentialMaterial
  token : String

/-- `current + timedelta(seconds=ttl_seconds)` -/
def expiry (now ttlSeconds : Int) : Except Exn Int :=
  let expires := now + ttlSeconds * 1000000
  if expires < Datetime.daysBeforeYear 10000 * 86400000000 then .ok expires
  else .error ⟨.overflow, "OverflowError", "date value out of range"⟩

variable [Sha256] (broker : CredentialBroker)

/-- The lease of a handle, after the limit on active handles. -/
def prepareLease (request : IssueRequest) : Except Exn Lease := do
  authenticate (decide (1 ≤ request.ttlSeconds ∧ request.ttlSeconds ≤ broker.maximumTtlSeconds))
    "credential handle TTL is outside policy"
  validatePrincipalBinding request.capsule request.principal broker.providerId
  authenticate (request.capsule.fields.credentialNames.contains request.credentialName)
    "credential name is not allowed by the capsule"
  authenticate (request.capsule.fields.credentialScopes.all
      fun scope => request.principal.fields.scopes.contains scope)
    "runtime principal lacks capsule credential scopes"
  validateOperationBinding request.capsule request.operation
  let material ← request.resolve request.principal request.credentialName
  authenticate (material.fields.providerId == broker.providerId &&
      material.fields.credentialName == request.credentialName &&
      material.fields.principal == request.principal)
    "credential provider returned material for another binding"
  let expires ← expiry request.now request.ttlSeconds
  let capsuleBindingSha256 := sha256Mapping request.capsule.toDict
  let operationBindingSha256 ← request.operation.bindingSha256
  let bindingSha256 ← sha256Fields [capsuleBindingSha256, ← request.principal.bindingSha256,
    request.credentialName, broker.providerId, operationBindingSha256]
  return ⟨material, capsuleBindingSha256, operationBindingSha256, bindingSha256, expires⟩

/-- `self._leases[key] = lease` -/
def setLease (key : String) (lease : Lease) (leases : Leases) : Leases :=
  if leases.any (·.1 == key) then
    leases.map fun entry => if entry.1 == key then (key, lease) else entry
  else leases ++ [(key, lease)]

/-- `issue`: the leases it leaves, and its handle. -/
def issue (request : IssueRequest) (leases : Leases) :
    Leases × Except Exn OpaqueCredentialHandle :=
  let live := purge request.now leases
  if live.length ≥ MAX_ACTIVE_HANDLES then
    (live, .error (authenticationError "credential broker active-handle limit reached"))
  else match prepareLease broker request with
    | .error raised => (live, .error raised)
    | .ok lease => (setLease (sha256Text request.token) lease live,
        OpaqueCredentialHandle.make request.token lease.bindingSha256 lease.expiresAt)

/-- A call of `invoke`, with what the clock reads and what the adapter answers. -/
structure InvokeRequest where
  handle : OpaqueCredentialHandle
  capsule : CapabilityCapsuleExecutionBinding
  adapterProvider : String
  operation : ProviderOperationBinding
  payload : Fields
  now : Int
  answer : Except Exn Json

/-- What `TrustedProviderAdapter.invoke` is called with. -/
structure AdapterCall where
  material : CredentialMaterial
  origin : String
  method : String
  path : String
  payload : Fields

/-- The checks of `invoke` on a lease that was found. -/
def checkLease (request : InvokeRequest) (lease : Lease) : Except Exn AdapterCall := do
  authenticate (decide (request.now < lease.expiresAt ∧ request.now < request.handle.expiresAt))
    "credential handle expired"
  authenticate (← compareDigest lease.bindingSha256 request.handle.bindingSha256)
    "credential handle binding is invalid"
  let observedCapsuleSha256 := sha256Mapping request.capsule.toDict
  authenticate (← compareDigest lease.capsuleBindingSha256 observedCapsuleSha256)
    "credential handle belongs to another capsule binding"
  let operationBindingSha256 ← request.operation.bindingSha256
  authenticate (← compareDigest lease.operationBindingSha256 operationBindingSha256)
    "credential handle belongs to another provider operation"
  let expectedBinding ← sha256Fields [observedCapsuleSha256,
    ← lease.material.fields.principal.bindingSha256, lease.material.fields.credentialName,
    lease.material.fields.providerId, operationBindingSha256]
  authenticate (← compareDigest expectedBinding request.handle.bindingSha256)
    "credential handle authority drifted"
  validateOperationBinding request.capsule request.operation
  authenticate (request.adapterProvider == systemOf request.capsule.fields.capabilityId)
    "provider adapter differs from the capsule system"
  let _ ← measureJsonResources "credential broker provider payload"
    request.capsule.fields.maxInputBytes.toNat (.obj request.payload)
  return ⟨lease.material, request.operation.origin, request.operation.method,
    request.operation.path, request.payload⟩

/-- What is returned of the adapter's answer. -/
def readAnswer (request : InvokeRequest) : Except Exn Fields := do
  match ← request.answer with
  | .obj result => do
    let _ ← measureJsonResources "credential broker provider result"
      request.capsule.fields.maxOutputBytes.toNat (.obj result)
    return result
  | _ => .error (authenticationError "trusted provider adapter returned invalid data")

/-- `self._leases.pop(key, None)` -/
def popLease (key : String) (leases : Leases) : Option Lease × Leases :=
  ((leases.find? (·.1 == key)).map Prod.snd, leases.filter (·.1 != key))

/-- `invoke`: the leases it leaves, the call of the adapter if there is one, and its result. -/
def invoke (request : InvokeRequest) (leases : Leases) :
    Leases × Option AdapterCall × Except Exn Fields :=
  match popLease (sha256Text request.handle.token) (purge request.now leases) with
  | (none, left) =>
    (left, none, .error (authenticationError "credential handle is expired, unknown, or reused"))
  | (some lease, left) =>
    match checkLease request lease with
    | .error raised => (left, none, .error raised)
    | .ok call => (left, some call, readAnswer request)

end

end MasterAgent.Credentials
