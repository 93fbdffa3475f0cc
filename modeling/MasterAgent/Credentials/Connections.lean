import MasterAgent.Credentials.Leases

/-!
# What the binding digests determine

A principal, a provider operation and a connection request are each named by one digest over their
length-prefixed fields. A principal has one sequence of variable length and it stands last; a
connection request has two, one after the other.

Results:

1. `principal_inj`, `bindingSha256_inj`: a digest determines its principal, its operation;
2. `same_fields_iff`: what requests with the same hashed fields have in common;
3. `binding_digests_injective_iff`: a fingerprint determines its request, unless names of
   credentials are read as scopes.
-/

namespace MasterAgent.Credentials
open Base

/-! ## Connection requests -/

def CONNECTION_REQUEST_SCHEMA : String := "master-agent/capsule-connection-request@1"

structure ConnectionRequestFields where
  runFingerprint : String
  capsuleManifestSha256 : String
  provider : String
  accountId : String
  credentialNames : List String
  scopes : List String
  nonce : String
  schema : String
deriving DecidableEq

/-- What `ConnectionRequest.__post_init__` requires. -/
def ConnectionRequestFields.checks (x : ConnectionRequestFields) : List Check :=
  ([x.runFingerprint, x.capsuleManifestSha256].map fun digest =>
    (digest.length == 64, configurationError "connection request digest is malformed")) ++
  [(x.schema == CONNECTION_REQUEST_SCHEMA && 32 ≤ x.nonce.length,
      configurationError "connection request schema or nonce is malformed"),
    (!x.provider.isEmpty && !x.accountId.isEmpty,
      configurationError "connection request account is incomplete")]

structure ConnectionRequest where
  fields : ConnectionRequestFields
  valid : firstError fields.checks = none
deriving DecidableEq

/-- `ConnectionRequest(…)` -/
def ConnectionRequest.make (x : ConnectionRequestFields) : Except Exn ConnectionRequest :=
  build x.checks fun valid => ⟨x, valid⟩

/-- What `fingerprint` hashes. -/
def ConnectionRequestFields.hashed (x : ConnectionRequestFields) : List String :=
  [x.schema, x.runFingerprint, x.capsuleManifestSha256, x.provider, x.accountId] ++
    x.credentialNames ++ x.scopes ++ [x.nonce]

/-- `ConnectionRequest.fingerprint` -/
def ConnectionRequest.fingerprint [Sha256] (x : ConnectionRequest) : Except Exn String :=
  sha256Fields x.fields.hashed

/-- `CredentialBroker.connection_request`, with the nonce that is drawn. -/
def connectionRequest [Host] (runFingerprint : String) (capsule : CapabilityCapsuleExecutionBinding)
    (provider accountId nonce : String) : Except Exn ConnectionRequest :=
  if provider != systemOf capsule.fields.capabilityId
      || accountId != capsule.fields.providerAccountId
      || capsule.fields.credentialNames.isEmpty then
    .error (authenticationError "connection request differs from the capsule provider account")
  else ConnectionRequest.make
    { runFingerprint := runFingerprint
      capsuleManifestSha256 := capsule.fields.manifestSha256
      provider := provider
      accountId := accountId
      credentialNames := capsule.fields.credentialNames
      scopes := capsule.fields.credentialScopes
      nonce := nonce
      schema := CONNECTION_REQUEST_SCHEMA }

/-! ## Where one sequence ends -/

/-- The length prefix of every field fits its eight bytes. -/
def Hashable (fields : List String) : Prop := ∀ field ∈ fields, (utf8 field).length < 256 ^ 8

/-- Two requests that agree on everything but where the credential names end and the scopes
begin. -/
structure Respliced (a b : ConnectionRequestFields) : Prop where
  others : a = { b with credentialNames := a.credentialNames, scopes := a.scopes }
  sequence : a.credentialNames ++ a.scopes = b.credentialNames ++ b.scopes
  cut : a.credentialNames.length ≠ b.credentialNames.length

/-- The flat sequence determines every field up to the place of the cut. -/
theorem same_fields_iff {a b : ConnectionRequestFields} :
    a.hashed = b.hashed ↔
      a = { b with credentialNames := a.credentialNames, scopes := a.scopes } ∧
        a.credentialNames ++ a.scopes = b.credentialNames ++ b.scopes := by
  obtain ⟨aRun, aManifest, aProvider, aAccount, aNames, aScopes, aNonce, aSchema⟩ := a
  obtain ⟨bRun, bManifest, bProvider, bAccount, bNames, bScopes, bNonce, bSchema⟩ := b
  simp only [ConnectionRequestFields.hashed, ConnectionRequestFields.mk.injEq, true_and]
  constructor
  · intro same
    -- the nonce is the last field of either sequence, so it is cut off first
    obtain ⟨front, nonce⟩ := List.append_inj' same rfl
    rw [List.append_assoc, List.append_assoc] at front
    obtain ⟨fixed, sequence⟩ := List.append_inj front rfl
    simp only [List.cons.injEq, and_true] at fixed nonce
    obtain ⟨schema, run, manifest, provider, account⟩ := fixed
    exact ⟨⟨run, manifest, provider, account, nonce, schema⟩, sequence⟩
  · rintro ⟨⟨rfl, rfl, rfl, rfl, rfl, rfl⟩, sequence⟩
    rw [List.append_assoc _ aNames, List.append_assoc _ bNames, sequence]

section
variable [Sha256]

/-- Hashable fields have a digest. -/
theorem sha256Fields_ok {fields : List String} (hashable : Hashable fields) :
    ∃ digest, sha256Fields fields = .ok digest := by
  refine ⟨Sha256.hexdigest (frames 8 (fields.map utf8)), ?_⟩
  have short : (fields.map utf8).any (fun bytes => 256 ^ 8 ≤ bytes.length) = false := by
    rw [List.any_eq_false]
    intro bytes listed
    obtain ⟨field, member, rfl⟩ := List.mem_map.mp listed
    simpa using hashable field member
  simp only [sha256Fields, short, Bool.false_eq_true, if_false]

/-- Only hashable fields have one. -/
theorem hashable_of_digest {fields : List String} {digest : String}
    (made : sha256Fields fields = .ok digest) : Hashable fields := by
  intro field listed
  by_contra long
  have found : (fields.map utf8).any (fun bytes => 256 ^ 8 ≤ bytes.length) = true :=
    List.any_eq_true.mpr ⟨utf8 field, List.mem_map_of_mem listed,
      decide_eq_true (Nat.not_lt.mp long)⟩
  simp only [sha256Fields, found, if_true] at made
  cases made

/-! ## Principals -/

theorem principal_inj (ideal : Sha256.CollisionFree) {p q : RuntimePrincipal} {digest : String}
    (hp : p.bindingSha256 = .ok digest) (hq : q.bindingSha256 = .ok digest) : p = q := by
  have fields := sha256Fields_inj ideal hp hq
  obtain ⟨⟨pUser, pAgent, pTenant, pProvider, pAccount, pScopes⟩, pValid⟩ := p
  obtain ⟨⟨qUser, qAgent, qTenant, qProvider, qAccount, qScopes⟩, qValid⟩ := q
  simp only [List.cons_append, List.nil_append, List.cons.injEq] at fields
  obtain ⟨rfl, rfl, rfl, rfl, rfl, rfl⟩ := fields
  rfl

/-! ## Connection requests that share a fingerprint -/

/-- Requests with one cut are determined by their fingerprint. -/
theorem request_inj (ideal : Sha256.CollisionFree) {a b : ConnectionRequest} {digest : String}
    (ha : a.fingerprint = .ok digest) (hb : b.fingerprint = .ok digest)
    (plain : ¬Respliced a.fields b.fields) : a = b := by
  obtain ⟨others, sequence⟩ := same_fields_iff.mp (sha256Fields_inj ideal ha hb)
  have cut : a.fields.credentialNames.length = b.fields.credentialNames.length := by
    by_contra differ
    exact plain ⟨others, sequence, differ⟩
  obtain ⟨names, scopes⟩ := List.append_inj sequence cut
  have fields : a.fields = b.fields := by rw [others, names, scopes]
  obtain ⟨aFields, aValid⟩ := a
  cases fields
  rfl

theorem binding_digests_injective_iff (ideal : Sha256.CollisionFree) :
    (∀ (p q : RuntimePrincipal) (digest : String), p.bindingSha256 = .ok digest →
      q.bindingSha256 = .ok digest → p = q) ∧
    (∀ (a b : ProviderOperationBinding) (digest : String), a.bindingSha256 = .ok digest →
      b.bindingSha256 = .ok digest → a = b) ∧
    ∀ a b : ConnectionRequest,
      (∀ digest, a.fingerprint = .ok digest → b.fingerprint = .ok digest → a = b) ↔
        ¬(Respliced a.fields b.fields ∧ Hashable a.fields.hashed) := by
  refine ⟨fun p q digest => principal_inj ideal, fun a b digest => bindingSha256_inj ideal,
    fun a b => ⟨?_, ?_⟩⟩
  · rintro determined ⟨respliced, hashable⟩
    obtain ⟨digest, made⟩ := sha256Fields_ok hashable
    have same := same_fields_iff.mpr ⟨respliced.others, respliced.sequence⟩
    have equal := determined digest made (show sha256Fields b.fields.hashed = _ by rw [← same, made])
    exact respliced.cut (by rw [equal])
  · intro plain digest ha hb
    exact request_inj ideal ha hb fun respliced => plain ⟨respliced, hashable_of_digest ha⟩

end

/-! ## A name read as a scope -/

namespace Connections.Samples
open Credentials.Samples

attribute [local instance] spelledBytes

def requestFields (names scopes : List String) : ConnectionRequestFields where
  runFingerprint := zeros
  capsuleManifestSha256 := zeros
  provider := "jira"
  accountId := "account-7"
  credentialNames := names
  scopes := scopes
  nonce := zeros
  schema := CONNECTION_REQUEST_SCHEMA

/-- One credential and one scope. -/
def oneScope : ConnectionRequest := ⟨requestFields ["JIRA_TOKEN"] ["read"], by decide +kernel⟩

/-- The scope read as a second credential. -/
def twoNames : ConnectionRequest := ⟨requestFields ["JIRA_TOKEN", "read"] [], by decide +kernel⟩

def otherScope : ConnectionRequest := ⟨requestFields ["JIRA_TOKEN"] ["write"], by decide +kernel⟩

theorem hashable_oneScope : Hashable oneScope.fields.hashed := by
  have short : (oneScope.fields.hashed.all fun field =>
      decide ((utf8 field).length < 256 ^ 8)) = true := by decide +kernel
  exact fun field listed => of_decide_eq_true (List.all_eq_true.mp short field listed)

theorem name_read_as_scope : Sha256.CollisionFree ∧
    ∃ digest, oneScope.fingerprint = .ok digest ∧ twoNames.fingerprint = .ok digest ∧
      oneScope ≠ twoNames := by
  obtain ⟨digest, made⟩ := sha256Fields_ok hashable_oneScope
  exact ⟨ideal, digest, made, made, by decide⟩

/-- Requests with one cut and different scopes are told apart. -/
theorem scopes_told_apart :
    ∃ digest, oneScope.fingerprint = .ok digest ∧ otherScope.fingerprint ≠ .ok digest := by
  obtain ⟨digest, made⟩ := sha256Fields_ok hashable_oneScope
  have determined := ((binding_digests_injective_iff ideal).2.2 oneScope otherScope).mpr
    fun respliced => respliced.1.cut rfl
  refine ⟨digest, made, fun other => ?_⟩
  exact absurd (determined digest made other) (by decide)

end Connections.Samples

end MasterAgent.Credentials
