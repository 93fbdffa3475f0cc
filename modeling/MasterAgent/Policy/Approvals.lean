import MasterAgent.Models.Plan

/-!
# Approvals

Approvals bound to a plan's fingerprint, and the key ring that authenticates them. An approval
is untrusted input: it becomes an authorization fact only after its signature has been verified
against the ring entry it names.

Results:

1. `authenticatedSubject_signed`, `authenticatedSubject_foreign`, `authenticatedSubject_forged`,
   `authenticatedSubject_raises`: what authentication does with every approval;
2. `Presented.unique`: an approval is compared with the secret of at most one authority.
-/

namespace MasterAgent
open Base

section
variable [Host]

/-! ## Claims -/

/-- `_claim_key`. -/
def claimKey (value : String) : String := casefold (Host.nfkc value)

/-- `_validate_claim`. -/
def validateClaim (value name : String) : List Check :=
  [(value != "" && value == strip value,
      configurationError s!"approval authority {name} must be a non-empty normalized value"),
    (Host.nfc value == value,
      configurationError s!"approval authority {name} must use Unicode NFC normalization"),
    (value.toList.all fun c => !isControl c,
      configurationError s!"approval authority {name} must not contain control characters")]

/-- The loop over the roles of an approval or an authority: each is a claim, and no two have one
key. -/
def roleChecks (validate : String → List Check) (duplicate : Exn) :
    List String → List String → List Check
  | _, [] => []
  | seen, role :: rest =>
      validate role ++ (!seen.contains (claimKey role), duplicate) ::
        roleChecks validate duplicate (claimKey role :: seen) rest

theorem roleChecks_hold {validate : String → List Check} {duplicate : Exn}
    {seen roles : List String} :
    (∀ c ∈ roleChecks validate duplicate seen roles, c.1 = true) ↔
      (∀ role ∈ roles, ∀ c ∈ validate role, c.1 = true) ∧
        (roles.map claimKey).Nodup ∧ ∀ role ∈ roles, claimKey role ∉ seen := by
  induction roles generalizing seen with
  | nil => simp [roleChecks]
  | cons role rest ih =>
      simp only [roleChecks, List.mem_append, List.mem_cons, or_imp, forall_and, ih,
        List.map_cons, List.nodup_cons, List.mem_map, not_exists, not_and, not_or,
        forall_eq, Bool.not_eq_true', List.contains_eq_mem, decide_eq_false_iff_not]
      constructor
      · rintro ⟨claims, fresh, rest, nodup, other, unseen⟩
        exact ⟨⟨claims, rest⟩, ⟨other, nodup⟩, fresh, unseen⟩
      · rintro ⟨⟨claims, rest⟩, ⟨other, nodup⟩, fresh, unseen⟩
        exact ⟨claims, fresh, rest, nodup, other, unseen⟩

/-- Sorting the roles keeps what the loop over them requires. -/
theorem roleChecks_sorted {validate : String → List Check} {duplicate : Exn}
    {roles : List String} (h : ∀ c ∈ roleChecks validate duplicate [] roles, c.1 = true) :
    ∀ c ∈ roleChecks validate duplicate [] (sortBy casefold roles), c.1 = true := by
  have perm : (sortBy casefold roles).Perm roles := List.perm_insertionSort _ _
  obtain ⟨claims, nodup, -⟩ := roleChecks_hold.mp h
  exact roleChecks_hold.mpr ⟨fun role member => claims role (perm.mem_iff.mp member),
    (perm.map claimKey).nodup_iff.mpr nodup, fun _ _ => by simp⟩

/-- A time that carries an offset. -/
def isAware (d : Datetime) : Bool := d.offset.isSome

/-- The instant of an aware time. -/
def instant (d : Datetime) : Int := (d.instant?).getD 0

/-! ## Approvals -/

structure ApprovalFields where
  planFingerprint : String
  approvedActionIds : List Uuid
  approvedBy : String
  issuer : String
  tenant : String
  roles : List String
  issuedAt : Datetime
  expiresAt : Datetime
  keyId : String
  signature : String
  signatureScheme : String
  approvalId : Uuid
deriving DecidableEq

namespace ApprovalFields

/-- What `Approval.__post_init__` requires before it reads the roles. -/
def claimChecks (x : ApprovalFields) : List Check :=
  [require (!isBlank x.planFingerprint) "plan_fingerprint must not be empty",
    require (x.approvedActionIds ≠ []) "approval must cover at least one action"] ++
  validateApprovalClaim x.approvedBy "approved_by" ++
  validateApprovalClaim x.issuer "approval issuer" ++
  validateApprovalClaim x.tenant "approval tenant"

/-- What it requires of the roles. -/
def rolesChecks (roles : List String) : List Check :=
  require (roles ≠ []) "approval roles must not be empty" ::
    roleChecks (validateApprovalClaim · "approval role")
      (validationError "approval roles must be unique") [] roles

/-- What it requires after the roles. -/
def bindingChecks (x : ApprovalFields) : List Check :=
  validateApprovalClaim x.keyId "approval key_id" ++
  [require (!isBlank x.signature) "approval signature must not be empty",
    require (!isBlank x.signatureScheme) "approval signature scheme must not be empty",
    require (isAware x.issuedAt) "approval issued_at must include a timezone offset",
    require (isAware x.expiresAt) "approval expires_at must include a timezone offset",
    require (instant x.issuedAt < instant x.expiresAt)
      "approval must expire after it is issued"]

/-- What `Approval.__post_init__` requires. -/
def checks (x : ApprovalFields) : List Check :=
  x.claimChecks ++ rolesChecks x.roles ++ x.bindingChecks

def normalize (x : ApprovalFields) : ApprovalFields :=
  { x with roles := sortBy casefold x.roles }

theorem rolesChecks_sorted {roles : List String} (h : ∀ c ∈ rolesChecks roles, c.1 = true) :
    ∀ c ∈ rolesChecks (sortBy casefold roles), c.1 = true := by
  simp only [rolesChecks, List.mem_cons, forall_eq_or_imp] at h ⊢
  have perm : (sortBy casefold roles).Perm roles := List.perm_insertionSort _ _
  refine ⟨?_, roleChecks_sorted h.2⟩
  have nonempty : roles ≠ [] := by simpa [require] using h.1
  have sorted : sortBy casefold roles ≠ [] := fun empty =>
    nonempty (List.perm_nil.mp (empty ▸ perm.symm))
  simpa [require] using sorted

theorem checks_normalize {x : ApprovalFields} (h : firstError x.checks = none) :
    firstError x.normalize.checks = none := by
  rw [firstError_none] at h ⊢
  simp only [checks, List.mem_append, or_imp, forall_and] at h ⊢
  exact ⟨⟨h.1.1, rolesChecks_sorted h.1.2⟩, h.2⟩

end ApprovalFields

/-- An approval as its constructor leaves it. -/
structure Approval extends ApprovalFields where
  normal : toApprovalFields.normalize = toApprovalFields
  valid : firstError toApprovalFields.checks = none
deriving DecidableEq

namespace Approval

def make (x : ApprovalFields) : Except Exn Approval :=
  build x.checks fun valid => ⟨x.normalize, by
    simp only [ApprovalFields.normalize, sortBy_sortBy], ApprovalFields.checks_normalize valid⟩

/-- `Approval.covers` at an instant. -/
def covers (a : Approval) (plan : ChangePlan) (action : AgentAction) (now : Int) : Bool :=
  a.planFingerprint == plan.fingerprint && a.approvedActionIds.contains action.actionId &&
    (instant a.issuedAt ≤ now && now < instant a.expiresAt)

/-- The members of `Approval.to_dict` that a signature authenticates. -/
def signedFields (a : ApprovalFields) : Fields :=
  [("approval_id", .str a.approvalId.str),
    ("plan_fingerprint", .str a.planFingerprint),
    ("approved_action_ids", textArray (a.approvedActionIds.map Uuid.str)),
    ("approved_by", .str a.approvedBy),
    ("issuer", .str a.issuer),
    ("tenant", .str a.tenant),
    ("roles", textArray a.roles),
    ("issued_at", .str a.issuedAt.isoformat),
    ("expires_at", .str a.expiresAt.isoformat),
    ("key_id", .str a.keyId),
    ("signature_scheme", .str a.signatureScheme)]

def toDict (a : Approval) : Json :=
  .mkObj (signedFields a.toApprovalFields ++ [("signature", .str a.signature)])

/-- `Approval.signing_payload`. -/
def signingPayload (a : ApprovalFields) : String := (Json.mkObj (signedFields a)).dumps

end Approval

/-! ## The key ring -/

structure ApprovalAuthorityFields where
  keyId : String
  subject : String
  issuer : String
  tenant : String
  roles : List String
  secret : List UInt8
  revokedBefore : Option Datetime
  revokedApprovalIds : List Uuid
deriving DecidableEq

namespace ApprovalAuthorityFields

/-- What `ApprovalAuthority.__post_init__` requires before it reads the roles. -/
def claimChecks (x : ApprovalAuthorityFields) : List Check :=
  (!isBlank x.keyId && x.keyId == strip x.keyId,
    configurationError "approval authority key_id must be normalized") ::
  validateClaim x.keyId "key_id" ++
  (!isBlank x.subject && x.subject == strip x.subject,
    configurationError "approval authority subject must be normalized") ::
  validateClaim x.subject "subject" ++ validateClaim x.issuer "issuer" ++
  validateClaim x.tenant "tenant"

/-- What it requires of the roles. -/
def rolesChecks (roles : List String) : List Check :=
  (roles ≠ [], configurationError "approval authority roles must not be empty") ::
    roleChecks (validateClaim · "role")
      (configurationError "approval authority roles must be unique") [] roles

/-- What it requires after the roles. -/
def keyChecks (x : ApprovalAuthorityFields) : List Check :=
  [(32 ≤ x.secret.length, configurationError
      s!"approval authority {x.keyId} requires at least 32 secret bytes"),
    (x.revokedBefore.all isAware,
      configurationError "approval authority revoked_before must include a timezone offset")]

/-- What `ApprovalAuthority.__post_init__` requires. -/
def checks (x : ApprovalAuthorityFields) : List Check :=
  x.claimChecks ++ rolesChecks x.roles ++ x.keyChecks

def normalize (x : ApprovalAuthorityFields) : ApprovalAuthorityFields :=
  { x with roles := sortBy casefold x.roles }

theorem checks_normalize {x : ApprovalAuthorityFields} (h : firstError x.checks = none) :
    firstError x.normalize.checks = none := by
  rw [firstError_none] at h ⊢
  simp only [checks, rolesChecks, List.mem_append, List.mem_cons, or_imp, forall_and,
    forall_eq] at h ⊢
  obtain ⟨⟨claims, nonempty, roles⟩, keys⟩ := h
  have perm : (sortBy casefold x.roles).Perm x.roles := List.perm_insertionSort _ _
  refine ⟨⟨claims, ?_, roleChecks_sorted roles⟩, keys⟩
  have given : x.roles ≠ [] := by simpa using nonempty
  have sorted : sortBy casefold x.roles ≠ [] := fun empty =>
    given (List.perm_nil.mp (empty ▸ perm.symm))
  exact decide_eq_true sorted

end ApprovalAuthorityFields

/-- A trusted identity with its key, as its constructor leaves it. -/
structure ApprovalAuthority extends ApprovalAuthorityFields where
  normal : toApprovalAuthorityFields.normalize = toApprovalAuthorityFields
  valid : firstError toApprovalAuthorityFields.checks = none
deriving DecidableEq

namespace ApprovalAuthority

def make (x : ApprovalAuthorityFields) : Except Exn ApprovalAuthority :=
  build x.checks fun valid => ⟨x.normalize, by
    simp only [ApprovalAuthorityFields.normalize, sortBy_sortBy],
    ApprovalAuthorityFields.checks_normalize valid⟩

end ApprovalAuthority

/-- `_principal_id`. -/
def principalId (h : ApprovalAuthority) : String :=
  join '|' [claimKey h.issuer, claimKey h.tenant, claimKey h.subject]

/-- What `HmacApprovalAuthenticator.__init__` requires of the mapping it is given. -/
def ringChecks (authorities : List (String × ApprovalAuthority)) : List Check :=
  (authorities ≠ [], configurationError "at least one approval authority is required") ::
  authorities.map fun (keyId, authority) => (keyId == authority.keyId,
    configurationError "approval authority mapping key must match authority key_id")

/-- An HMAC key ring: a mapping from key identifiers to the authorities that own them. -/
structure HmacApprovalAuthenticator where
  authorities : List (String × ApprovalAuthority)
  keyed : (authorities.map Prod.fst).Nodup
  valid : firstError (ringChecks authorities) = none

/-- `str.isascii`. -/
def isAscii (s : String) : Bool := s.toList.all fun c => c.toNat < 128

/-- `hmac.compare_digest` of two texts. -/
def compareDigest (expected actual : String) : Except Exn Bool :=
  if isAscii expected && isAscii actual then .ok (expected == actual)
  else .error (typeError "comparing strings with non-ASCII characters is not supported")

namespace HmacApprovalAuthenticator

/-- `HmacApprovalAuthenticator.authenticated_subject`. -/
def authenticatedSubject (ring : HmacApprovalAuthenticator) (a : Approval) :
    Except Exn (Option String) :=
  if a.signatureScheme ≠ "hmac-sha256" then .ok none
  else match ring.authorities.lookup a.keyId with
    | none => .ok none
    | some h =>
        if a.approvedBy ≠ h.subject ∨ a.issuer ≠ h.issuer ∨ a.tenant ≠ h.tenant ∨
            a.roles ≠ h.roles then .ok none
        else if h.revokedApprovalIds.contains a.approvalId then .ok none
        else if h.revokedBefore.any (instant a.issuedAt ≤ instant ·) then .ok none
        else do
          let expected := (Host.hmacSha256 h.secret (Approval.signingPayload a.toApprovalFields)).val
          if ← compareDigest expected a.signature then return some (principalId h)
          else return none

end HmacApprovalAuthenticator

/-! ## Authentication -/

/-- The approval names a ring authority with exactly its claims, which has not revoked it: its
signature is compared with that authority's. -/
structure Presented (ring : HmacApprovalAuthenticator) (a : Approval) (h : ApprovalAuthority) :
    Prop where
  scheme : a.signatureScheme = "hmac-sha256"
  member : (a.keyId, h) ∈ ring.authorities
  subject : a.approvedBy = h.subject
  issuer : a.issuer = h.issuer
  tenant : a.tenant = h.tenant
  roles : a.roles = h.roles
  unrevoked : a.approvalId ∉ h.revokedApprovalIds
  fresh : ∀ d ∈ h.revokedBefore, instant d < instant a.issuedAt

/-- The approval carries the authority's signature of its payload. -/
def Signed (a : Approval) (h : ApprovalAuthority) : Prop :=
  a.signature = (Host.hmacSha256 h.secret (Approval.signingPayload a.toApprovalFields)).val

instance (a : Approval) (h : ApprovalAuthority) : Decidable (Signed a h) :=
  inferInstanceAs (Decidable (a.signature = _))

omit [Host] in
theorem lookup_eq_some_iff {K V : Type} [DecidableEq K] {entries : List (K × V)}
    (keyed : (entries.map Prod.fst).Nodup) {key : K} {value : V} :
    entries.lookup key = some value ↔ (key, value) ∈ entries := by
  induction entries with
  | nil => simp
  | cons entry rest ih =>
      obtain ⟨k, v⟩ := entry
      rw [List.map_cons, List.nodup_cons] at keyed
      rw [List.lookup_cons, List.mem_cons, Prod.mk.injEq]
      by_cases same : key = k
      · subst same
        have absent : (key, value) ∉ rest := fun member =>
          keyed.1 (List.mem_map.mpr ⟨_, member, rfl⟩)
        simp [absent, eq_comm]
      · have other : (key == k) = false := beq_eq_false_iff_ne.mpr same
        simp [other, same, ih keyed.2]

namespace Presented

variable {ring : HmacApprovalAuthenticator} {a : Approval} {h k : ApprovalAuthority}

theorem lookup (p : Presented ring a h) : ring.authorities.lookup a.keyId = some h :=
  (lookup_eq_some_iff ring.keyed).mpr p.member

/-- An approval is compared with the secret of at most one authority. -/
theorem unique (p : Presented ring a h) (q : Presented ring a k) : h = k :=
  Option.some.inj (p.lookup.symm.trans q.lookup)

/-- A presented approval is decided by its signature. -/
theorem authenticated (p : Presented ring a h) :
    ring.authenticatedSubject a = (compareDigest (Host.hmacSha256 h.secret
      (Approval.signingPayload a.toApprovalFields)).val a.signature).map
        fun same => if same then some (principalId h) else none := by
  have claims : ¬(a.approvedBy ≠ h.subject ∨ a.issuer ≠ h.issuer ∨ a.tenant ≠ h.tenant ∨
      a.roles ≠ h.roles) := by
    simp only [p.subject, p.issuer, p.tenant, p.roles, ne_eq, not_true_eq_false, or_self,
      not_false_eq_true]
  have unrevoked : ¬h.revokedApprovalIds.contains a.approvalId = true := by
    simpa using p.unrevoked
  have fresh : ¬h.revokedBefore.any (instant a.issuedAt ≤ instant ·) = true := by
    cases revoked : h.revokedBefore with
    | none => simp
    | some d => simpa using p.fresh d revoked
  unfold HmacApprovalAuthenticator.authenticatedSubject
  rw [if_neg (not_not_intro p.scheme), p.lookup]
  simp only [if_neg claims, if_neg unrevoked, if_neg fresh]
  cases compareDigest (Host.hmacSha256 h.secret
    (Approval.signingPayload a.toApprovalFields)).val a.signature with
  | error e => rfl
  | ok same => cases same <;> rfl

end Presented

section
variable {ring : HmacApprovalAuthenticator} {a : Approval} {h : ApprovalAuthority}

/-- An approval that no authority of the ring is presented with has no subject. -/
theorem authenticatedSubject_foreign (foreign : ∀ h, ¬Presented ring a h) :
    ring.authenticatedSubject a = .ok none := by
  unfold HmacApprovalAuthenticator.authenticatedSubject
  split
  · rfl
  · next scheme =>
      split
      · rfl
      · next h found =>
          split
          · rfl
          · next claims =>
              split
              · rfl
              · next unrevoked =>
                  split
                  · rfl
                  · next fresh =>
                      refine absurd ?_ (foreign h)
                      rw [not_or, not_or, not_or] at claims
                      obtain ⟨subject, issuer, tenant, roles⟩ := claims
                      exact ⟨not_not.mp scheme, (lookup_eq_some_iff ring.keyed).mp found,
                        not_not.mp subject, not_not.mp issuer, not_not.mp tenant,
                        not_not.mp roles, by simpa using unrevoked, fun d revoked => by
                          rw [revoked] at fresh
                          simpa using fresh⟩

omit [Host] in
theorem HexText.ascii (text : HexText) : isAscii text.val = true := by
  have digits : ∀ c ∈ "0123456789abcdef".toList, c.toNat < 128 :=
    forall_chars (by decide)
  exact List.all_eq_true.mpr fun c member => decide_eq_true (digits c (text.property c member))

omit [Host] in
/-- What the comparison of signatures yields when it does not raise. -/
theorem compareDigest_ok {expected : HexText} {actual : String} (ascii : isAscii actual = true) :
    compareDigest expected.val actual = .ok (decide (actual = expected.val)) := by
  unfold compareDigest
  rw [expected.ascii, ascii, Bool.and_self, if_pos rfl, Except.ok.injEq, beq_eq_decide]
  exact decide_eq_decide.mpr eq_comm

omit [Host] in
theorem compareDigest_raises {expected actual : String} (foreign : isAscii actual = false) :
    compareDigest expected actual = .error
      (typeError "comparing strings with non-ASCII characters is not supported") := by
  unfold compareDigest
  rw [foreign, Bool.and_false]
  exact if_neg (by decide)

/-- A signed approval has the identity of its authority as subject. -/
theorem authenticatedSubject_signed (p : Presented ring a h) (ascii : isAscii a.signature = true)
    (signed : Signed a h) : ring.authenticatedSubject a = .ok (some (principalId h)) := by
  unfold Signed at signed
  rw [p.authenticated, compareDigest_ok ascii, decide_eq_true signed]
  rfl

/-- An approval whose signature is another one has no subject. -/
theorem authenticatedSubject_forged (p : Presented ring a h) (ascii : isAscii a.signature = true)
    (forged : ¬Signed a h) : ring.authenticatedSubject a = .ok none := by
  unfold Signed at forged
  rw [p.authenticated, compareDigest_ok ascii, decide_eq_false forged]
  rfl

/-- A signature outside ASCII makes the comparison raise. -/
theorem authenticatedSubject_raises (p : Presented ring a h)
    (foreign : isAscii a.signature = false) :
    ∃ e, ring.authenticatedSubject a = .error e := by
  rw [p.authenticated, compareDigest_raises foreign]
  exact ⟨_, rfl⟩

/-- A valid signature is ASCII. -/
theorem Signed.ascii (signed : Signed a h) : isAscii a.signature = true := by
  unfold Signed at signed
  rw [signed]
  exact HexText.ascii _

end

end

end MasterAgent
