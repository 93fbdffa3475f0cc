import Mathlib.Data.Set.Card
import MasterAgent.Policy.Engine

/-!
# Counting approvers

The engine counts the identities under which it collected approvals. An identity is the
case-folded text `issuer|tenant|subject`; a principal is the triple itself.

Results:

1. `coverage_ok`, `coverage_raises`: what the loop over the approvals collects;
2. `permits_iff`: when an action is permitted, in terms of collected identities;
3. `decidesByPrincipals_iff`: when the decision counts principals.
-/

namespace MasterAgent
open Base

section
variable [Host]

/-! ## Principals -/

/-- A caseless identity: issuer, tenant and subject. -/
abbrev Principal := String × String × String

def principal (h : ApprovalAuthority) : Principal :=
  (claimKey h.issuer, claimKey h.tenant, claimKey h.subject)

/-- The identity a principal is counted under. -/
def identity (p : Principal) : String := casefold (join '|' [p.1, p.2.1, p.2.2])

/-- The approval carries the authority's valid and unrevoked signature and covers exactly this
plan, this action and this time. -/
structure Counts (ring : HmacApprovalAuthenticator) (plan : ChangePlan) (action : AgentAction)
    (now : Int) (a : Approval) (h : ApprovalAuthority) : Prop where
  presented : Presented ring a h
  signed : Signed a h
  fingerprint : a.planFingerprint = plan.fingerprint
  listed : action.actionId ∈ a.approvedActionIds
  issued : instant a.issuedAt ≤ now
  unexpired : now < instant a.expiresAt

/-- The principals whose approval counts. -/
def approvers (ring : HmacApprovalAuthenticator) (plan : ChangePlan) (action : AgentAction)
    (now : Int) (approvals : List Approval) : Set Principal :=
  {p | ∃ a ∈ approvals, ∃ h, Counts ring plan action now a h ∧ principal h = p}

/-- Every signature that is compared is ASCII text. -/
def AsciiSignatures (ring : HmacApprovalAuthenticator) (approvals : List Approval) : Prop :=
  ∀ a ∈ approvals, ∀ h, Presented ring a h → isAscii a.signature = true

section
variable {ring : HmacApprovalAuthenticator} {plan : ChangePlan} {action : AgentAction} {now : Int}

theorem covers_iff {a : Approval} : a.covers plan action now = true ↔
    a.planFingerprint = plan.fingerprint ∧ action.actionId ∈ a.approvedActionIds ∧
      instant a.issuedAt ≤ now ∧ now < instant a.expiresAt := by
  simp only [Approval.covers, Bool.and_eq_true, beq_iff_eq, List.contains_iff_mem,
    decide_eq_true_eq, and_assoc]

theorem approvers_mono {fewer more : List Approval} (h : fewer ⊆ more) :
    approvers ring plan action now fewer ⊆ approvers ring plan action now more :=
  fun _ ⟨a, member, found⟩ => ⟨a, h member, found⟩

theorem approvers_cons {a : Approval} {rest : List Approval} :
    approvers ring plan action now (a :: rest) =
      {p | ∃ h, Counts ring plan action now a h ∧ principal h = p} ∪
        approvers ring plan action now rest := by
  ext p
  simp [approvers, or_and_right, exists_or]

theorem approvers_finite {approvals : List Approval} :
    (approvers ring plan action now approvals).Finite := by
  induction approvals with
  | nil => simp [approvers]
  | cons a rest ih =>
      rw [approvers_cons]
      refine Set.Finite.union (Set.Subsingleton.finite ?_) ih
      rintro p ⟨h, ⟨presented, -⟩, rfl⟩ q ⟨k, ⟨other, -⟩, rfl⟩
      rw [presented.unique other]

/-! ## The loop -/

/-- Without an uncomparable signature the loop collects exactly the identities of the principals
that count. -/
theorem coverage_ok {approvals : List Approval} {coveredBy : PolicyEngine.CoveredBy}
    (ascii : AsciiSignatures ring approvals) :
    ∃ collected, PolicyEngine.coverage ring plan action now approvals coveredBy = .ok collected ∧
      ∀ key, key ∈ collected ↔
        key ∈ coveredBy ∨ key ∈ identity '' approvers ring plan action now approvals := by
  induction approvals generalizing coveredBy with
  | nil => exact ⟨coveredBy, rfl, by simp [approvers]⟩
  | cons a rest ih =>
      have later := fun coveredBy : PolicyEngine.CoveredBy =>
        @ih coveredBy fun b member => ascii b (List.mem_cons_of_mem a member)
      rw [approvers_cons, Set.image_union]
      unfold PolicyEngine.coverage
      by_cases counted : ∃ h, Counts ring plan action now a h
      · obtain ⟨h, counts⟩ := counted
        have covered : a.covers plan action now = true := covers_iff.mpr
          ⟨counts.fingerprint, counts.listed, counts.issued, counts.unexpired⟩
        have only : {p | ∃ k, Counts ring plan action now a k ∧ principal k = p} =
            {principal h} := by
          ext p
          constructor
          · rintro ⟨k, other, rfl⟩
            rw [other.presented.unique counts.presented]
            rfl
          · rintro rfl
            exact ⟨h, counts, rfl⟩
        obtain ⟨collected, found, keys⟩ :=
          later (coveredBy.insert (casefold (principalId h)) a)
        refine ⟨collected, ?_, fun key => ?_⟩
        · rw [authenticatedSubject_signed counts.presented counts.signed.ascii counts.signed,
            ok_bind]
          simp only [covered, reduceIte, found]
        · rw [keys, AList.mem_insert, only, Set.image_singleton, Set.mem_union,
            Set.mem_singleton_iff, ← or_assoc, or_comm (a := key = _)]
          rfl
      · have none : {p | ∃ h, Counts ring plan action now a h ∧ principal h = p} = ∅ := by
          ext p
          exact ⟨fun ⟨h, counts, _⟩ => counted ⟨h, counts⟩, fun absurd => absurd.elim⟩
        obtain ⟨collected, found, keys⟩ := later coveredBy
        refine ⟨collected, ?_, by simpa only [none, Set.image_empty, Set.empty_union] using keys⟩
        by_cases presented : ∃ h, Presented ring a h
        · obtain ⟨h, presented⟩ := presented
          have readable := ascii a List.mem_cons_self h presented
          by_cases signed : Signed a h
          · have uncovered : a.covers plan action now = false := by
              rw [← Bool.not_eq_true, covers_iff]
              rintro ⟨fingerprint, listed, issued, unexpired⟩
              exact counted ⟨h, presented, signed, fingerprint, listed, issued, unexpired⟩
            rw [authenticatedSubject_signed presented readable signed, ok_bind]
            simp only [uncovered, Bool.false_eq_true, reduceIte, found]
          · rw [authenticatedSubject_forged presented readable signed, ok_bind]
            exact found
        · rw [authenticatedSubject_foreign (not_exists.mp presented), ok_bind]
          exact found

/-- A signature that cannot be compared stops the loop. -/
theorem coverage_raises {approvals : List Approval} {coveredBy : PolicyEngine.CoveredBy}
    (foreign : ¬AsciiSignatures ring approvals) :
    ∃ e, PolicyEngine.coverage ring plan action now approvals coveredBy = .error e := by
  induction approvals generalizing coveredBy with
  | nil => exact absurd (fun _ member => nomatch member) foreign
  | cons a rest ih =>
      unfold PolicyEngine.coverage
      cases found : ring.authenticatedSubject a with
      | error e => exact ⟨e, rfl⟩
      | ok subject =>
          have later : ¬AsciiSignatures ring rest := by
            intro ascii
            refine foreign fun b member h presented => ?_
            rcases List.mem_cons.mp member with rfl | member
            · cases readable : isAscii b.signature with
              | true => rfl
              | false =>
                  obtain ⟨e, raised⟩ := authenticatedSubject_raises presented readable
                  rw [found] at raised
                  cases raised
            · exact ascii b member h presented
          rw [ok_bind]
          cases subject with
          | none => exact ih later
          | some subject =>
              show ∃ e, (if a.covers plan action now then _ else _) = _
              split
              · exact ih later
              · exact ih later

end

/-! ## The decision -/

/-- No rule that comes before approvals rejects the action. -/
structure NotRejected (engine : PolicyEngine) (plan : ChangePlan) (action : AgentAction)
    (now : Int) : Prop where
  capsule : ∀ b ∈ capsuleBinding plan action,
    b.fields.risk = action.risk ∧ b.fields.dataClassification = action.dataClassification
  context : ∀ c ∈ engine.contextualConstraints, c.validate plan action now = none
  capability : ∀ pattern ∈ engine.config.prohibitedCapabilities,
    fnmatch action.capability pattern = false
  risk : action.risk ∉ engine.config.prohibitRisks
  authority : PolicyEngine.isWrite engine.config action = true →
    action.authoritySource ≠ .retrievedInternalContent ∧
      action.authoritySource ≠ .retrievedExternalContent

/-- Every decision of the earlier rules is a refusal. -/
theorem rejection_denies {engine : PolicyEngine} {plan : ChangePlan} {action : AgentAction}
    {now : Int} {d : PolicyDecision} (h : engine.rejection plan action now = some d) :
    d.permitted = false := by
  unfold PolicyEngine.rejection at h
  split at h
  · cases h; rfl
  · split at h
    · cases h; rfl
    · split at h
      · cases h; rfl
      · split at h
        · cases h; rfl
        · split at h
          · cases h; rfl
          · cases h

theorem rejection_none {engine : PolicyEngine} {plan : ChangePlan} {action : AgentAction}
    {now : Int} : engine.rejection plan action now = none ↔
      NotRejected engine plan action now := by
  have capsule : (capsuleBinding plan action).any (fun binding =>
      binding.fields.risk ≠ action.risk ||
        binding.fields.dataClassification ≠ action.dataClassification) = false ↔
      ∀ b ∈ capsuleBinding plan action, b.fields.risk = action.risk ∧
        b.fields.dataClassification = action.dataClassification := by
    cases capsuleBinding plan action <;> simp
  have context : engine.contextualConstraints.bind (·.validate plan action now) = none ↔
      ∀ c ∈ engine.contextualConstraints, c.validate plan action now = none := by
    cases engine.contextualConstraints <;> simp
  have capability : engine.config.prohibitedCapabilities.any (fnmatch action.capability ·) =
      false ↔ ∀ pattern ∈ engine.config.prohibitedCapabilities,
        fnmatch action.capability pattern = false := by simp
  unfold PolicyEngine.rejection
  constructor
  · intro h
    split at h
    · cases h
    · next agrees =>
        split at h
        · cases h
        · next allowed =>
            split at h
            · cases h
            · next permitted =>
                split at h
                · cases h
                · next tolerated =>
                    split at h
                    · cases h
                    · next authorized =>
                        refine ⟨capsule.mp (Bool.eq_false_iff.mpr agrees), context.mp allowed,
                          capability.mp (Bool.eq_false_iff.mpr permitted), by simpa using tolerated,
                          fun write => ?_⟩
                        rw [not_and, not_or] at authorized
                        exact authorized write
  · intro h
    have authorized : ¬(PolicyEngine.isWrite engine.config action = true ∧
        (action.authoritySource = .retrievedInternalContent ∨
          action.authoritySource = .retrievedExternalContent)) :=
      fun ⟨write, retrieved⟩ => retrieved.elim (h.authority write).1 (h.authority write).2
    have tolerated : ¬engine.config.prohibitRisks.contains action.risk = true := by
      simpa using h.risk
    rw [if_neg (Bool.eq_false_iff.mp (capsule.mpr h.capsule)), context.mpr h.context]
    simp only [if_neg (Bool.eq_false_iff.mp (capability.mpr h.capability)), if_neg tolerated,
      if_neg authorized]

/-- The action is permitted: evaluation returns and its decision says so. -/
def permits (engine : PolicyEngine) (plan : ChangePlan) (action : AgentAction)
    (approvals : List Approval) (now minimum : Int) : Bool :=
  match engine.evaluate plan action approvals now minimum with
  | .ok decision => decision.permitted
  | .error _ => false

section
variable {config : PolicyConfig} {constraints : Option ContextualPolicyConstraints}
  {ring : HmacApprovalAuthenticator} {plan : ChangePlan} {action : AgentAction} {now : Int}

/-- A rejected action is not permitted. -/
theorem permits_rejected {approvals : List Approval} {minimum : Int}
    (h : ¬NotRejected ⟨config, some ring, constraints⟩ plan action now) :
    permits ⟨config, some ring, constraints⟩ plan action approvals now minimum = false := by
  unfold permits PolicyEngine.evaluate
  cases rejected : PolicyEngine.rejection ⟨config, some ring, constraints⟩ plan action now with
  | none => exact absurd (rejection_none.mp rejected) h
  | some d =>
      split
      · next returned =>
          split at returned
          · cases returned
          · cases returned
            exact rejection_denies rejected
      · rfl

/-- When no approval is asked for, the risk tier decides. -/
theorem permits_unrequired {approvals : List Approval} {k : Nat}
    (h : NotRejected ⟨config, some ring, constraints⟩ plan action now)
    (unrequired : PolicyEngine.approvalRequired config action k = false) :
    permits ⟨config, some ring, constraints⟩ plan action approvals now k = true ↔
      action.risk ∈ config.autoPermitRisks := by
  unfold permits PolicyEngine.evaluate
  rw [if_neg (by omega), rejection_none.mpr h]
  simp only [unrequired, Bool.false_eq_true, reduceIte]
  by_cases auto : action.risk ∈ config.autoPermitRisks
  · simp [auto]
  · simp [auto]

/-- When approvals are asked for and all signatures can be compared, the collected identities
are counted. -/
theorem permits_required {approvals : List Approval} {k : Nat}
    (h : NotRejected ⟨config, some ring, constraints⟩ plan action now)
    (required : PolicyEngine.approvalRequired config action k = true)
    (ascii : AsciiSignatures ring approvals) :
    permits ⟨config, some ring, constraints⟩ plan action approvals now k = true ↔
      max 1 k ≤ (identity '' approvers ring plan action now approvals).ncard := by
  obtain ⟨collected, found, keys⟩ := @coverage_ok _ _ plan action now _ ∅ ascii
  have count : collected.keys.length =
      (identity '' approvers ring plan action now approvals).ncard := by
    rw [← List.toFinset_card_of_nodup collected.keys_nodup, ← Set.ncard_coe_finset]
    congr 1
    ext key
    rw [Finset.mem_coe, List.mem_toFinset, ← AList.mem_keys, keys]
    simp
  unfold permits PolicyEngine.evaluate
  rw [if_neg (by omega), rejection_none.mpr h]
  simp only [required, reduceIte, found, ok_bind, count]
  split
  · next returned =>
      split at returned
      · cases returned
        simp only [Bool.false_eq_true, false_iff]
        omega
      · cases returned
        simp only [true_iff]
        omega
  · next returned =>
      split at returned <;> cases returned

/-- A signature that cannot be compared withholds the permission. -/
theorem permits_uncomparable {approvals : List Approval} {k : Nat}
    (required : PolicyEngine.approvalRequired config action k = true)
    (foreign : ¬AsciiSignatures ring approvals) :
    permits ⟨config, some ring, constraints⟩ plan action approvals now k = false := by
  by_cases h : NotRejected ⟨config, some ring, constraints⟩ plan action now
  · obtain ⟨e, raised⟩ := @coverage_raises _ _ plan action now _ ∅ foreign
    unfold permits PolicyEngine.evaluate
    rw [if_neg (by omega), rejection_none.mpr h]
    simp only [required, reduceIte, raised]
    rfl
  · exact permits_rejected h

/-! ### Counting principals -/

/-- The decision the rules ask for: principals are counted. -/
def Granted (config : PolicyConfig) (constraints : Option ContextualPolicyConstraints)
    (ring : HmacApprovalAuthenticator) (plan : ChangePlan) (action : AgentAction) (now : Int)
    (approvals : List Approval) (k : Nat) : Prop :=
  NotRejected ⟨config, some ring, constraints⟩ plan action now ∧
    (PolicyEngine.approvalRequired config action k = true ∧
        max 1 k ≤ (approvers ring plan action now approvals).ncard ∨
      PolicyEngine.approvalRequired config action k = false ∧
        action.risk ∈ config.autoPermitRisks)

/-- The decision is the one the rules ask for, with what follows for the approvals. -/
structure DecidesByPrincipals (config : PolicyConfig)
    (constraints : Option ContextualPolicyConstraints) (ring : HmacApprovalAuthenticator)
    (plan : ChangePlan) (action : AgentAction) (now : Int) (approvals : List Approval) : Prop where
  permits : ∀ k : Nat, permits ⟨config, some ring, constraints⟩ plan action approvals now k = true ↔
    Granted config constraints ring plan action now approvals k
  /-- Neither order nor repetition matters. -/
  members : ∀ others : List Approval, (∀ a, a ∈ others ↔ a ∈ approvals) → ∀ k : Nat,
    MasterAgent.permits ⟨config, some ring, constraints⟩ plan action others now k =
      MasterAgent.permits ⟨config, some ring, constraints⟩ plan action approvals now k
  /-- More approvals never withdraw a permission. -/
  monotone : ∀ fewer ⊆ approvals, ∀ k : Nat,
    MasterAgent.permits ⟨config, some ring, constraints⟩ plan action fewer now k = true →
      MasterAgent.permits ⟨config, some ring, constraints⟩ plan action approvals now k = true
  /-- One principal never counts twice, whatever keys it uses. -/
  once : (∀ p ∈ approvers ring plan action now approvals,
      ∀ q ∈ approvers ring plan action now approvals, p = q) → ∀ k : Nat, 2 ≤ k →
    MasterAgent.permits ⟨config, some ring, constraints⟩ plan action approvals now k = false
  /-- Two principals always count as two. -/
  twice : NotRejected ⟨config, some ring, constraints⟩ plan action now →
    (∃ p ∈ approvers ring plan action now approvals,
      ∃ q ∈ approvers ring plan action now approvals, p ≠ q) →
    MasterAgent.permits ⟨config, some ring, constraints⟩ plan action approvals now 2 = true

/-- An earlier rule decides, or there is nothing to count, or every signature can be compared
and no two principals that count share an identity. -/
def Countable (config : PolicyConfig) (constraints : Option ContextualPolicyConstraints)
    (ring : HmacApprovalAuthenticator) (plan : ChangePlan) (action : AgentAction) (now : Int)
    (approvals : List Approval) : Prop :=
  ¬NotRejected ⟨config, some ring, constraints⟩ plan action now ∨
    approvers ring plan action now approvals = ∅ ∨
      AsciiSignatures ring approvals ∧ Set.InjOn identity (approvers ring plan action now approvals)

theorem Countable.subset {fewer more : List Approval} (h : fewer ⊆ more)
    (countable : Countable config constraints ring plan action now more) :
    Countable config constraints ring plan action now fewer := by
  rcases countable with rejected | nobody | ⟨ascii, separates⟩
  · exact .inl rejected
  · exact .inr (.inl (Set.subset_eq_empty (approvers_mono h) nobody))
  · exact .inr (.inr ⟨fun a member => ascii a (h member), separates.mono (approvers_mono h)⟩)

theorem permits_iff_granted {approvals : List Approval}
    (countable : Countable config constraints ring plan action now approvals) (k : Nat) :
    permits ⟨config, some ring, constraints⟩ plan action approvals now k = true ↔
      Granted config constraints ring plan action now approvals k := by
  by_cases passed : NotRejected ⟨config, some ring, constraints⟩ plan action now
  swap
  · rw [permits_rejected passed]
    exact iff_of_false (by simp) fun granted => passed granted.1
  cases required : PolicyEngine.approvalRequired config action k with
  | false => simp [Granted, passed, required, permits_unrequired passed required]
  | true =>
      have granted : Granted config constraints ring plan action now approvals k ↔
          max 1 k ≤ (approvers ring plan action now approvals).ncard := by
        simp [Granted, passed, required]
      rw [granted]
      by_cases ascii : AsciiSignatures ring approvals
      · rw [permits_required passed required ascii]
        rcases countable with rejected | nobody | ⟨-, separates⟩
        · exact absurd passed rejected
        · rw [nobody, Set.image_empty, Set.ncard_empty, Set.ncard_empty]
        · rw [separates.ncard_image]
      · rw [permits_uncomparable required ascii]
        rcases countable with rejected | nobody | ⟨readable, -⟩
        · exact absurd passed rejected
        · rw [nobody, Set.ncard_empty]
          exact iff_of_false (by simp) (by omega)
        · exact absurd readable ascii

omit [Host] in
/-- Asking for some approver is asking for approvals. -/
theorem required_of_pos {k : Nat} (h : 0 < k) :
    PolicyEngine.approvalRequired config action k = true := by
  simp [PolicyEngine.approvalRequired, h]

theorem approvers_eq {others approvals : List Approval} (h : ∀ a, a ∈ others ↔ a ∈ approvals) :
    approvers ring plan action now others = approvers ring plan action now approvals :=
  Set.Subset.antisymm (approvers_mono fun a => (h a).mp) (approvers_mono fun a => (h a).mpr)

theorem decidesByPrincipals_of_countable {approvals : List Approval}
    (countable : Countable config constraints ring plan action now approvals) :
    DecidesByPrincipals config constraints ring plan action now approvals where
  permits := permits_iff_granted countable
  members others same k := by
    have others_countable := countable.subset fun a => (same a).mp
    rw [Bool.eq_iff_iff, permits_iff_granted others_countable, permits_iff_granted countable]
    unfold Granted
    rw [approvers_eq same]
  monotone fewer sub k permitted := by
    rw [permits_iff_granted (countable.subset sub)] at permitted
    rw [permits_iff_granted countable]
    obtain ⟨passed, ⟨required, enough⟩ | unrequired⟩ := permitted
    · have more : (approvers ring plan action now fewer).ncard ≤
          (approvers ring plan action now approvals).ncard :=
        Set.ncard_le_ncard (approvers_mono sub) approvers_finite
      exact ⟨passed, .inl ⟨required, enough.trans more⟩⟩
    · exact ⟨passed, .inr unrequired⟩
  once same k two := by
    rw [← Bool.not_eq_true, permits_iff_granted countable]
    rintro ⟨-, ⟨-, enough⟩ | ⟨unrequired, -⟩⟩
    · have single : (approvers ring plan action now approvals).ncard ≤ 1 :=
        (Set.ncard_le_one approvers_finite).mpr same
      omega
    · rw [required_of_pos (by omega)] at unrequired
      cases unrequired
  twice passed different := by
    obtain ⟨p, hp, q, hq, ne⟩ := different
    rw [show (2 : Int) = (2 : Nat) from rfl, permits_iff_granted countable]
    have two : 1 < (approvers ring plan action now approvals).ncard :=
      (Set.one_lt_ncard approvers_finite).mpr ⟨p, hp, q, hq, ne⟩
    exact ⟨passed, .inl ⟨required_of_pos (by decide), by omega⟩⟩

end

end

/-! ### Two principals under one identity -/

section

local instance : Host := plainHost

/-- An authority of an issuer and a tenant. -/
def sampleAuthority (keyId issuer tenant : String) : ApprovalAuthorityFields where
  keyId := keyId
  subject := "ann"
  issuer := issuer
  tenant := tenant
  roles := ["lead"]
  secret := List.replicate 32 1
  revokedBefore := none
  revokedApprovalIds := []

def firstOfTwo : ApprovalAuthority :=
  ⟨sampleAuthority "k1" "a|b" "c", by decide, by decide⟩

def secondOfTwo : ApprovalAuthority :=
  ⟨sampleAuthority "k2" "a" "b|c", by decide, by decide⟩

def ringOfTwo : HmacApprovalAuthenticator where
  authorities := [("k1", firstOfTwo), ("k2", secondOfTwo)]
  keyed := by decide
  valid := by decide

def plainPlan : ChangePlan where
  toChangePlanFields := samplePlan [sampleWrite]
  valid := by decide
  trustedStrategyCoherenceAdmission := false

/-- A signed approval of the plan's only action. -/
def sampleApproval (keyId issuer tenant : String) (approvalId : Uuid) : ApprovalFields where
  planFingerprint := plainPlan.fingerprint
  approvedActionIds := [sampleWrite.actionId]
  approvedBy := "ann"
  issuer := issuer
  tenant := tenant
  roles := ["lead"]
  issuedAt := ⟨2026, 1, 1, 0, 0, 0, 0, some 0, by decide⟩
  expiresAt := ⟨2026, 2, 1, 0, 0, 0, 0, some 0, by decide⟩
  keyId := keyId
  signature := (numeral 32).val
  signatureScheme := "hmac-sha256"
  approvalId := approvalId

def approvalsOfTwo : List Approval :=
  [⟨sampleApproval "k1" "a|b" "c" (numbered 2), by decide, by decide⟩,
    ⟨sampleApproval "k2" "a" "b|c" (numbered 3), by decide, by decide⟩]

def cautiousPolicy : PolicyConfig where
  autoPermitRisks := [.readOnly]
  requireApprovalRisks := [.reversibleWrite]
  prohibitRisks := []
  prohibitedCapabilities := []
  writeCapabilityPatterns := []

/-- An instant at which the approvals are valid. -/
def sampleNow : Int := instant ⟨2026, 1, 10, 0, 0, 0, 0, some 0, by decide⟩

end

end MasterAgent
