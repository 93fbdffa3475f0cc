import MasterAgent.Base.JsonLoads
import MasterAgent.Orchestrator.Run

/-!
# Execution receipts

Signed, content-free evidence for one governed run: its fields, the signer, what
`build_execution_receipt` takes from a report, and the export to an external sink.

Results:

1. `verify_sign`: a signer verifies what it has signed;
2. `build_spec`: what a receipt says of the plan, of the report and of its audit anchor;
3. `build_ok`: when a receipt is built.
-/

namespace MasterAgent
open Base

/-! ## Serialization of a report -/

def CompensationDescriptor.toDict (x : CompensationDescriptor) : Json :=
  .mkObj [("schema", .str x.schema),
    ("kind", .str x.kind),
    ("mode", .str x.mode.str),
    ("capability", optStr x.capability),
    ("parameters", .obj x.parameters),
    ("expected_version", optStr x.expectedVersion),
    ("target_resource_id", optStr x.targetResourceId),
    ("reason", optStr x.reason)]

/-- `_canonical_json`. -/
def canonicalJson (value : Json) : String := String.ofList (Json.render Json.compactAscii 0 value)

variable [Host]

def ExecutionResult.toDict (r : ExecutionResult) : Except Exn Json := do
  r.validateIntegrity
  return .mkObj [("action_id", .str r.actionId.str),
    ("state", .str r.state.str),
    ("before", r.before.elim .null .obj),
    ("after", r.after.elim .null .obj),
    ("connector_reference", optStr r.connectorReference),
    ("message", .str r.message),
    ("compensation", r.compensation.elim .null CompensationDescriptor.toDict)]

/-- An attribute of what is no `ExecutionResult`. -/
def noAttribute (name : String) : Exn :=
  ⟨.other, "AttributeError", s!"object has no attribute {name}"⟩

def ExecutionOutcome.toDict : ExecutionOutcome → Except Exn Json
  | .result r => r.toDict
  | .invalid => .error (noAttribute "to_dict")

/-- `value.to_dict() if value is not None else None` -/
def optDict {R : Type} (toDict : R → Except Exn Json) : Option R → Except Exn Json
  | none => .ok .null
  | some value => toDict value

def ActionReport.toDict (r : ActionReport) : Except Exn Json := do
  let result ← optDict ExecutionOutcome.toDict r.result
  let compensation ← optDict ExecutionResult.toDict r.compensation
  return .mkObj [("action_id", .str r.actionId.str),
    ("capability", .str r.capability),
    ("state", .str r.state.str),
    ("message", .str r.message),
    ("result", result),
    ("compensation", compensation),
    ("egress", r.egress.elim .null EgressBinding.payload)]

namespace RunReport

/-- Every action reached a successful state. -/
def successful (r : RunReport) : Bool :=
  r.actions.all fun item => item.state == .planned || item.state == .verified || item.state == .reused

/-- At least one side effect was rolled back. -/
def compensated (r : RunReport) : Bool := r.actions.any (·.state == .compensated)

/-- `RunReport.to_dict`, without a performance snapshot. -/
def toDict (r : RunReport) : Except Exn Json := do
  let actions ← r.actions.mapM ActionReport.toDict
  return .mkObj [("run_id", .str r.runId.str),
    ("plan_id", .str r.planId.str),
    ("plan_fingerprint", .str r.planFingerprint),
    ("dry_run", .bool r.dryRun),
    ("successful", .bool r.successful),
    ("compensated", .bool r.compensated),
    ("actions", .arr actions),
    ("systems_review", r.systemsReview)]

end RunReport

/-! ## Receipts -/

def EXECUTION_RECEIPT_SCHEMA : String := "master-agent/execution-receipt@1"

structure ExecutionReceiptFields where
  receiptId : Uuid
  runId : Uuid
  planId : Uuid
  planFingerprint : String
  dryRun : Bool
  successful : Bool
  approvalClaims : List Json
  capsuleBindings : List Json
  actionOutcomes : List Json
  auditAnchorSha256 : String
  createdAt : Datetime
  signerKeyId : String
  signature : String
  schema : String

namespace ExecutionReceiptFields

omit [Host] in
/-- What `ExecutionReceipt.__post_init__` requires. -/
def checks (x : ExecutionReceiptFields) : List Check :=
  [(x.schema == EXECUTION_RECEIPT_SCHEMA,
      configurationError "execution receipt schema is unsupported"),
    (isSha256 x.planFingerprint, configurationError
      "execution receipt plan_fingerprint must be a lowercase SHA-256 digest"),
    (isSha256 x.auditAnchorSha256, configurationError
      "execution receipt audit_anchor_sha256 must be a lowercase SHA-256 digest"),
    (x.createdAt.offset.isSome,
      configurationError "execution receipt timestamp requires a timezone"),
    (x.signerKeyId != "", configurationError "execution receipt signer is empty"),
    (x.signature == "" || isSha256 x.signature, configurationError
      "execution receipt signature must be a lowercase SHA-256 digest")]

omit [Host] in
def unsignedDict (x : ExecutionReceiptFields) : Fields :=
  [("schema", .str x.schema),
    ("receipt_id", .str x.receiptId.str),
    ("run_id", .str x.runId.str),
    ("plan_id", .str x.planId.str),
    ("plan_fingerprint", .str x.planFingerprint),
    ("dry_run", .bool x.dryRun),
    ("successful", .bool x.successful),
    ("approval_claims", .arr x.approvalClaims),
    ("capsule_bindings", .arr x.capsuleBindings),
    ("action_outcomes", .arr x.actionOutcomes),
    ("audit_anchor_sha256", .str x.auditAnchorSha256),
    ("created_at", .str x.createdAt.isoformat),
    ("signer_key_id", .str x.signerKeyId)]

end ExecutionReceiptFields

structure ExecutionReceipt extends ExecutionReceiptFields where
  valid : firstError toExecutionReceiptFields.checks = none

namespace ExecutionReceipt

omit [Host] in
def make (x : ExecutionReceiptFields) : Except Exn ExecutionReceipt :=
  build x.checks fun valid => ⟨x, valid⟩

omit [Host] in
def toDict (r : ExecutionReceipt) : Json :=
  .mkObj (r.unsignedDict ++ [("signature", .str r.signature)])

/-- `ExecutionReceipt.receipt_sha256`. -/
def receiptSha256 (r : ExecutionReceipt) : Except Exn String :=
  if r.signature = "" then
    .error (configurationError "unsigned execution receipt has no identity")
  else .ok (Host.sha256 (canonicalJson r.toDict))

end ExecutionReceipt

/-- An authenticated receipt authority. -/
structure ReceiptSigner where
  keyId : String
  secret : List UInt8
  identified : keyId ≠ ""
  long : 32 ≤ secret.length

namespace ReceiptSigner

/-- The digest that authenticates the fields of a receipt. -/
def digest (signer : ReceiptSigner) (x : ExecutionReceiptFields) : String :=
  (Host.hmacSha256 signer.secret (canonicalJson (.mkObj x.unsignedDict))).val

def sign (signer : ReceiptSigner) (r : ExecutionReceipt) : Except Exn ExecutionReceipt :=
  if r.signerKeyId ≠ signer.keyId then
    .error (configurationError "execution receipt signer identity drifted")
  else ExecutionReceipt.make { r.toExecutionReceiptFields with
    signature := signer.digest r.toExecutionReceiptFields }

def verify (signer : ReceiptSigner) (r : ExecutionReceipt) : Except Exn Bool :=
  if r.signerKeyId ≠ signer.keyId ∨ r.signature = "" then .ok false
  else do
    let unsigned ← ExecutionReceipt.make { r.toExecutionReceiptFields with
      signature := ""
      schema := EXECUTION_RECEIPT_SCHEMA }
    let expected ← signer.sign unsigned
    return expected.signature == r.signature

end ReceiptSigner

/-! ## Building a receipt -/

/-- `_mapping_digest`. -/
def mappingDigest (value : Option Fields) : Json :=
  value.elim .null fun fields => .str (Host.sha256 (canonicalJson (.obj fields)))

/-- What a receipt says of an approval. -/
def approvalClaim (item : Approval) (authenticatedSubject : String) : Json :=
  .mkObj [("approval_id", .str item.approvalId.str),
    ("approved_by", .str item.approvedBy),
    ("authenticated_principal", .str authenticatedSubject),
    ("issuer", .str item.issuer),
    ("tenant", .str item.tenant),
    ("roles", textArray item.roles),
    ("key_id", .str item.keyId),
    ("approved_action_ids", textArray (item.approvedActionIds.map Uuid.str)),
    ("signature_sha256", .str (Host.sha256 item.signature))]

omit [Host] in
/-- `item.result`, where something is read of it. -/
def outcomeResult : Option ExecutionOutcome → Except Exn (Option ExecutionResult)
  | none => .ok none
  | some (.result r) => .ok (some r)
  | some .invalid => .error (noAttribute "connector_reference")

/-- What a receipt says of an action. -/
def actionOutcome (item : ActionReport) : Except Exn Json := do
  let result ← outcomeResult item.result
  let reference := result.bind (·.connectorReference)
  return .mkObj [("action_id", .str item.actionId.str),
    ("capability", .str item.capability),
    ("state", .str item.state.str),
    ("policy_permitted", .bool (!(["prohibited", "approval_required"].contains item.state.str))),
    ("connector_reference_sha256", match reference with
      | none | some "" => .null
      | some text => .str (Host.sha256 text)),
    ("readback_verified", .bool (["verified", "reused"].contains item.state.str)),
    ("result_before_sha256", mappingDigest (result.bind (·.before))),
    ("result_after_sha256", mappingDigest (result.bind (·.after))),
    ("compensation_state", item.compensation.elim .null fun c => .str c.state.str),
    ("compensation_after_sha256", mappingDigest (item.compensation.bind (·.after)))]

/-- The capsules of a plan's execution context. -/
def ChangePlan.capsules (plan : ChangePlan) : List CapabilityCapsuleExecutionBinding :=
  plan.executionContext.elim [] (·.fields.capsules)

/-- The receipt before it is signed. -/
def unsignedReceipt (plan : ChangePlan) (report : RunReport)
    (authenticatedApprovals : List (Approval × String)) (auditAnchorSha256 : String)
    (signer : ReceiptSigner) (receiptId : Uuid) (now : Datetime) (outcomes : List Json) :
    ExecutionReceiptFields where
  receiptId := receiptId
  runId := report.runId
  planId := plan.planId
  planFingerprint := plan.fingerprint
  dryRun := report.dryRun
  successful := report.successful
  approvalClaims := (authenticatedApprovals.filter (·.1.planFingerprint == plan.fingerprint)).map
    fun (item, subject) => approvalClaim item subject
  capsuleBindings := plan.capsules.map CapabilityCapsuleExecutionBinding.toDict
  actionOutcomes := outcomes
  auditAnchorSha256 := auditAnchorSha256
  createdAt := now
  signerKeyId := signer.keyId
  signature := ""
  schema := EXECUTION_RECEIPT_SCHEMA

/-- `build_execution_receipt`, under a drawn identifier and the time it is built at. -/
def buildExecutionReceipt (plan : ChangePlan) (report : RunReport)
    (authenticatedApprovals : List (Approval × String)) (auditAnchorSha256 : String)
    (signer : ReceiptSigner) (receiptId : Uuid) (now : Datetime) : Except Exn ExecutionReceipt :=
  if report.planId ≠ plan.planId ∨ report.planFingerprint ≠ plan.fingerprint then
    .error (configurationError "execution report differs from the receipt plan")
  else do
    let outcomes ← report.actions.mapM actionOutcome
    let unsigned ← ExecutionReceipt.make (unsignedReceipt plan report authenticatedApprovals
      auditAnchorSha256 signer receiptId now outcomes)
    signer.sign unsigned

/-! ## What a receipt says -/

/-- The digests of the host are 64 hexadecimal digits. -/
structure ProperDigests : Prop where
  sha256 : ∀ text : String, isSha256 (Host.sha256 text) = true
  hmac : ∀ (secret : List UInt8) (text : String), isSha256 (Host.hmacSha256 secret text).val = true

omit [Host] in
theorem make_ok {x : ExecutionReceiptFields} {r : ExecutionReceipt}
    (made : ExecutionReceipt.make x = .ok r) : r.toExecutionReceiptFields = x := by
  obtain ⟨valid, rfl⟩ := of_build_ok made
  rfl

theorem sign_ok {signer : ReceiptSigner} {u r : ExecutionReceipt} (signed : signer.sign u = .ok r) :
    u.signerKeyId = signer.keyId ∧ r.toExecutionReceiptFields =
      { u.toExecutionReceiptFields with signature := signer.digest u.toExecutionReceiptFields } := by
  unfold ReceiptSigner.sign at signed
  split at signed
  · cases signed
  · next same => exact ⟨not_not.mp same, make_ok signed⟩

/-- A signer verifies what it has signed. -/
theorem verify_sign {signer : ReceiptSigner} {u r : ExecutionReceipt} (signed : signer.sign u = .ok r)
    (unsigned : u.signature = "") (nonempty : r.signature ≠ "") : signer.verify r = .ok true := by
  obtain ⟨owner, fields⟩ := sign_ok signed
  have schema : u.schema = EXECUTION_RECEIPT_SCHEMA :=
    beq_iff_eq.mp (firstError_none.mp u.valid _ List.mem_cons_self)
  have same : { r.toExecutionReceiptFields with
      signature := ""
      schema := EXECUTION_RECEIPT_SCHEMA } = u.toExecutionReceiptFields := by
    rw [fields, ← schema, ← unsigned]
  have remade : ExecutionReceipt.make { r.toExecutionReceiptFields with
      signature := ""
      schema := EXECUTION_RECEIPT_SCHEMA } = .ok u := by
    rw [same]
    exact build_ok u.valid
  have key : r.signerKeyId = signer.keyId := by
    rw [fields]
    exact owner
  unfold ReceiptSigner.verify
  rw [if_neg (not_or.mpr ⟨not_not.mpr key, nonempty⟩), remade]
  change (signer.sign u >>= fun expected => pure (expected.signature == r.signature)) = .ok true
  rw [signed]
  exact congrArg Except.ok (beq_self_eq_true _)

variable {plan : ChangePlan} {report : RunReport} {approvals : List (Approval × String)}
  {anchor : String} {signer : ReceiptSigner} {receiptId : Uuid} {now : Datetime}

/-- What a built receipt says of the plan, of the report and of its anchor. -/
structure Attests (plan : ChangePlan) (report : RunReport) (anchor : String)
    (signer : ReceiptSigner) (r : ExecutionReceipt) : Prop where
  planId : r.planId = plan.planId
  fingerprint : r.planFingerprint = plan.fingerprint
  run : r.runId = report.runId
  dryRun : r.dryRun = report.dryRun
  successful : r.successful = report.successful
  anchor : r.auditAnchorSha256 = anchor
  signed : r.signature ≠ "" → signer.verify r = .ok true

theorem build_spec {r : ExecutionReceipt}
    (built : buildExecutionReceipt plan report approvals anchor signer receiptId now = .ok r) :
    Attests plan report anchor signer r := by
  unfold buildExecutionReceipt at built
  split at built
  · cases built
  obtain ⟨outcomes, _, built⟩ := of_bind_ok built
  obtain ⟨unsigned, made, signed⟩ := of_bind_ok built
  have written := make_ok made
  have fields := (sign_ok signed).2
  have empty : unsigned.signature = "" := by
    rw [written]
    rfl
  constructor
  case signed => exact verify_sign signed empty
  all_goals
    rw [fields, written]
    rfl

/-! ## When a receipt is built -/

omit [Host] in
theorem outcomeResult_ok [Host] {item : ActionReport} {value : Json}
    (serialized : item.toDict = .ok value) : ∃ result, outcomeResult item.result = .ok result := by
  unfold ActionReport.toDict at serialized
  obtain ⟨result, shown, _⟩ := of_bind_ok serialized
  cases held : item.result with
  | none => exact ⟨none, rfl⟩
  | some outcome =>
    cases outcome with
    | result r => exact ⟨some r, rfl⟩
    | invalid =>
      rw [held] at shown
      cases shown

/-- A report that can be serialized has an outcome for each action. -/
theorem outcomes_ok {value : Json} (serialized : report.toDict = .ok value) :
    ∃ outcomes, report.actions.mapM actionOutcome = .ok outcomes := by
  unfold RunReport.toDict at serialized
  obtain ⟨values, shown, -⟩ := of_bind_ok serialized
  generalize report.actions = items at shown
  clear serialized
  induction items generalizing values with
  | nil => exact ⟨[], rfl⟩
  | cons item items ih =>
    rw [List.mapM_cons] at shown ⊢
    obtain ⟨first, here, shown⟩ := of_bind_ok shown
    obtain ⟨later, rest, _⟩ := of_bind_ok shown
    obtain ⟨result, read⟩ := outcomeResult_ok here
    obtain ⟨outcomes, others⟩ := ih later rest
    have outcome : ∃ json, actionOutcome item = .ok json := by
      unfold actionOutcome
      rw [read]
      exact ⟨_, rfl⟩
    obtain ⟨json, outcome⟩ := outcome
    rw [outcome, others]
    exact ⟨_, rfl⟩

/-- A report of the plan that can be serialized has a receipt. -/
theorem build_succeeds (proper : ProperDigests) (matches_plan : report.planId = plan.planId)
    (matches_fingerprint : report.planFingerprint = plan.fingerprint) {value : Json}
    (serialized : report.toDict = .ok value) (digest : isSha256 anchor = true)
    (aware : now.offset.isSome = true) :
    ∃ r, buildExecutionReceipt plan report approvals anchor signer receiptId now = .ok r ∧
      r.signature ≠ "" := by
  obtain ⟨outcomes, shown⟩ := outcomes_ok serialized
  have fingerprint : isSha256 plan.fingerprint = true := proper.sha256 _
  unfold buildExecutionReceipt
  rw [if_neg (not_or.mpr ⟨not_not.mpr matches_plan, not_not.mpr matches_fingerprint⟩), shown]
  have identified : (signer.keyId != "") = true := bne_iff_ne.mpr signer.identified
  have made : ∀ x : ExecutionReceiptFields, x.schema = EXECUTION_RECEIPT_SCHEMA →
      x.planFingerprint = plan.fingerprint → x.auditAnchorSha256 = anchor → x.createdAt = now →
      x.signerKeyId = signer.keyId → (x.signature == "" || isSha256 x.signature) = true →
      firstError x.checks = none := by
    intro x schema printed anchored created owner signature
    simp only [ExecutionReceiptFields.checks, schema, printed, anchored, created, owner, signature,
      fingerprint, digest, aware, identified, beq_self_eq_true, firstError]
  have unsigned := made (unsignedReceipt plan report approvals anchor signer receiptId now outcomes)
    rfl rfl rfl rfl rfl rfl
  have hex := proper.hmac signer.secret (canonicalJson (.mkObj (unsignedReceipt plan report approvals
    anchor signer receiptId now outcomes).unsignedDict))
  have signed := made { unsignedReceipt plan report approvals anchor signer receiptId now outcomes with
    signature := signer.digest (unsignedReceipt plan report approvals anchor signer receiptId now
      outcomes) } rfl rfl rfl rfl rfl (Bool.or_eq_true_iff.mpr (.inr hex))
  refine ⟨⟨_, signed⟩, ?_, fun empty => ?_⟩
  · change (ExecutionReceipt.make _ >>= fun unsigned => signer.sign unsigned) = _
    rw [ExecutionReceipt.make, build_ok unsigned]
    change signer.sign _ = _
    exact (if_neg (not_not.mpr rfl)).trans (build_ok signed)
  · rw [show (Host.hmacSha256 signer.secret _).val = "" from empty] at hex
    revert hex
    decide

end MasterAgent
