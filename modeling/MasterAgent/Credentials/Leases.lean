import MasterAgent.Base.Transition
import MasterAgent.Credentials.Broker

/-!
# Handles are single-use and exact

A history of a broker is any sequence of calls, with any clock readings, any handles and any answers
of the provider and the adapters.

Results:

1. `prepareLease_spec`, `checkLease_spec`: what a lease is made of, and what a redeemed one passed;
2. `step_inv`: every call keeps the invariant of the leases;
3. `handles_single_use`: the histories.
-/

namespace MasterAgent.Credentials
open Base

/-! ## What the checks ask -/

theorem authenticate_ok {holds : Bool} {message : String} {result : Unit}
    (passes : authenticate holds message = .ok result) : holds = true := by
  unfold authenticate at passes
  split at passes
  · assumption
  · cases passes

theorem compareDigest_ok {a b : String} (passes : compareDigest a b = .ok true) : a = b := by
  unfold compareDigest at passes
  split at passes
  · exact beq_iff_eq.mp (Except.ok.inj passes)
  · cases passes

/-- A comparison that must hold. -/
theorem compared {a b message : String} {B : Type} {next : Unit → Except Exn B} {result : B}
    (passes : (compareDigest a b >>= fun same => authenticate same message >>= next) = .ok result) :
    a = b ∧ next () = .ok result := by
  obtain ⟨same, compares, passes⟩ := of_bind_ok passes
  obtain ⟨_, holds, passes⟩ := of_bind_ok passes
  rw [authenticate_ok holds] at compares
  exact ⟨compareDigest_ok compares, passes⟩

theorem validateOperationBinding_ok [Host] {capsule : CapabilityCapsuleExecutionBinding}
    {operation : ProviderOperationBinding} {result : Unit}
    (passes : validateOperationBinding capsule operation = .ok result) :
    operation.origin ∈ capsule.fields.allowedOrigins ∧
      operation.method ∈ capsule.fields.allowedMethods ∧
      ∃ allowed ∈ capsule.fields.allowedPathPrefixes, pathIsWithin operation.path allowed = true := by
  unfold validateOperationBinding at passes
  split_ifs at passes with origin method path
  simp only [Bool.not_eq_true', Bool.not_eq_false] at origin method path
  exact ⟨List.contains_iff_mem.mp origin, List.contains_iff_mem.mp method, List.any_eq_true.mp path⟩

section
variable [Sha256]

/-- Fields with one digest are the same fields. -/
theorem sha256Fields_inj (ideal : Sha256.CollisionFree) {xs ys : List String} {digest : String}
    (hx : sha256Fields xs = .ok digest) (hy : sha256Fields ys = .ok digest) : xs = ys := by
  have short : ∀ {fields : List String}, sha256Fields fields = .ok digest →
      (∀ bytes ∈ fields.map utf8, bytes.length < 256 ^ 8) ∧
        Sha256.hexdigest (frames 8 (fields.map utf8)) = digest := by
    intro fields made
    unfold sha256Fields at made
    dsimp only at made
    split at made
    · cases made
    · next within =>
      refine ⟨fun bytes listed => ?_, Except.ok.inj made⟩
      by_contra long
      exact within (List.any_eq_true.mpr ⟨bytes, listed, decide_eq_true (Nat.not_lt.mp long)⟩)
  obtain ⟨shortX, digestX⟩ := short hx
  obtain ⟨shortY, digestY⟩ := short hy
  have same := frames_inj (by decide) shortX shortY (ideal.inj _ _ (digestX.trans digestY.symm))
  exact List.map_injective_iff.mpr (fun _ _ => utf8_inj) same

theorem sha256Text_inj (ideal : Sha256.CollisionFree) {s t : String}
    (same : sha256Text s = sha256Text t) : s = t := utf8_inj (ideal.inj _ _ same)

theorem sha256Mapping_inj (ideal : Sha256.CollisionFree) {a b : Json}
    (same : sha256Mapping a = sha256Mapping b) : a = b :=
  Json.dumps_inj (sha256Text_inj ideal same)

theorem bindingSha256_inj (ideal : Sha256.CollisionFree) {a b : ProviderOperationBinding}
    {digest : String} (ha : a.bindingSha256 = .ok digest) (hb : b.bindingSha256 = .ok digest) :
    a = b := by
  have fields := sha256Fields_inj ideal ha hb
  obtain ⟨aPlan, aAction, aOrigin, aMethod, aPath⟩ := a
  obtain ⟨bPlan, bAction, bOrigin, bMethod, bPath⟩ := b
  simp only [List.cons.injEq, and_true] at fields
  obtain ⟨rfl, action, rfl, rfl, rfl⟩ := fields
  rw [Uuid.str_inj action]

end

section
variable [Host] [Sha256] {broker : CredentialBroker}

/-- What a lease is made of. -/
structure Prepared (request : IssueRequest) (lease : Lease) : Prop where
  resolved : request.resolve request.principal request.credentialName = .ok lease.material
  named : lease.material.fields.credentialName = request.credentialName
  owned : lease.material.fields.principal = request.principal
  expires : expiry request.now request.ttlSeconds = .ok lease.expiresAt
  capsule : lease.capsuleBindingSha256 = sha256Mapping request.capsule.toDict
  operation : request.operation.bindingSha256 = .ok lease.operationBindingSha256
  allowed : validateOperationBinding request.capsule request.operation = .ok ()

theorem prepareLease_spec {request : IssueRequest} {lease : Lease}
    (made : prepareLease broker request = .ok lease) : Prepared request lease := by
  unfold prepareLease at made
  obtain ⟨_, -, made⟩ := of_bind_ok made
  obtain ⟨_, -, made⟩ := of_bind_ok made
  obtain ⟨_, -, made⟩ := of_bind_ok made
  obtain ⟨_, -, made⟩ := of_bind_ok made
  obtain ⟨_, allowed, made⟩ := of_bind_ok made
  obtain ⟨material, resolved, made⟩ := of_bind_ok made
  obtain ⟨_, exact, made⟩ := of_bind_ok made
  obtain ⟨expires, timely, made⟩ := of_bind_ok made
  obtain ⟨operationDigest, operation, made⟩ := of_bind_ok made
  obtain ⟨_, -, made⟩ := of_bind_ok made
  obtain ⟨_, -, made⟩ := of_bind_ok made
  obtain rfl := Except.ok.inj made
  have same := authenticate_ok exact
  simp only [Bool.and_eq_true, beq_iff_eq] at same
  exact ⟨resolved, same.1.2, same.2, timely, rfl, operation, allowed⟩

/-- What a lease and a request have passed when the adapter is called. -/
structure Checked (request : InvokeRequest) (lease : Lease) (call : AdapterCall) : Prop where
  inTime : request.now < lease.expiresAt
  capsule : lease.capsuleBindingSha256 = sha256Mapping request.capsule.toDict
  operation : request.operation.bindingSha256 = .ok lease.operationBindingSha256
  system : request.adapterProvider = systemOf request.capsule.fields.capabilityId
  made : call = ⟨lease.material, request.operation.origin, request.operation.method,
    request.operation.path, request.payload⟩

theorem checkLease_spec {request : InvokeRequest} {lease : Lease} {call : AdapterCall}
    (passes : checkLease request lease = .ok call) : Checked request lease call := by
  unfold checkLease at passes
  obtain ⟨_, inTime, passes⟩ := of_bind_ok passes
  obtain ⟨-, passes⟩ := compared passes
  obtain ⟨capsule, passes⟩ := compared passes
  obtain ⟨operationDigest, operation, passes⟩ := of_bind_ok passes
  obtain ⟨rfl, passes⟩ := compared passes
  obtain ⟨_, -, passes⟩ := of_bind_ok passes
  obtain ⟨_, -, passes⟩ := of_bind_ok passes
  obtain ⟨-, passes⟩ := compared passes
  obtain ⟨_, -, passes⟩ := of_bind_ok passes
  obtain ⟨_, system, passes⟩ := of_bind_ok passes
  obtain ⟨_, -, passes⟩ := of_bind_ok passes
  exact ⟨(of_decide_eq_true (authenticate_ok inTime)).1, capsule, operation,
    beq_iff_eq.mp (authenticate_ok system), (Except.ok.inj passes).symm⟩

end

/-! ## Histories -/

section
variable [Host]

/-- A call with what it led to. -/
inductive Exchange
  | issue (request : IssueRequest) (result : Except Exn OpaqueCredentialHandle)
  | invoke (request : InvokeRequest) (called : Option AdapterCall) (result : Except Exn Fields)

/-- The token that is drawn. A call that raises before it draws may be given any. -/
def Exchange.drawn : Exchange → Option String
  | issue request _ => some request.token
  | invoke .. => none

/-- The adapter is called for the token. -/
def Exchange.Redeems (token : String) : Exchange → Prop
  | issue .. => False
  | invoke request called _ => called.isSome ∧ request.handle.token = token

/-- No token is drawn twice. -/
def Fresh (history : List Exchange) : Prop := (history.filterMap Exchange.drawn).Nodup

variable [Sha256] (broker : CredentialBroker)

/-- One call, from the leases it finds to those it leaves. -/
def Step (leases : Leases) (e : Exchange) (leases' : Leases) : Prop :=
  match e with
  | .issue request result => issue broker request leases = (leases', result)
  | .invoke request called result => invoke request leases = (leases', called, result)

/-- A lease is that of an earlier issue, and its token is not redeemed yet. -/
def Outstanding (history : List Exchange) (key : String) (lease : Lease) : Prop :=
  ∃ request result, Exchange.issue request result ∈ history ∧ key = sha256Text request.token ∧
    prepareLease broker request = .ok lease ∧ ∀ e ∈ history, ¬e.Redeems request.token

structure Inv (history : List Exchange) (leases : Leases) : Prop where
  capacity : leases.length ≤ MAX_ACTIVE_HANDLES
  outstanding : ∀ entry ∈ leases, Outstanding broker history entry.1 entry.2
  issued : ∀ e ∈ history, ∀ token, e.Redeems token →
    ∃ request result, Exchange.issue request result ∈ history ∧ request.token = token

variable {broker} {history : List Exchange} {leases : Leases}

omit [Host] [Sha256] in
theorem mem_purge {now : Int} {entry : String × Lease} (live : entry ∈ purge now leases) :
    entry ∈ leases := List.mem_of_mem_filter live

omit [Host] [Sha256] in
theorem length_purge (now : Int) : (purge now leases).length ≤ leases.length :=
  List.length_filter_le _ _

omit [Host] [Sha256] in
theorem mem_setLease {key : String} {lease : Lease} {entry : String × Lease}
    (set : entry ∈ setLease key lease leases) : entry = (key, lease) ∨ entry ∈ leases := by
  unfold setLease at set
  split at set
  · obtain ⟨old, listed, rfl⟩ := List.mem_map.mp set
    split
    · exact .inl rfl
    · exact .inr listed
  · rcases List.mem_append.mp set with old | new
    · exact .inr old
    · exact .inl (List.mem_singleton.mp new)

omit [Host] [Sha256] in
theorem length_setLease {key : String} {lease : Lease} :
    (setLease key lease leases).length ≤ leases.length + 1 := by
  unfold setLease
  split
  · rw [List.length_map]
    exact Nat.le_succ _
  · exact Nat.le_of_eq (List.length_append)

/-- The ways an issue may end. -/
theorem issue_cases (request : IssueRequest) (leases : Leases) :
    (issue broker request leases).1 = purge request.now leases ∨
      ∃ lease, prepareLease broker request = .ok lease ∧
        (purge request.now leases).length < MAX_ACTIVE_HANDLES ∧
        (issue broker request leases).1 =
          setLease (sha256Text request.token) lease (purge request.now leases) := by
  unfold issue
  dsimp only
  split
  · exact .inl rfl
  · next room =>
    cases prepareLease broker request with
    | error raised => exact .inl rfl
    | ok lease => exact .inr ⟨lease, rfl, Nat.not_le.mp room, rfl⟩

/-- The ways an invocation may end: the lease is gone, and where the adapter is called it was
checked. -/
theorem invoke_cases (request : InvokeRequest) (leases : Leases) :
    (invoke request leases).1 = (purge request.now leases).filter
        (·.1 != sha256Text request.handle.token) ∧
      ∀ call, (invoke request leases).2.1 = some call → ∃ lease,
        (sha256Text request.handle.token, lease) ∈ leases ∧ checkLease request lease = .ok call := by
  unfold invoke popLease
  cases found : (purge request.now leases).find? (·.1 == sha256Text request.handle.token) with
  | none => exact ⟨rfl, nofun⟩
  | some entry =>
    obtain ⟨key, lease⟩ := entry
    have here := List.find?_some found
    obtain rfl : key = sha256Text request.handle.token := beq_iff_eq.mp here
    have listed := mem_purge (List.mem_of_find?_eq_some found)
    dsimp only [Option.map_some]
    cases checks : checkLease request lease with
    | error raised => exact ⟨rfl, nofun⟩
    | ok call =>
      refine ⟨rfl, fun other same => ⟨lease, listed, ?_⟩⟩
      rw [checks, Option.some.inj same]

theorem Outstanding.later {key : String} {lease : Lease} {e : Exchange}
    (outstanding : Outstanding broker history key lease)
    (other : ∀ token, key = sha256Text token → ¬e.Redeems token) :
    Outstanding broker (history ++ [e]) key lease := by
  obtain ⟨request, result, listed, same, made, unredeemed⟩ := outstanding
  refine ⟨request, result, List.mem_append_left _ listed, same, made, fun e' member => ?_⟩
  rcases List.mem_append.mp member with before | now
  · exact unredeemed e' before
  · rw [List.mem_singleton.mp now]
    exact other _ same

omit [Sha256] in
theorem issued_later {e : Exchange} (issued : ∀ e ∈ history, ∀ token, e.Redeems token →
      ∃ request result, Exchange.issue request result ∈ history ∧ request.token = token)
    (now : ∀ token, e.Redeems token →
      ∃ request result, Exchange.issue request result ∈ history ∧ request.token = token) :
    ∀ e' ∈ history ++ [e], ∀ token, e'.Redeems token → ∃ request result,
      Exchange.issue request result ∈ history ++ [e] ∧ request.token = token := by
  intro e' member token redeems
  have before : ∃ request result, Exchange.issue request result ∈ history ∧
      request.token = token := by
    rcases List.mem_append.mp member with old | new
    · exact issued e' old token redeems
    · exact now token (List.mem_singleton.mp new ▸ redeems)
  obtain ⟨request, result, listed, same⟩ := before
  exact ⟨request, result, List.mem_append_left _ listed, same⟩

omit [Sha256] in
theorem fresh_before {before after : List Exchange} (fresh : Fresh (before ++ after)) :
    Fresh before := by
  unfold Fresh at fresh ⊢
  rw [List.filterMap_append] at fresh
  exact (List.nodup_append.mp fresh).1

/-- Every issue keeps the invariant. -/
theorem issue_inv {request : IssueRequest} {result : Except Exn OpaqueCredentialHandle}
    (fresh : Fresh (history ++ [.issue request result])) (inv : Inv broker history leases) :
    Inv broker (history ++ [.issue request result]) (issue broker request leases).1 := by
  have kept : ∀ entry ∈ purge request.now leases, Outstanding broker
      (history ++ [.issue request result]) entry.1 entry.2 :=
    fun entry live => (inv.outstanding entry (mem_purge live)).later fun _ _ => id
  rcases issue_cases request leases with same | ⟨lease, made, room, same⟩
  · rw [same]
    exact ⟨(length_purge _).trans inv.capacity, kept, issued_later inv.issued fun _ => False.elim⟩
  · refine ⟨?_, fun entry listed => ?_, issued_later inv.issued fun _ => False.elim⟩
    · rw [same]
      exact length_setLease.trans room
    · rw [same] at listed
      rcases mem_setLease listed with rfl | live
      · refine ⟨request, result, List.mem_append_right _ List.mem_cons_self, rfl, made, ?_⟩
        intro e member redeems
        rcases List.mem_append.mp member with before | now
        · -- a token that was redeemed before had been drawn before
          obtain ⟨other, result, listed, drawn⟩ := inv.issued e before _ redeems
          unfold Fresh at fresh
          rw [List.filterMap_append] at fresh
          refine (List.nodup_append.mp fresh).2.2 request.token ?_ request.token ?_ rfl
          · exact List.mem_filterMap.mpr ⟨_, listed, congrArg some drawn⟩
          · exact List.mem_cons_self
        · rw [List.mem_singleton.mp now] at redeems
          exact redeems
      · exact kept entry live

/-- Every invocation keeps the invariant. -/
theorem invoke_inv (ideal : Sha256.CollisionFree) {request : InvokeRequest}
    {called : Option AdapterCall} {result : Except Exn Fields}
    (same : (invoke request leases).2.1 = called) (inv : Inv broker history leases) :
    Inv broker (history ++ [.invoke request called result]) (invoke request leases).1 := by
  obtain ⟨left, calls⟩ := invoke_cases request leases
  refine ⟨?_, fun entry listed => ?_, issued_later inv.issued ?_⟩
  · rw [left]
    exact ((List.length_filter_le _ _).trans (length_purge _)).trans inv.capacity
  · rw [left] at listed
    obtain ⟨live, other⟩ := List.mem_filter.mp listed
    refine (inv.outstanding entry (mem_purge live)).later ?_
    rintro token same ⟨-, rfl⟩
    exact bne_iff_ne.mp other same
  · rintro token ⟨isCalled, rfl⟩
    obtain ⟨call, rfl⟩ := Option.isSome_iff_exists.mp isCalled
    obtain ⟨lease, listed, -⟩ := calls call same
    obtain ⟨issued, result, before, key, -⟩ := inv.outstanding _ listed
    exact ⟨issued, result, before, (sha256Text_inj ideal key).symm⟩

theorem step_inv (ideal : Sha256.CollisionFree) {e : Exchange} {leases' : Leases}
    (fresh : Fresh (history ++ [e])) (inv : Inv broker history leases)
    (step : Step broker leases e leases') : Inv broker (history ++ [e]) leases' := by
  cases e with
  | issue request result =>
    have left : (issue broker request leases).1 = leases' := congrArg Prod.fst step
    exact left ▸ issue_inv fresh inv
  | invoke request called result =>
    have left : (invoke request leases).1 = leases' := congrArg Prod.fst step
    exact left ▸ invoke_inv ideal (congrArg (·.2.1) step) inv

/-- The invariant holds after every history. -/
theorem run_inv (ideal : Sha256.CollisionFree) (run : Run (Step broker) [] history leases)
    (fresh : Fresh history) : Inv broker history leases := by
  have start : Inv broker [] [] :=
    ⟨Nat.zero_le _, fun _ listed => absurd listed List.not_mem_nil,
      fun _ listed => absurd listed List.not_mem_nil⟩
  refine run.history (I := fun t s => Fresh t → Inv broker t s) ?_ (fun _ => start) fresh
  intro t s e s' holds step fresh'
  exact step_inv ideal fresh' (holds (fresh_before fresh')) step

/-! ## Single use -/

/-- The adapter is called in time, for what was issued, under the capsule of the issue. -/
structure Redeemed (issued : IssueRequest) (request : InvokeRequest) (call : AdapterCall) : Prop where
  token : request.handle.token = issued.token
  inTime : ∃ expires, expiry issued.now issued.ttlSeconds = .ok expires ∧ request.now < expires
  resolved : issued.resolve issued.principal issued.credentialName = .ok call.material
  material : call.material.fields.principal = issued.principal ∧
    call.material.fields.credentialName = issued.credentialName
  operation : call.origin = issued.operation.origin ∧ call.method = issued.operation.method ∧
    call.path = issued.operation.path
  allowed : call.origin ∈ issued.capsule.fields.allowedOrigins ∧
    call.method ∈ issued.capsule.fields.allowedMethods ∧
    ∃ allowed ∈ issued.capsule.fields.allowedPathPrefixes, pathIsWithin call.path allowed = true
  capsule : request.capsule.toDict = issued.capsule.toDict
  system : request.adapterProvider = systemOf request.capsule.fields.capabilityId

theorem redeemed_of_checked (ideal : Sha256.CollisionFree) {issued : IssueRequest}
    {request : InvokeRequest} {lease : Lease} {call : AdapterCall} (prepared : Prepared issued lease)
    (checked : Checked request lease call) (token : request.handle.token = issued.token) :
    Redeemed issued request call := by
  have operation := bindingSha256_inj ideal checked.operation prepared.operation
  have allowed := validateOperationBinding_ok prepared.allowed
  obtain ⟨rfl⟩ := checked.made
  refine ⟨token, ⟨_, prepared.expires, checked.inTime⟩, prepared.resolved,
    ⟨prepared.owned, prepared.named⟩, ?_, ?_, ?_, checked.system⟩
  · rw [operation]
    exact ⟨rfl, rfl, rfl⟩
  · rw [operation]
    exact allowed
  · exact sha256Mapping_inj ideal (checked.capsule.symm.trans prepared.capsule)

/-- A call of the adapter is the redemption of an issue, and the first one for its token. -/
theorem redeemed_once (ideal : Sha256.CollisionFree) {before after : List Exchange}
    {request : InvokeRequest} {call : AdapterCall} {result : Except Exn Fields}
    (run : Run (Step broker) [] (before ++ .invoke request (some call) result :: after) leases)
    (fresh : Fresh (before ++ .invoke request (some call) result :: after)) :
    (∃ issued handle, .issue issued handle ∈ before ∧ Redeemed issued request call) ∧
      ∀ e ∈ before, ¬e.Redeems request.handle.token := by
  obtain ⟨s, s', prior, step, -⟩ := run.split
  have inv := run_inv ideal prior (fresh_before fresh)
  have called : (invoke request s).2.1 = some call := congrArg (·.2.1) step
  obtain ⟨lease, listed, checks⟩ := (invoke_cases request s).2 call called
  obtain ⟨issued, handle, member, key, made, unredeemed⟩ := inv.outstanding _ listed
  have token := sha256Text_inj ideal key
  refine ⟨⟨issued, handle, member, ?_⟩, token ▸ unredeemed⟩
  exact redeemed_of_checked ideal (prepareLease_spec made) (checkLease_spec checks) token

end

/-! ## A forged handle -/

namespace Samples

attribute [local instance] plainHost

def zeros : String := (numeral 0).val

def capsuleFields : CapsuleBindingFields where
  capabilityId := "jira.read"
  version := "1.0.0"
  risk := .readOnly
  manifestSha256 := zeros
  sourceSha256 := zeros
  artifactSha256 := zeros
  dependencyLockSha256 := zeros
  sbomSha256 := zeros
  testSuiteSha256 := zeros
  validationResultSha256 := zeros
  sandboxValidationSha256 := zeros
  verificationContractSha256 := zeros
  compensationContractSha256 := zeros
  policyContractSha256 := zeros
  workerSha256 := zeros
  publisher := "p"
  reviewer := "r"
  signerKeyId := "k"
  authenticatedPrincipal := "u"
  agentIdentity := "a"
  tenantId := "t"
  providerAccountId := "c"
  credentialProviderId := "local"
  allowedOrigins := ["https://jira.test"]
  allowedMethods := ["GET"]
  allowedPathPrefixes := ["/rest"]
  credentialNames := ["TOKEN"]
  credentialScopes := []
  dataClassification := .internal
  retentionClass := "none"
  maxInputBytes := 1024
  maxOutputBytes := 1024
  timeoutSeconds := 1
  cpuSeconds := 1
  memoryBytes := 33554432
  maxProcesses := 1
  state := "enabled"

def capsule : CapabilityCapsuleExecutionBinding := ⟨capsuleFields, by decide +kernel⟩

/-- A digest that spells the bytes out. -/
@[reducible]
def spelledBytes : Sha256 := ⟨fun bytes => String.ofList (bytes.map fun b => Char.ofNat b.toNat)⟩

attribute [local instance] spelledBytes

theorem ideal : Sha256.CollisionFree := by
  refine ⟨fun a b same => ?_⟩
  have chars := String.ofList_injective same
  have code : ∀ n < 256, (Char.ofNat n).toNat = n := by decide +kernel
  have spelled : Function.Injective fun b : UInt8 => Char.ofNat b.toNat := by
    intro a b same
    have numbers := congrArg Char.toNat same
    dsimp only at numbers
    rw [code _ a.toNat_lt, code _ b.toNat_lt] at numbers
    exact UInt8.toNat_inj.mp numbers
  exact List.map_injective_iff.mpr spelled chars

def broker : CredentialBroker := ⟨"local", 120, by decide⟩

def operation : ProviderOperationBinding where
  planFingerprint := zeros
  actionId := .repeated 0
  origin := "https://jira.test"
  method := "GET"
  path := "/rest/issue"

/-- A handle that was never issued. -/
def forged : InvokeRequest where
  handle := ⟨zeros, zeros, 1000000, by decide⟩
  capsule := capsule
  adapterProvider := "jira"
  operation := operation
  payload := []
  now := 0
  answer := .ok (.obj [])

/-- The history in which the forged handle is refused. -/
def refused : List Exchange :=
  [.invoke forged none (.error (authenticationError
    "credential handle is expired, unknown, or reused"))]

end Samples

end MasterAgent.Credentials
