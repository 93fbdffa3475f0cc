import MasterAgent.Base.Calendar
import MasterAgent.Base.JsonLoads
import MasterAgent.Base.Table
import MasterAgent.Base.Transaction
import MasterAgent.Base.Uuid
import MasterAgent.Errors

/-!
# The recurring state store

The two tables of a `RecurringStateStore` and the operations of one of its instances. Every
operation is one immediate transaction: it answers and leaves the rows it made, or raises and leaves
them as they were. Times that the source takes `astimezone(UTC)` of are given in UTC; tokens are the
`uuid4()` that the operation draws.
-/

namespace MasterAgent.Recurring
open Base Table

/-- A transaction on the rows of a table. -/
abbrev OnRows (R A : Type) := Transaction (List R) Exn A

/-- `a <= b` of two texts, as the database compares them. -/
def textLe (a b : String) : Bool := decide (a.toList ≤ b.toList)

/-- An instance, with its lease in microseconds. -/
structure RecurringStateStore where
  leaseDuration : Nat
  positive : 0 < leaseDuration

/-- `(instant + self._lease_duration).isoformat()` -/
def RecurringStateStore.leaseFrom (self : RecurringStateStore) (instant : Datetime) :
    Except Exn String :=
  match instant.plus self.leaseDuration with
  | some expiry => .ok expiry.isoformat
  | none => .error ⟨.overflow, "OverflowError", "date value out of range"⟩

/-! ## Scheduled runs -/

inductive ClaimStatus where
  | running | succeeded | failed | expired | recoverable
deriving DecidableEq, Repr

/-- A row of `recurring_runs`. -/
structure RecurringRun where
  workflowName : String
  scheduledAt : String
  startedAt : String
  finishedAt : String
  successful : Bool
  summaryJson : String
  status : ClaimStatus
  leaseExpiresAt : Option String
  attemptCount : Nat
  recoveryReason : Option String
  claimToken : Option String
deriving DecidableEq

/-- The columns of the index `recurring_occurrence_once`. -/
abbrev RunKey := String × String

def RecurringRun.key (row : RecurringRun) : RunKey := (row.workflowName, row.scheduledAt)

/-- `RecurringRunResult`, with the text that `json.dumps` writes of its summary or what it raises. -/
structure RecurringRunResult where
  successful : Bool
  payload : Except Exn String

/-- The result that `fail` records. -/
def failureResult (name errorType : String) : RecurringRunResult :=
  ⟨false, .ok (String.ofList (Json.render Json.compactAscii 0 (.mkObj
    [("workflow", .str name), ("failed", .bool true), ("error_type", .str errorType)])))⟩

def RecurringRun.expire (row : RecurringRun) : RecurringRun :=
  { row with
    status := .expired
    recoveryReason := some "lease_expired"
    claimToken := none }

def RecurringRun.recover (row : RecurringRun) : RecurringRun :=
  { row with
    status := .recoverable
    recoveryReason := some "operator_reviewed" }

/-- A result is recorded in a row. -/
def RecurringRun.finish (finishedAt payload : String) (successful : Bool) (row : RecurringRun) :
    RecurringRun :=
  { row with
    finishedAt := finishedAt
    successful := successful
    summaryJson := payload
    status := if successful then .succeeded else .failed
    leaseExpiresAt := none
    claimToken := none }

namespace RecurringStateStore
variable (self : RecurringStateStore)

/-- The row of a first attempt. -/
def firstAttempt (key : RunKey) (startedAt lease : String) (token : Uuid) : RecurringRun where
  workflowName := key.1
  scheduledAt := key.2
  startedAt := startedAt
  finishedAt := startedAt
  successful := false
  summaryJson := "{}"
  status := .running
  leaseExpiresAt := some lease
  attemptCount := 1
  recoveryReason := none
  claimToken := some token.str

/-- The row of a further attempt. -/
def nextAttempt (startedAt lease : String) (token : Uuid) (row : RecurringRun) : RecurringRun :=
  { row with
    startedAt := startedAt
    finishedAt := startedAt
    successful := false
    summaryJson := "{}"
    status := .running
    leaseExpiresAt := some lease
    attemptCount := row.attemptCount + 1
    recoveryReason := none
    claimToken := some token.str }

/-- `WHERE workflow_name = ? AND scheduled_at = ? AND …` -/
def runWhere (key : RunKey) (condition : RecurringRun → Bool) (row : RecurringRun) : Bool :=
  row.key == key && condition row

/-- `status = 'running' AND claim_token = ?` -/
def holds (token : Uuid) (row : RecurringRun) : Bool :=
  row.status == .running && row.claimToken == some token.str

def claim (name : String) (scheduledAt startedAt : Datetime) (token : Uuid) :
    OnRows RecurringRun (Option Uuid) := fun rows => do
  let lease ← self.leaseFrom startedAt
  let key := (name, scheduledAt.isoformat)
  if (find RecurringRun.key key rows).isNone then
    return (some token, rows ++ [firstAttempt key startedAt.isoformat lease token])
  else
    let selects := runWhere key (·.status == .recoverable)
    return (if rows.countP selects = 1 then some token else none,
      update selects (nextAttempt startedAt.isoformat lease token) rows)

def renew (name : String) (scheduledAt : Datetime) (token : Uuid) (now : Datetime) :
    OnRows RecurringRun Bool := fun rows => do
  let lease ← self.leaseFrom now
  let selects := runWhere (name, scheduledAt.isoformat) (holds token)
  return (decide (rows.countP selects = 1),
    update selects (fun row => { row with leaseExpiresAt := some lease }) rows)

/-- The lease of a running row has elapsed. -/
def elapsed (now : Datetime) (row : RecurringRun) : Bool :=
  row.status == .running && row.leaseExpiresAt.any (textLe · now.isoformat)

def expireClaims (now : Datetime) : OnRows RecurringRun Nat := fun rows =>
  .ok (rows.countP (elapsed now), update (elapsed now) RecurringRun.expire rows)

def markRecoverable (name : String) (scheduledAt : Datetime) : OnRows RecurringRun Bool :=
  fun rows =>
    let selects := runWhere (name, scheduledAt.isoformat) (·.status == .expired)
    .ok (decide (rows.countP selects = 1), update selects RecurringRun.recover rows)

def complete (name : String) (scheduledAt : Datetime) (token : Uuid) (finishedAt : Datetime)
    (result : RecurringRunResult) : OnRows RecurringRun Unit := fun rows => do
  let payload ← result.payload
  let selects := runWhere (name, scheduledAt.isoformat) (holds token)
  if rows.countP selects = 1 then
    return ((), update selects
      (RecurringRun.finish finishedAt.isoformat payload result.successful) rows)
  else .error (configurationError
    s!"recurring occurrence is not actively claimed: {name} at {scheduledAt.isoformat}")

def fail (name : String) (scheduledAt : Datetime) (token : Uuid) (finishedAt : Datetime)
    (errorType : String) : OnRows RecurringRun Unit :=
  complete name scheduledAt token finishedAt (failureResult name errorType)

end RecurringStateStore

/-! ## Occurrences -/

inductive OccurrenceStatus where
  | bound | running | approvalBlocked | succeeded | failedPreEffect | recoverable | expired
  | cancelled | indeterminate | revoked
deriving DecidableEq, Repr

/-- A row of `recurring_occurrences`. -/
structure RecurringOccurrence where
  workflowName : String
  scheduledAt : String
  artifactFingerprint : String
  artifactSha256 : String
  registrationDigest : String
  executionKey : String
  status : OccurrenceStatus
  claimGeneration : Int
  claimToken : Option String
  leaseExpiresAt : Option String
  approvalRequestFingerprint : Option String
  resumeDeadline : String
  finishedAt : Option String
deriving DecidableEq

/-- The primary key. -/
def RecurringOccurrence.key (row : RecurringOccurrence) : RunKey :=
  (row.workflowName, row.scheduledAt)

/-- What an artifact is registered with. -/
structure Registration where
  workflowName : String
  scheduledAt : Datetime
  artifactFingerprint : String
  artifactSha256 : String
  registrationDigest : String
  executionKey : String
  resumeDeadline : Datetime
deriving DecidableEq

/-- The row of an artifact that was just registered. -/
def Registration.row (r : Registration) : RecurringOccurrence where
  workflowName := r.workflowName
  scheduledAt := r.scheduledAt.isoformat
  artifactFingerprint := r.artifactFingerprint
  artifactSha256 := r.artifactSha256
  registrationDigest := r.registrationDigest
  executionKey := r.executionKey
  status := .bound
  claimGeneration := 0
  claimToken := none
  leaseExpiresAt := none
  approvalRequestFingerprint := none
  resumeDeadline := r.resumeDeadline.isoformat
  finishedAt := none

/-- The columns that are compared with a repeated registration. -/
def RecurringOccurrence.registered (row : RecurringOccurrence) : List String :=
  [row.artifactFingerprint, row.artifactSha256, row.registrationDigest, row.executionKey,
    row.resumeDeadline]

/-- A running row under a new fence. -/
def RecurringOccurrence.reclaim (lease : String) (token : Uuid) (row : RecurringOccurrence) :
    RecurringOccurrence :=
  { row with
    status := .running
    claimGeneration := row.claimGeneration + 1
    claimToken := some token.str
    leaseExpiresAt := some lease
    finishedAt := none }

def RecurringOccurrence.extend (lease : String) (row : RecurringOccurrence) : RecurringOccurrence :=
  { row with leaseExpiresAt := some lease }

/-- A row whose fence is taken away. -/
def RecurringOccurrence.release (status : OccurrenceStatus) (finishedAt : Option String)
    (row : RecurringOccurrence) : RecurringOccurrence :=
  { row with
    status := status
    claimToken := none
    leaseExpiresAt := none
    finishedAt := finishedAt }

namespace RecurringStateStore
variable (self : RecurringStateStore)

/-- `WHERE artifact_fingerprint = ? AND …` -/
def artifactWhere (artifact : String) (condition : RecurringOccurrence → Bool)
    (row : RecurringOccurrence) : Bool :=
  row.artifactFingerprint == artifact && condition row

/-- `status = 'running' AND claim_generation = ? AND claim_token = ?` -/
def fenced (generation : Int) (token : Uuid) (row : RecurringOccurrence) : Bool :=
  row.status == .running && row.claimGeneration == generation && row.claimToken == some token.str

def registerOccurrenceArtifact (r : Registration) : OnRows RecurringOccurrence Unit :=
  fun rows =>
    match find RecurringOccurrence.key r.row.key rows with
    | some existing =>
      if existing.registered = r.row.registered then .ok ((), rows)
      else .error (configurationError
        "a different recurring artifact is already registered for this occurrence")
    | none =>
      if (find RecurringOccurrence.artifactFingerprint r.artifactFingerprint rows).isSome then
        .error ⟨.sqlite, "IntegrityError",
          "UNIQUE constraint failed: recurring_occurrences.artifact_fingerprint"⟩
      else .ok ((), rows ++ [r.row])

/-- `status IN ('bound', 'recoverable') AND resume_deadline >= ?` -/
def reservable (now : String) (row : RecurringOccurrence) : Bool :=
  (row.status == .bound || row.status == .recoverable) && textLe now row.resumeDeadline

def reserveOccurrence (artifact : String) (startedAt : Datetime) (token : Uuid) :
    OnRows RecurringOccurrence (Int × Uuid) := fun rows => do
  let lease ← self.leaseFrom startedAt
  let selects := artifactWhere artifact (reservable startedAt.isoformat)
  if rows.countP selects = 1 then
    let rows := update selects (RecurringOccurrence.reclaim lease token) rows
    match find RecurringOccurrence.artifactFingerprint artifact rows with
    | some row => return ((row.claimGeneration, token), rows)
    | none => .error (runtimeError "reserved recurring occurrence disappeared")
  else .error (configurationError "recurring occurrence is not eligible for reservation")

/-- A transition of the row under an artifact, which is refused with a message. -/
def transition (selects : RecurringOccurrence → Bool) (set : RecurringOccurrence → RecurringOccurrence)
    (message : String) : OnRows RecurringOccurrence Unit := fun rows =>
  if rows.countP selects = 1 then .ok ((), update selects set rows)
  else .error (configurationError message)

def markOccurrenceRecoverable (artifact : String) : OnRows RecurringOccurrence Unit :=
  transition (artifactWhere artifact (·.status == .failedPreEffect))
    (fun row => { row with
      status := .recoverable
      approvalRequestFingerprint := none })
    "only a certified failed-pre-effect occurrence can be recovered"

/-- A running row whose lease has elapsed. -/
def lapsed (now : Datetime) (row : RecurringOccurrence) : Bool :=
  row.status == .running && row.leaseExpiresAt.any (textLe · now.isoformat)

def reconcileExpiredOccurrence (artifact : String) (status : OccurrenceStatus) (now : Datetime) :
    OnRows RecurringOccurrence Unit := fun rows =>
  if status = .recoverable ∨ status = .indeterminate then
    transition (artifactWhere artifact (lapsed now))
      (RecurringOccurrence.release status (some now.isoformat))
      "recurring occurrence has no expired running claim to reconcile" rows
  else .error (valueError "unsupported recurring reconciliation state")

/-- Completed or uncertain. -/
def absorbing : List OccurrenceStatus := [.succeeded, .indeterminate, .revoked, .cancelled]

def cancelOccurrence (artifact : String) (now : Datetime) :
    OnRows RecurringOccurrence OccurrenceStatus := fun rows =>
  match find RecurringOccurrence.artifactFingerprint artifact rows with
  | none => .error (configurationError "recurring occurrence is not registered")
  | some row =>
    if absorbing.contains row.status then
      .error (configurationError
        "completed or uncertain recurring occurrence cannot be cancelled")
    else do
      let selected := if row.status = .running then OccurrenceStatus.indeterminate else .cancelled
      let ((), rows) ← transition (artifactWhere artifact (·.status == row.status))
        (RecurringOccurrence.release selected (some now.isoformat))
        "recurring occurrence changed during cancel" rows
      return (selected, rows)

def fenceLost : Exn := configurationError "recurring occurrence claim fence was lost"

/-- `datetime.fromisoformat(lease) <= now` of an instant in UTC. -/
def leaseEnded (lease : String) (now : Datetime) : Except Exn Bool :=
  match Datetime.fromIsoformat lease with
  | none => .error (valueError ("Invalid isoformat string: '" ++ lease ++ "'"))
  | some expiry =>
    match expiry.instant?, now.instant? with
    | some expiry, some now => .ok (decide (expiry ≤ now))
    | _, _ => .error (typeError "can't compare offset-naive and offset-aware datetimes")

def validateOccurrenceFence (artifact : String) (generation : Int) (token : Uuid) (now : Datetime) :
    OnRows RecurringOccurrence Unit := fun rows =>
  match (find RecurringOccurrence.artifactFingerprint artifact rows).filter (fenced generation token) with
  | none => .error fenceLost
  | some row =>
    match row.leaseExpiresAt with
    | none => .error fenceLost
    | some lease => do
      if ← leaseEnded lease now then .error fenceLost else return ((), rows)

/-- The fence of the row, with a lease that has not elapsed. -/
def renewable (generation : Int) (token : Uuid) (now : Datetime) (row : RecurringOccurrence) : Bool :=
  fenced generation token row && row.leaseExpiresAt.any (!textLe · now.isoformat)

def renewOccurrenceFence (artifact : String) (generation : Int) (token : Uuid) (now : Datetime) :
    OnRows RecurringOccurrence Bool := fun rows => do
  let lease ← self.leaseFrom now
  let selects := artifactWhere artifact (renewable generation token now)
  return (decide (rows.countP selects = 1),
    update selects (RecurringOccurrence.extend lease) rows)

/-- `_transition_running_occurrence` -/
def transitionRunningOccurrence (artifact : String) (generation : Int) (token : Uuid)
    (status : OccurrenceStatus) (requestFingerprint finishedAt : Option String) :
    OnRows RecurringOccurrence Unit :=
  transition (artifactWhere artifact (fenced generation token))
    (fun row => { row.release status finishedAt with
      approvalRequestFingerprint := requestFingerprint })
    "recurring occurrence claim fence was lost"

def blockOccurrenceForApproval (artifact : String) (generation : Int) (token : Uuid)
    (requestFingerprint : String) : OnRows RecurringOccurrence Unit :=
  transitionRunningOccurrence artifact generation token .approvalBlocked (some requestFingerprint)
    none

/-- `status = 'approval_blocked'`, under the same generation and request, before the deadline. -/
def resumable (priorGeneration : Int) (requestFingerprint now : String)
    (row : RecurringOccurrence) : Bool :=
  row.status == .approvalBlocked && row.claimGeneration == priorGeneration &&
    row.approvalRequestFingerprint == some requestFingerprint && textLe now row.resumeDeadline

def resumeApprovalBlockedOccurrence (artifact : String) (priorGeneration : Int)
    (requestFingerprint : String) (startedAt : Datetime) (token : Uuid) :
    OnRows RecurringOccurrence (Int × Uuid) := fun rows => do
  let lease ← self.leaseFrom startedAt
  let selects := artifactWhere artifact
    (resumable priorGeneration requestFingerprint startedAt.isoformat)
  if rows.countP selects = 1 then
    return ((priorGeneration + 1, token),
      update selects (RecurringOccurrence.reclaim lease token) rows)
  else .error (configurationError "recurring approval resume is stale, expired, or changed")

def finalizeOccurrence (artifact : String) (generation : Int) (token : Uuid)
    (status : OccurrenceStatus) (finishedAt : Datetime) :
    OnRows RecurringOccurrence Unit := fun rows =>
  if [OccurrenceStatus.succeeded, .failedPreEffect, .indeterminate, .revoked].contains status then
    transitionRunningOccurrence artifact generation token status none (some finishedAt.isoformat)
      rows
  else .error (valueError "unsupported recurring occurrence terminal state")

end RecurringStateStore

end MasterAgent.Recurring
