import MasterAgent.Models.Action

/-!
# Idempotency claims

The table `completed_actions` reserves an idempotency key before any effect and keeps what became
of it. Each operation is one transaction: it returns what it answers with the table it leaves, or
raises and leaves the table as it was.

A key is taken once it is reserved, and is free again when its row is failed or deleted.

Results, one for each operation: what it does to the keys that are taken (`claimAction_taken`,
`completeAction_taken`, …).
-/

namespace MasterAgent
open Base

inductive IdempotencyClaimState where
  | claimed | completed | failed | indeterminate | inProgress | conflict
deriving DecidableEq, Repr

/-- Atomic idempotency reservation outcome. -/
structure IdempotencyClaim where
  state : IdempotencyClaimState
  token : Option String
  result : Option Fields
  priorState : Option IdempotencyClaimState
deriving DecidableEq

/-- The `status` column. -/
inductive RowStatus where
  | pending | completed | failed | indeterminate
  | unknown (text : String)
deriving DecidableEq

/-- A row of `completed_actions`, without its key. -/
structure IdempotencyRow where
  planId : Uuid
  actionId : Uuid
  actionFingerprint : String
  status : RowStatus
  claimToken : Option String
  resultJson : Json
deriving DecidableEq

/-- The table, by its primary key. -/
abbrev IdempotencyTable := String → Option IdempotencyRow

/-- `_idempotency_result` of a stored value. -/
def idempotencyResult : Json → Option Fields
  | .obj fields => some fields
  | _ => none

section
variable (key fingerprint : String)

/-- `AuditLog.claim_action`. The token is a fresh UUID. -/
def claimAction (planId actionId : Uuid) (token : String) (table : IdempotencyTable) :
    IdempotencyClaim × IdempotencyTable :=
  let pending : IdempotencyRow := ⟨planId, actionId, fingerprint, .pending, some token, .obj []⟩
  match table key with
  | none => (⟨.claimed, some token, none, none⟩, Function.update table key (some pending))
  | some row =>
      if row.actionFingerprint ≠ fingerprint then (⟨.conflict, none, none, none⟩, table)
      else match row.status with
        | .completed => (⟨.completed, none, idempotencyResult row.resultJson, none⟩, table)
        | .failed =>
            (⟨.claimed, some token, idempotencyResult row.resultJson, some .failed⟩,
              Function.update table key (some pending))
        | .indeterminate | .unknown _ =>
            (⟨.indeterminate, none, idempotencyResult row.resultJson, none⟩, table)
        | .pending => (⟨.inProgress, none, none, none⟩, table)

/-- The row that a holder of `token` may finish. -/
def heldRow (token : String) (table : IdempotencyTable) : Option IdempotencyRow :=
  (table key).filter fun row => row.actionFingerprint == fingerprint &&
    row.status == .pending && row.claimToken == some token

/-- `AuditLog.complete_action`. -/
def completeAction (token : String) (result : Json) (table : IdempotencyTable) :
    Except Exn IdempotencyTable :=
  match heldRow key fingerprint token table with
  | none => .error (runtimeError "idempotency reservation was lost or replaced")
  | some row => .ok (Function.update table key
      (some { row with status := .completed, resultJson := result }))

/-- `AuditLog._finish_action_claim`: `fail_action` and `mark_action_indeterminate`. -/
def finishActionClaim (status : RowStatus) (token : String) (outcome : Json)
    (table : IdempotencyTable) : Except Exn IdempotencyTable :=
  match heldRow key fingerprint token table with
  | none => .error (runtimeError "idempotency reservation was lost or replaced")
  | some row => .ok (Function.update table key
      (some { row with status := status, claimToken := none, resultJson := outcome }))

/-- `AuditLog.resolve_indeterminate_action`. -/
def resolveIndeterminateAction (expected completed : Json) (table : IdempotencyTable) :
    Except Exn IdempotencyTable :=
  match (table key).filter fun row => row.actionFingerprint == fingerprint &&
      row.status == .indeterminate && row.resultJson == expected with
  | none => .error (runtimeError "indeterminate idempotency outcome changed")
  | some row => .ok (Function.update table key
      (some { row with status := .completed, resultJson := completed }))

/-- `AuditLog.clear_completed` with a fingerprint. -/
def clearCompleted (table : IdempotencyTable) : IdempotencyTable :=
  match table key with
  | none => table
  | some row =>
      if row.actionFingerprint = fingerprint then Function.update table key none else table

end

/-! ## Keys that are taken -/

/-- The key is reserved or spent: no claim on it is granted. -/
def Taken (table : IdempotencyTable) (key : String) : Prop :=
  ∃ row, table key = some row ∧ row.status ≠ .failed

section
variable {key fingerprint token k : String} {planId actionId : Uuid}
  {table table' : IdempotencyTable}

theorem Taken.update (h : Taken table k) {row : IdempotencyRow}
    (live : k = key → row.status ≠ .failed) : Taken (Function.update table key (some row)) k := by
  by_cases same : k = key
  · subst same
    exact ⟨row, Function.update_self .., live rfl⟩
  · unfold Taken
    rwa [Function.update_of_ne same]

/-- A claim is granted on a free key only, and takes it; no claim frees one. -/
theorem claimAction_taken {claim : IdempotencyClaim}
    (done : claimAction key fingerprint planId actionId token table = (claim, table')) :
    (claim.state = .claimed ∨ claim.state = .failed → ¬Taken table key ∧ Taken table' key) ∧
      (Taken table k → Taken table' k) := by
  have reserved {k : String} (h : k = key ∨ Taken table k) : Taken (Function.update table key
      (some ⟨planId, actionId, fingerprint, .pending, some token, .obj []⟩)) k := by
    rcases h with rfl | h
    · exact ⟨_, Function.update_self .., fun failed => by cases failed⟩
    · exact h.update fun _ failed => by cases failed
  unfold claimAction at done
  split at done
  · next absent =>
    cases done
    refine ⟨fun _ => ⟨?_, reserved (.inl rfl)⟩, fun h => reserved (.inr h)⟩
    rintro ⟨row, there, -⟩
    cases absent.symm.trans there
  · next row found =>
    split at done
    · cases done
      exact ⟨by simp, id⟩
    · split at done
      · cases done
        exact ⟨by simp, id⟩
      · next failed =>
        cases done
        refine ⟨fun _ => ⟨?_, reserved (.inl rfl)⟩, fun h => reserved (.inr h)⟩
        rintro ⟨other, there, live⟩
        obtain rfl := Option.some.inj (found.symm.trans there)
        exact live failed
      all_goals
        cases done
        exact ⟨by simp, id⟩

theorem completeAction_taken {result : Json}
    (done : completeAction key fingerprint token result table = .ok table') (h : Taken table k) :
    Taken table' k := by
  unfold completeAction at done
  split at done
  · cases done
  · cases done
    exact h.update fun _ failed => by cases failed

theorem finishActionClaim_taken {status : RowStatus} {outcome : Json}
    (done : finishActionClaim key fingerprint status token outcome table = .ok table')
    (live : k = key → status ≠ .failed) (h : Taken table k) : Taken table' k := by
  unfold finishActionClaim at done
  split at done
  · cases done
  · cases done
    exact h.update live

theorem resolveIndeterminateAction_taken {expected completed : Json}
    (done : resolveIndeterminateAction key fingerprint expected completed table = .ok table')
    (h : Taken table k) : Taken table' k := by
  unfold resolveIndeterminateAction at done
  split at done
  · cases done
  · cases done
    exact h.update fun _ failed => by cases failed

theorem clearCompleted_taken (other : k ≠ key) (h : Taken table k) :
    Taken (clearCompleted key fingerprint table) k := by
  unfold clearCompleted
  split
  · exact h
  · split
    · unfold Taken
      rwa [Function.update_of_ne other]
    · exact h

end

end MasterAgent
