import MasterAgent.Recurring.Store

/-!
# Fences of occurrences

Any number of processes share the table `recurring_occurrences`. An attempt on an occurrence holds a
fence: the generation and the token that it was given. What a call means for the row of one artifact
is said once (`step_moved`), and a fence that a call accepts is that of the row (`uses_fenced`).

Results:

1. `fence_invariant`: a row carries a token and a lease exactly while it is running, and then the
   fence issued last;
2. `Follows.run`: what no call changes in a row;
3. `occurrences_fenced`: the guarantees, in every state reached.
-/

namespace MasterAgent.Recurring.Fences
open Base Table RecurringStateStore

/-! ## Calls -/

/-- A call of a store. The tokens of `reserve` and `resume` are those that they draw. -/
inductive Call where
  | register (r : Registration)
  | reserve (artifact : String) (startedAt : Datetime) (token : Uuid)
  | renew (artifact : String) (generation : Int) (token : Uuid) (now : Datetime)
  | block (artifact : String) (generation : Int) (token : Uuid) (requestFingerprint : String)
  | resume (artifact : String) (priorGeneration : Int) (requestFingerprint : String)
      (startedAt : Datetime) (token : Uuid)
  | finalize (artifact : String) (generation : Int) (token : Uuid) (status : OccurrenceStatus)
      (finishedAt : Datetime)
  | markRecoverable (artifact : String)
  | reconcile (artifact : String) (status : OccurrenceStatus) (now : Datetime)
  | cancel (artifact : String) (now : Datetime)
  | validate (artifact : String) (generation : Int) (token : Uuid) (now : Datetime)

inductive Answer where
  | done
  | fence (generation : Int) (token : Uuid)
  | renewed (held : Bool)
  | cancelled (status : OccurrenceStatus)
deriving DecidableEq

/-- The transaction of a call of a store. -/
def perform : RecurringStateStore × Call → OnRows RecurringOccurrence Answer
  | (_, .register r) => (registerOccurrenceArtifact r).answering fun _ => .done
  | (store, .reserve artifact startedAt token) =>
      (store.reserveOccurrence artifact startedAt token).answering fun f => .fence f.1 f.2
  | (store, .renew artifact generation token now) =>
      (store.renewOccurrenceFence artifact generation token now).answering .renewed
  | (_, .block artifact generation token requestFingerprint) =>
      (blockOccurrenceForApproval artifact generation token requestFingerprint).answering
        fun _ => .done
  | (store, .resume artifact priorGeneration requestFingerprint startedAt token) =>
      (store.resumeApprovalBlockedOccurrence artifact priorGeneration requestFingerprint startedAt
        token).answering fun f => .fence f.1 f.2
  | (_, .finalize artifact generation token status finishedAt) =>
      (finalizeOccurrence artifact generation token status finishedAt).answering fun _ => .done
  | (_, .markRecoverable artifact) => (markOccurrenceRecoverable artifact).answering fun _ => .done
  | (_, .reconcile artifact status now) =>
      (reconcileExpiredOccurrence artifact status now).answering fun _ => .done
  | (_, .cancel artifact now) => (cancelOccurrence artifact now).answering .cancelled
  | (_, .validate artifact generation token now) =>
      (validateOccurrenceFence artifact generation token now).answering fun _ => .done

/-- A call of one of the stores, with its answer. -/
abbrev Event := Served (RecurringStateStore × Call) Exn Answer

abbrev Step : List RecurringOccurrence → Event → List RecurringOccurrence → Prop := Serves perform

/-! ## What a call means for one artifact -/

/-- The fence that `reserve` or `resume` returned for the artifact. -/
def Event.issues (a : String) (e : Event) : Option (Int × Uuid) :=
  match e.call.2, e.answer with
  | .reserve artifact _ _, .ok (.fence generation token)
  | .resume artifact _ _ _ _, .ok (.fence generation token) =>
    if artifact = a then some (generation, token) else none
  | _, _ => none

/-- The fence that a call was accepted with. -/
def Event.uses (a : String) (e : Event) : Option (Int × Uuid) :=
  match e.call.2, e.answer with
  | .renew artifact generation token _, .ok (.renewed true)
  | .block artifact generation token _, .ok _
  | .finalize artifact generation token _ _, .ok _
  | .validate artifact generation token _, .ok _ =>
    if artifact = a then some (generation, token) else none
  | _, _ => none

/-- The row is running under this fence. -/
def Fenced (fence : Int × Uuid) (row : RecurringOccurrence) : Prop :=
  row.status = .running ∧ row.claimGeneration = fence.1 ∧ row.claimToken = some fence.2.str

/-- Rows that an attempt may begin from. -/
def Claimable (status : OccurrenceStatus) : Prop :=
  status = .bound ∨ status = .recoverable ∨ status = .approvalBlocked

/-- What an event can do to the row of an artifact. -/
inductive Moved (a : String) (e : Event) :
    Option RecurringOccurrence → Option RecurringOccurrence → Prop
  | stays (row : Option RecurringOccurrence) : e.issues a = none → Moved a e row row
  | registered (r : Registration) : e.issues a = none → r.artifactFingerprint = a →
      Moved a e none (some r.row)
  | reclaimed (row : RecurringOccurrence) (token : Uuid) (lease : String) :
      e.issues a = some (row.claimGeneration + 1, token) → Claimable row.status →
      Moved a e (some row) (some (row.reclaim lease token))
  | renewed (row : RecurringOccurrence) (lease : String) : e.issues a = none →
      row.status = .running → Moved a e (some row) (some (row.extend lease))
  /-- An attempt ends, or what had not begun is cancelled. -/
  | released (row : RecurringOccurrence) (status : OccurrenceStatus)
      (finishedAt requestFingerprint : Option String) : e.issues a = none →
      absorbing.contains row.status = false → status ≠ .running →
      Moved a e (some row) (some { row.release status finishedAt with
        approvalRequestFingerprint := requestFingerprint })
  | marked (row : RecurringOccurrence) : e.issues a = none → row.status = .failedPreEffect →
      Moved a e (some row) (some { row with
        status := .recoverable
        approvalRequestFingerprint := none })

/-- Both indexes of the table. -/
def Indexed (rows : List RecurringOccurrence) : Prop :=
  Unique RecurringOccurrence.artifactFingerprint rows ∧ Unique RecurringOccurrence.key rows

variable {rows rows' : List RecurringOccurrence} {a : String} {e : Event}

theorem artifactWhere_key {artifact : String} {condition : RecurringOccurrence → Bool}
    (row : RecurringOccurrence) (selected : artifactWhere artifact condition row = true) :
    row.artifactFingerprint = artifact :=
  beq_iff_eq.mp (Bool.and_eq_true_iff.mp selected).1

@[simp]
theorem row_artifact (r : Registration) : r.row.artifactFingerprint = r.artifactFingerprint := rfl

theorem fenced_iff {generation : Int} {token : Uuid} {row : RecurringOccurrence} :
    fenced generation token row = true ↔ Fenced (generation, token) row := by
  simp only [fenced, Fenced, Bool.and_eq_true, beq_iff_eq, and_assoc]

/-- A change of the row of one artifact, which leaves the others. -/
theorem moved_where (unique : Unique RecurringOccurrence.artifactFingerprint rows)
    {artifact : String} {condition : RecurringOccurrence → Bool}
    {set : RecurringOccurrence → RecurringOccurrence}
    (keeps : ∀ row, (set row).artifactFingerprint = row.artifactFingerprint)
    (one : rows.countP (artifactWhere artifact condition) = 1)
    (here : artifact = a → ∀ row, condition row = true →
      find RecurringOccurrence.artifactFingerprint a
        (update (artifactWhere artifact condition) set rows) = some (set row) →
      Moved a e (some row) (some (set row)))
    (other : artifact ≠ a → e.issues a = none) :
    Moved a e (find RecurringOccurrence.artifactFingerprint a rows)
      (find RecurringOccurrence.artifactFingerprint a
        (update (artifactWhere artifact condition) set rows)) := by
  by_cases same : artifact = a
  · subst same
    have asks : ∀ row, artifactWhere artifact condition row = true →
        row.artifactFingerprint = artifact := artifactWhere_key
    rcases update_cases unique asks fun row _ => keeps row with
      ⟨-, row, found, selected, changed⟩ | ⟨zero, -⟩
    · have moved := here rfl row (Bool.and_eq_true_iff.mp selected).2 changed
      rw [changed, found]
      exact moved
    · rw [one] at zero
      cases zero
  · rw [find_update_other artifactWhere_key (fun row _ => keeps row) (Ne.symm same)]
    exact .stays _ (other same)

/-- What a transition does when it does not raise. -/
theorem transition_ok {selects : RecurringOccurrence → Bool}
    {set : RecurringOccurrence → RecurringOccurrence} {message : String}
    (moved : transition selects set message rows = .ok ((), rows')) :
    rows.countP selects = 1 ∧ rows' = update selects set rows := by
  unfold transition at moved
  split at moved
  · next one =>
    cases moved
    exact ⟨one, rfl⟩
  · cases moved

/-- What a registration does when it does not raise. -/
theorem register_ok {r : Registration}
    (registered : registerOccurrenceArtifact r rows = .ok ((), rows')) :
    rows' = rows ∨
      find RecurringOccurrence.key r.row.key rows = none ∧
      find RecurringOccurrence.artifactFingerprint r.artifactFingerprint rows = none ∧
      rows' = rows ++ [r.row] := by
  unfold registerOccurrenceArtifact at registered
  split at registered
  · split at registered
    · cases registered
      exact .inl rfl
    · cases registered
  · next absent =>
    split at registered
    · cases registered
    · next unused =>
      cases registered
      exact .inr ⟨absent, Option.not_isSome_iff_eq_none.mp unused, rfl⟩

/-- What a reservation does when it does not raise: the row is the one that it read back. -/
theorem reserve_ok {store : RecurringStateStore} {artifact : String} {startedAt : Datetime}
    {token : Uuid} {fence : Int × Uuid}
    (reserved : store.reserveOccurrence artifact startedAt token rows = .ok (fence, rows')) :
    ∃ lease row, store.leaseFrom startedAt = .ok lease ∧
      rows.countP (artifactWhere artifact (reservable startedAt.isoformat)) = 1 ∧
      rows' = update (artifactWhere artifact (reservable startedAt.isoformat))
        (RecurringOccurrence.reclaim lease token) rows ∧
      find RecurringOccurrence.artifactFingerprint artifact rows' = some row ∧
      fence = (row.claimGeneration, token) := by
  obtain ⟨lease, leased, reserved⟩ := of_bind_ok reserved
  dsimp only at reserved
  split at reserved
  · next one =>
    split at reserved
    · next row found =>
      cases reserved
      exact ⟨lease, row, leased, one, rfl, found, rfl⟩
    · cases reserved
  · cases reserved

/-- What a resume does when it does not raise. -/
theorem resume_ok {store : RecurringStateStore} {artifact requestFingerprint : String}
    {priorGeneration : Int} {startedAt : Datetime} {token : Uuid} {fence : Int × Uuid}
    (resumed : store.resumeApprovalBlockedOccurrence artifact priorGeneration requestFingerprint
      startedAt token rows = .ok (fence, rows')) :
    ∃ lease, store.leaseFrom startedAt = .ok lease ∧ rows.countP (artifactWhere artifact
        (resumable priorGeneration requestFingerprint startedAt.isoformat)) = 1 ∧
      rows' = update (artifactWhere artifact
        (resumable priorGeneration requestFingerprint startedAt.isoformat))
        (RecurringOccurrence.reclaim lease token) rows ∧
      fence = (priorGeneration + 1, token) := by
  obtain ⟨lease, leased, resumed⟩ := of_bind_ok resumed
  dsimp only at resumed
  split at resumed
  · next one =>
    cases resumed
    exact ⟨lease, leased, one, rfl, rfl⟩
  · cases resumed

/-- What a cancellation does when it does not raise. -/
theorem cancel_ok {artifact : String} {now : Datetime} {status : OccurrenceStatus}
    (cancelled : cancelOccurrence artifact now rows = .ok (status, rows')) :
    ∃ current selected, absorbing.contains current = false ∧ selected ≠ .running ∧
      rows.countP (artifactWhere artifact (·.status == current)) = 1 ∧
      rows' = update (artifactWhere artifact (·.status == current))
        (RecurringOccurrence.release selected (some now.isoformat)) rows := by
  unfold cancelOccurrence at cancelled
  split at cancelled
  · cases cancelled
  · next row found =>
    split at cancelled
    · cases cancelled
    · next pending =>
      obtain ⟨⟨⟨⟩, changed⟩, moved, cancelled⟩ := of_bind_ok cancelled
      obtain ⟨one, rfl⟩ := transition_ok moved
      cases cancelled
      refine ⟨row.status, _, Bool.not_eq_true _ ▸ pending, ?_, one, rfl⟩
      split <;> decide

/-- A reconciliation that does not raise ends a running attempt. -/
theorem reconcile_ok {artifact : String} {status : OccurrenceStatus} {now : Datetime}
    (reconciled : reconcileExpiredOccurrence artifact status now rows = .ok ((), rows')) :
    status ≠ .running ∧ rows.countP (artifactWhere artifact (lapsed now)) = 1 ∧
      rows' = update (artifactWhere artifact (lapsed now))
        (RecurringOccurrence.release status (some now.isoformat)) rows := by
  unfold reconcileExpiredOccurrence at reconciled
  split at reconciled
  · next supported =>
    refine ⟨?_, transition_ok reconciled⟩
    rintro rfl
    rcases supported with is | is <;> cases is
  · cases reconciled

/-- A finalization that does not raise ends a running attempt. -/
theorem finalize_ok {artifact : String} {generation : Int} {token : Uuid}
    {status : OccurrenceStatus} {finishedAt : Datetime}
    (finalized : finalizeOccurrence artifact generation token status finishedAt rows =
      .ok ((), rows')) :
    status ≠ .running ∧ transitionRunningOccurrence artifact generation token status none
      (some finishedAt.isoformat) rows = .ok ((), rows') := by
  unfold finalizeOccurrence at finalized
  split at finalized
  · next supported =>
    refine ⟨?_, finalized⟩
    rintro rfl
    cases supported
  · cases finalized

/-- A fence that is accepted is that of the row, and nothing changes. -/
theorem validate_ok {artifact : String} {generation : Int} {token : Uuid} {now : Datetime}
    (validated : validateOccurrenceFence artifact generation token now rows = .ok ((), rows')) :
    rows' = rows ∧ ∃ row, find RecurringOccurrence.artifactFingerprint artifact rows = some row ∧
      Fenced (generation, token) row := by
  unfold validateOccurrenceFence at validated
  split at validated
  · cases validated
  · next row found =>
    obtain ⟨found, held⟩ := Option.filter_eq_some_iff.mp found
    split at validated
    · cases validated
    · next lease _ =>
      obtain ⟨ended, -, validated⟩ := of_bind_ok validated
      cases ended with
      | true => cases validated
      | false =>
        cases validated
        exact ⟨rfl, row, found, fenced_iff.mp held⟩

/-- What a renewal does when it does not raise. -/
theorem renew_ok {store : RecurringStateStore} {artifact : String} {generation : Int}
    {token : Uuid} {now : Datetime} {held : Bool}
    (renewed : store.renewOccurrenceFence artifact generation token now rows = .ok (held, rows')) :
    ∃ lease, store.leaseFrom now = .ok lease ∧
      held = decide (rows.countP (artifactWhere artifact (renewable generation token now)) = 1) ∧
      rows' = update (artifactWhere artifact (renewable generation token now))
        (RecurringOccurrence.extend lease) rows := by
  obtain ⟨lease, leased, renewed⟩ := of_bind_ok renewed
  cases renewed
  exact ⟨lease, leased, rfl, rfl⟩

/-- The end of an attempt under its fence. -/
theorem ended_moved (unique : Unique RecurringOccurrence.artifactFingerprint rows)
    {artifact : String} {generation : Int} {token : Uuid} {status : OccurrenceStatus}
    {requestFingerprint finishedAt : Option String} (issues : e.issues a = none)
    (idle : status ≠ .running)
    (ended : transitionRunningOccurrence artifact generation token status requestFingerprint
      finishedAt rows = .ok ((), rows')) :
    Moved a e (find RecurringOccurrence.artifactFingerprint a rows)
      (find RecurringOccurrence.artifactFingerprint a rows') := by
  obtain ⟨one, rfl⟩ := transition_ok ended
  refine moved_where unique (fun _ => rfl) one (fun _ row held _ => ?_) fun _ => issues
  exact .released row status finishedAt requestFingerprint issues
    (by rw [(fenced_iff.mp held).1]; rfl) idle

/-- What a step does to the row of an artifact. -/
theorem step_moved (unique : Unique RecurringOccurrence.artifactFingerprint rows)
    (step : Step rows e rows') (a : String) :
    Moved a e (find RecurringOccurrence.artifactFingerprint a rows)
      (find RecurringOccurrence.artifactFingerprint a rows') := by
  rcases serves_cases step with ⟨answer, performed, answered⟩ | ⟨⟨raised, answered⟩, rfl⟩
  swap
  · refine .stays _ ?_
    unfold Event.issues
    rw [answered]
    split <;> first | rfl | contradiction
  obtain ⟨⟨store, call⟩, _⟩ := e
  dsimp only at performed answered
  subst answered
  cases call with
  | register r =>
    obtain ⟨⟨⟩, registered, rfl⟩ := of_answering_ok performed
    rcases register_ok registered with rfl | ⟨-, unused, rfl⟩
    · exact .stays _ rfl
    · rw [find_concat]
      by_cases same : r.artifactFingerprint = a
      · subst same
        rw [unused, Option.none_or, row_artifact, if_pos rfl]
        exact .registered r rfl rfl
      · rw [row_artifact, if_neg same, Option.or_none]
        exact .stays _ rfl
  | reserve artifact startedAt token =>
    obtain ⟨fence, reserved, rfl⟩ := of_answering_ok performed
    obtain ⟨lease, back, -, one, rfl, found, rfl⟩ := reserve_ok reserved
    refine moved_where unique (fun _ => rfl) one ?_ fun other => if_neg other
    rintro rfl row held changed
    -- the row that is read back is the one that was just changed
    obtain rfl := Option.some.inj (changed.symm.trans found)
    refine .reclaimed row token lease (if_pos rfl) ?_
    rcases Bool.or_eq_true_iff.mp (Bool.and_eq_true_iff.mp held).1 with is | is
    · exact .inl (beq_iff_eq.mp is)
    · exact .inr (.inl (beq_iff_eq.mp is))
  | renew artifact generation token now =>
    obtain ⟨held, renewed, rfl⟩ := of_answering_ok performed
    obtain ⟨lease, -, -, rfl⟩ := renew_ok renewed
    by_cases one : rows.countP (artifactWhere artifact (renewable generation token now)) = 1
    · refine moved_where unique (fun _ => rfl) one (fun _ row held _ => ?_) fun _ => rfl
      exact .renewed row lease rfl (fenced_iff.mp (Bool.and_eq_true_iff.mp held).1).1
    · have asks : ∀ row, artifactWhere artifact (renewable generation token now) row = true →
          row.artifactFingerprint = artifact := artifactWhere_key
      have keeps : ∀ row : RecurringOccurrence, artifactWhere artifact
          (renewable generation token now) row = true →
          (row.extend lease).artifactFingerprint = row.artifactFingerprint := fun _ _ => rfl
      rcases update_cases unique asks keeps with ⟨counted, -⟩ | ⟨-, unchanged⟩
      · exact absurd counted one
      · rw [unchanged]
        exact .stays _ rfl
  | block artifact generation token requestFingerprint =>
    obtain ⟨⟨⟩, blocked, rfl⟩ := of_answering_ok performed
    exact ended_moved unique rfl (by decide) blocked
  | resume artifact priorGeneration requestFingerprint startedAt token =>
    obtain ⟨fence, resumed, rfl⟩ := of_answering_ok performed
    obtain ⟨lease, -, one, rfl, rfl⟩ := resume_ok resumed
    refine moved_where unique (fun _ => rfl) one ?_ fun other => if_neg other
    rintro rfl row held changed
    simp only [resumable, Bool.and_eq_true, beq_iff_eq] at held
    obtain ⟨⟨⟨blocked, rfl⟩, -⟩, -⟩ := held
    exact .reclaimed row token lease (if_pos rfl) (.inr (.inr blocked))
  | finalize artifact generation token status finishedAt =>
    obtain ⟨⟨⟩, finalized, rfl⟩ := of_answering_ok performed
    obtain ⟨idle, ended⟩ := finalize_ok finalized
    exact ended_moved unique rfl idle ended
  | markRecoverable artifact =>
    obtain ⟨⟨⟩, marked, rfl⟩ := of_answering_ok performed
    obtain ⟨one, rfl⟩ := transition_ok marked
    refine moved_where unique (fun _ => rfl) one (fun _ row failed _ => ?_) fun _ => rfl
    exact .marked row rfl (beq_iff_eq.mp failed)
  | reconcile artifact status now =>
    obtain ⟨⟨⟩, reconciled, rfl⟩ := of_answering_ok performed
    obtain ⟨idle, one, rfl⟩ := reconcile_ok reconciled
    refine moved_where unique (fun _ => rfl) one (fun _ row held _ => ?_) fun _ => rfl
    have running := beq_iff_eq.mp (Bool.and_eq_true_iff.mp held).1
    exact .released row status _ row.approvalRequestFingerprint rfl (by rw [running]; rfl) idle
  | cancel artifact now =>
    obtain ⟨status, cancelled, rfl⟩ := of_answering_ok performed
    obtain ⟨current, selected, pending, idle, one, rfl⟩ := cancel_ok cancelled
    refine moved_where unique (fun _ => rfl) one (fun _ row held _ => ?_) fun _ => rfl
    have is := beq_iff_eq.mp held
    exact .released row selected _ row.approvalRequestFingerprint rfl (by rw [is]; exact pending) idle
  | validate artifact generation token now =>
    obtain ⟨⟨⟩, validated, rfl⟩ := of_answering_ok performed
    obtain ⟨rfl, -⟩ := validate_ok validated
    exact .stays _ rfl

/-- A fence that a call is accepted with is that of the row. -/
theorem uses_fenced (unique : Unique RecurringOccurrence.artifactFingerprint rows)
    (step : Step rows e rows') {fence : Int × Uuid} (uses : e.uses a = some fence) :
    ∃ row, find RecurringOccurrence.artifactFingerprint a rows = some row ∧ Fenced fence row := by
  rcases serves_cases step with ⟨answer, performed, answered⟩ | ⟨⟨raised, answered⟩, -⟩
  swap
  · unfold Event.uses at uses
    rw [answered] at uses
    split at uses <;> contradiction
  obtain ⟨⟨store, call⟩, _⟩ := e
  dsimp only at performed answered
  subst answered
  have selected : ∀ {artifact : String} {condition : RecurringOccurrence → Bool},
      rows.countP (artifactWhere artifact condition) = 1 →
      ∃ row, find RecurringOccurrence.artifactFingerprint artifact rows = some row ∧
        condition row = true := by
    intro artifact condition one
    obtain ⟨row, found, held⟩ := count_one unique artifactWhere_key one
    exact ⟨row, found, (Bool.and_eq_true_iff.mp held).2⟩
  cases call with
  | renew artifact generation token now =>
    obtain ⟨held, renewed, rfl⟩ := of_answering_ok performed
    obtain ⟨lease, -, isHeld, -⟩ := renew_ok renewed
    cases held with
    | false => cases uses
    | true =>
      obtain ⟨rfl, same⟩ := Option.ite_none_right_eq_some.mp uses
      obtain rfl := Option.some.inj same
      obtain ⟨row, found, held⟩ := selected (of_decide_eq_true isHeld.symm)
      exact ⟨row, found, fenced_iff.mp (Bool.and_eq_true_iff.mp held).1⟩
  | block artifact generation token requestFingerprint =>
    obtain ⟨⟨⟩, blocked, -⟩ := of_answering_ok performed
    obtain ⟨rfl, same⟩ := Option.ite_none_right_eq_some.mp uses
    obtain rfl := Option.some.inj same
    obtain ⟨row, found, held⟩ := selected (transition_ok blocked).1
    exact ⟨row, found, fenced_iff.mp held⟩
  | finalize artifact generation token status finishedAt =>
    obtain ⟨⟨⟩, finalized, -⟩ := of_answering_ok performed
    obtain ⟨rfl, same⟩ := Option.ite_none_right_eq_some.mp uses
    obtain rfl := Option.some.inj same
    obtain ⟨row, found, held⟩ := selected (transition_ok (finalize_ok finalized).2).1
    exact ⟨row, found, fenced_iff.mp held⟩
  | validate artifact generation token now =>
    obtain ⟨⟨⟩, validated, -⟩ := of_answering_ok performed
    obtain ⟨rfl, same⟩ := Option.ite_none_right_eq_some.mp uses
    obtain rfl := Option.some.inj same
    exact (validate_ok validated).2
  | register | reserve | resume | markRecoverable | reconcile | cancel => cases uses

/-- What a step makes of the table: a row is appended whose two keys are free, or rows are changed
that keep their keys. -/
theorem step_indexed (indexed : Indexed rows) (step : Step rows e rows') : Indexed rows' := by
  rcases serves_cases step with ⟨answer, performed, -⟩ | ⟨-, rfl⟩
  swap
  · exact indexed
  obtain ⟨⟨store, call⟩, _⟩ := e
  have updated : ∀ {selects : RecurringOccurrence → Bool}
      {set : RecurringOccurrence → RecurringOccurrence},
      (∀ row, (set row).artifactFingerprint = row.artifactFingerprint ∧ (set row).key = row.key) →
      Indexed (update selects set rows) := fun keeps =>
    ⟨unique_update (fun row _ => (keeps row).1) indexed.1,
      unique_update (fun row _ => (keeps row).2) indexed.2⟩
  cases call with
  | register r =>
    obtain ⟨⟨⟩, registered, -⟩ := of_answering_ok performed
    rcases register_ok registered with rfl | ⟨absent, unused, rfl⟩
    · exact indexed
    · exact ⟨unique_concat indexed.1 unused, unique_concat indexed.2 absent⟩
  | reserve artifact startedAt token =>
    obtain ⟨fence, reserved, -⟩ := of_answering_ok performed
    obtain ⟨lease, back, -, -, rfl, -, -⟩ := reserve_ok reserved
    exact updated fun _ => ⟨rfl, rfl⟩
  | renew artifact generation token now =>
    obtain ⟨held, renewed, -⟩ := of_answering_ok performed
    obtain ⟨lease, -, -, rfl⟩ := renew_ok renewed
    exact updated fun _ => ⟨rfl, rfl⟩
  | block artifact generation token requestFingerprint =>
    obtain ⟨⟨⟩, blocked, -⟩ := of_answering_ok performed
    obtain ⟨-, rfl⟩ := transition_ok blocked
    exact updated fun _ => ⟨rfl, rfl⟩
  | resume artifact priorGeneration requestFingerprint startedAt token =>
    obtain ⟨fence, resumed, -⟩ := of_answering_ok performed
    obtain ⟨lease, -, -, rfl, -⟩ := resume_ok resumed
    exact updated fun _ => ⟨rfl, rfl⟩
  | finalize artifact generation token status finishedAt =>
    obtain ⟨⟨⟩, finalized, -⟩ := of_answering_ok performed
    obtain ⟨-, rfl⟩ := transition_ok (finalize_ok finalized).2
    exact updated fun _ => ⟨rfl, rfl⟩
  | markRecoverable artifact =>
    obtain ⟨⟨⟩, marked, -⟩ := of_answering_ok performed
    obtain ⟨-, rfl⟩ := transition_ok marked
    exact updated fun _ => ⟨rfl, rfl⟩
  | reconcile artifact status now =>
    obtain ⟨⟨⟩, reconciled, -⟩ := of_answering_ok performed
    obtain ⟨-, -, rfl⟩ := reconcile_ok reconciled
    exact updated fun _ => ⟨rfl, rfl⟩
  | cancel artifact now =>
    obtain ⟨status, cancelled, -⟩ := of_answering_ok performed
    obtain ⟨_, _, -, -, -, rfl⟩ := cancel_ok cancelled
    exact updated fun _ => ⟨rfl, rfl⟩
  | validate artifact generation token now =>
    obtain ⟨⟨⟩, validated, -⟩ := of_answering_ok performed
    rw [(validate_ok validated).1]
    exact indexed

/-! ## Runs -/

/-- The fences that were issued for the artifact, in their order. -/
def fences (a : String) (events : List Event) : List (Int × Uuid) :=
  events.filterMap (Event.issues a)

/-- A row carries a token and a lease exactly while it is running. -/
structure Leased (row : RecurringOccurrence) : Prop where
  token : row.claimToken.isSome ↔ row.status = .running
  lease : row.leaseExpiresAt.isSome ↔ row.status = .running

/-- Generations grow with every fence, and a running row holds the last one. -/
def Current (issued : List (Int × Uuid)) : Option RecurringOccurrence → Prop
  | none => issued = []
  | some row => Leased row ∧ (∀ fence ∈ issued, fence.1 ≤ row.claimGeneration) ∧
      (row.status = .running → ∃ token, issued.getLast? = some (row.claimGeneration, token) ∧
        row.claimToken = some token.str)

theorem fences_concat {events : List Event} :
    fences a (events ++ [e]) = fences a events ++ (Event.issues a e).toList := by
  rw [fences, List.filterMap_append]
  cases issued : Event.issues a e <;> simp [fences, issued]

/-- One event keeps the fence of the row the last one. -/
theorem current_moved {events : List Event} {before after : Option RecurringOccurrence}
    (current : Current (fences a events) before) (growing : (fences a events).Pairwise (·.1 < ·.1))
    (moved : Moved a e before after) :
    Current (fences a (events ++ [e])) after ∧
      (fences a (events ++ [e])).Pairwise (·.1 < ·.1) := by
  have kept : e.issues a = none → fences a (events ++ [e]) = fences a events := by
    intro none
    rw [fences_concat, none, Option.toList_none, List.append_nil]
  cases moved with
  | stays row issues =>
    rw [kept issues]
    exact ⟨current, growing⟩
  | registered r issues same =>
    have none : fences a events = [] := current
    rw [kept issues]
    refine ⟨⟨⟨⟨nofun, nofun⟩, ⟨nofun, nofun⟩⟩, ?_, nofun⟩, growing⟩
    rw [none]
    exact fun _ listed => nomatch listed
  | reclaimed row token lease issues claimable =>
    obtain ⟨-, bounded, -⟩ := current
    rw [fences_concat, issues, Option.toList_some]
    refine ⟨⟨⟨iff_of_true rfl rfl, iff_of_true rfl rfl⟩, ?_, fun _ => ⟨token, ?_, rfl⟩⟩, ?_⟩
    · intro fence listed
      show fence.1 ≤ row.claimGeneration + 1
      rcases List.mem_append.mp listed with old | new
      · exact Int.le_add_one (bounded fence old)
      · rw [List.mem_singleton.mp new]
    · exact List.getLast?_concat
    · refine List.pairwise_append.mpr ⟨growing, List.pairwise_singleton .., ?_⟩
      intro fence old last new
      rw [List.mem_singleton.mp new]
      exact Int.lt_add_one_of_le (bounded fence old)
  | renewed row lease issues running =>
    rw [kept issues]
    obtain ⟨leased, bounded, holds⟩ := current
    exact ⟨⟨⟨leased.token, iff_of_true rfl running⟩, bounded, holds⟩, growing⟩
  | released row status finishedAt requestFingerprint issues pending idle =>
    rw [kept issues]
    obtain ⟨-, bounded, -⟩ := current
    refine ⟨⟨⟨iff_of_false nofun idle, iff_of_false nofun idle⟩, bounded, ?_⟩, growing⟩
    exact fun running => absurd running idle
  | marked row issues failed =>
    rw [kept issues]
    obtain ⟨leased, bounded, -⟩ := current
    have idle : row.status ≠ .running := by
      rw [failed]
      decide
    refine ⟨⟨⟨iff_of_false (fun held => idle (leased.token.mp held)) nofun,
      iff_of_false (fun held => idle (leased.lease.mp held)) nofun⟩, bounded, nofun⟩, growing⟩

/-- In every state reached, a running row holds the fence issued last. -/
theorem fence_invariant {events : List Event} (run : Run Step [] events rows) (a : String) :
    Current (fences a events) (find RecurringOccurrence.artifactFingerprint a rows) ∧
      (fences a events).Pairwise (·.1 < ·.1) := by
  have kept : Indexed rows ∧
      Current (fences a events) (find RecurringOccurrence.artifactFingerprint a rows) ∧
      (fences a events).Pairwise (·.1 < ·.1) := by
    refine Run.history_nil (I := fun events rows => Indexed rows ∧
      Current (fences a events) (find RecurringOccurrence.artifactFingerprint a rows) ∧
      (fences a events).Pairwise (·.1 < ·.1)) ?_ run ?_
    · rintro events rows e rows' ⟨indexed, current, growing⟩ step
      exact ⟨step_indexed indexed step,
        current_moved current growing (step_moved indexed.1 step a)⟩
    · exact ⟨⟨List.nodup_nil, List.nodup_nil⟩, rfl, List.Pairwise.nil⟩
  exact kept.2

/-- What becomes of a row later: the registered columns stay, the generation does not decrease, and
an absorbing row stays as it is. -/
structure Follows (row row' : RecurringOccurrence) : Prop where
  key : row'.key = row.key
  registered : row'.registered = row.registered
  generation : row.claimGeneration ≤ row'.claimGeneration
  absorbed : absorbing.contains row.status → row' = row

theorem Follows.refl (row : RecurringOccurrence) : Follows row row :=
  ⟨rfl, rfl, Int.le_refl _, fun _ => rfl⟩

theorem Follows.trans {row row' row'' : RecurringOccurrence} (first : Follows row row')
    (second : Follows row' row'') : Follows row row'' := by
  refine ⟨second.key.trans first.key, second.registered.trans first.registered,
    Int.le_trans first.generation second.generation, fun absorbed => ?_⟩
  have same := first.absorbed absorbed
  exact (second.absorbed (same ▸ absorbed)).trans same

/-- One event leaves what `Follows` promises. -/
theorem follows_moved {row : RecurringOccurrence} {after : Option RecurringOccurrence}
    (moved : Moved a e (some row) after) : ∃ row', after = some row' ∧ Follows row row' := by
  cases moved with
  | stays row issues => exact ⟨row, rfl, .refl row⟩
  | reclaimed row token lease issues claimable =>
    refine ⟨_, rfl, rfl, rfl, Int.le_add_one (Int.le_refl _), fun absorbed => ?_⟩
    rcases claimable with is | is | is <;> rw [is] at absorbed <;> cases absorbed
  | renewed row lease issues running =>
    refine ⟨_, rfl, rfl, rfl, Int.le_refl _, fun absorbed => ?_⟩
    rw [running] at absorbed
    cases absorbed
  | released row status finishedAt requestFingerprint issues pending idle =>
    refine ⟨_, rfl, rfl, rfl, Int.le_refl _, fun absorbed => ?_⟩
    rw [pending] at absorbed
    cases absorbed
  | marked row issues failed =>
    refine ⟨_, rfl, rfl, rfl, Int.le_refl _, fun absorbed => ?_⟩
    rw [failed] at absorbed
    cases absorbed

/-- A row follows from what it was. -/
theorem Follows.run {events : List Event} (run : Run Step rows events rows')
    (indexed : Indexed rows) {row : RecurringOccurrence}
    (found : find RecurringOccurrence.artifactFingerprint a rows = some row) :
    ∃ row', find RecurringOccurrence.artifactFingerprint a rows' = some row' ∧ Follows row row' := by
  induction run generalizing row with
  | nil rows => exact ⟨row, found, .refl row⟩
  | cons step _ ih =>
    have moved := step_moved indexed.1 step a
    rw [found] at moved
    obtain ⟨next, isNext, first⟩ := follows_moved moved
    obtain ⟨last, isLast, second⟩ := ih (step_indexed indexed step) isNext
    exact ⟨last, isLast, first.trans second⟩

/-! ## Guarantees -/

/-- What holds of the occurrences after a run of the system. -/
structure FencesHold (events : List Event) (rows : List RecurringOccurrence) : Prop where
  indexed : Indexed rows
  leased : ∀ row ∈ rows, Leased row
  /-- Every `reserve` and `resume` returns a larger generation than those before. -/
  growing : ∀ a, (fences a events).Pairwise (·.1 < ·.1)
  /-- A fence is accepted only while the row runs, and only the one issued last. -/
  accepted : ∀ a e rows' fence, Step rows e rows' → e.uses a = some fence →
    (fences a events).getLast? = some fence ∧
      ∃ row, find RecurringOccurrence.artifactFingerprint a rows = some row ∧ row.status = .running
  later : ∀ a row, find RecurringOccurrence.artifactFingerprint a rows = some row →
    ∀ later rows', Run Step rows later rows' →
      ∃ row', find RecurringOccurrence.artifactFingerprint a rows' = some row' ∧ Follows row row'

/-- The guarantees hold after every run of any number of processes. -/
theorem occurrences_fenced {events : List Event} {rows : List RecurringOccurrence}
    (run : Run Step [] events rows) : FencesHold events rows := by
  have indexed : Indexed rows := run.invariant (fun _ _ _ held step => step_indexed held step)
    ⟨List.nodup_nil, List.nodup_nil⟩
  refine ⟨indexed, fun row listed => ?_, fun a => (fence_invariant run a).2, ?_, ?_⟩
  · have current := (fence_invariant run row.artifactFingerprint).1
    rw [find_of_mem indexed.1 listed] at current
    exact current.1
  · intro a e rows' fence step uses
    obtain ⟨row, found, running, generation, held⟩ := uses_fenced indexed.1 step uses
    have current := (fence_invariant run a).1
    rw [found] at current
    obtain ⟨token, last, same⟩ := current.2.2 running
    rw [held] at same
    refine ⟨?_, row, found, running⟩
    rw [last, generation, ← Uuid.str_inj (Option.some.inj same)]
  · intro a row found later rows' run'
    exact Follows.run run' indexed found

/-! ### A fence that was reissued -/

namespace Samples

def monday : Datetime := ⟨2026, 1, 12, 9, 0, 0, 0, some 0, by decide⟩
def later : Datetime := ⟨2026, 1, 12, 10, 0, 0, 0, some 0, by decide⟩
def deadline : Datetime := ⟨2026, 1, 13, 9, 0, 0, 0, some 0, by decide⟩

def first : Uuid := .repeated 1
def second : Uuid := .repeated 2

/-- A lease of six minutes. -/
def store : RecurringStateStore := ⟨360000000, by decide⟩

def artifact : Registration := ⟨"weekly", monday, "a", "b", "c", "d", deadline⟩

/-- The first attempt expires and is reconciled; it finalizes after the second was reserved. -/
def calls : List (RecurringStateStore × Call) :=
  [(store, .register artifact), (store, .reserve "a" monday first),
    (store, .reconcile "a" .recoverable later), (store, .reserve "a" later second),
    (store, .finalize "a" 1 first .succeeded later),
    (store, .finalize "a" 2 second .succeeded later)]

/-- Only the second attempt is accepted. -/
theorem reissued_fence : FencesHold (play perform calls []).1 (play perform calls []).2 ∧
    (play perform calls []).1.filterMap (Event.uses "a") = [(2, second)] :=
  ⟨occurrences_fenced (run_play calls []), by decide +kernel⟩

end Samples

end MasterAgent.Recurring.Fences
