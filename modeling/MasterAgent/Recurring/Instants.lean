import MasterAgent.Base.Chronology
import MasterAgent.Recurring.Claims
import MasterAgent.Recurring.Fences

/-!
# Leases and deadlines as times

The database compares the leases and the deadlines of its rows as texts. In every state reached by
calls whose times are in UTC, each of its comparisons decides as the comparison of the times does.

Results:

1. `Written.le`, `Written.ge`, `Written.gt`: a text against a time;
2. `timed_reached`, `runs_timed_reached`: what the columns hold;
3. `stored_instants_compare`: the order of the texts, and the comparisons of the store.
-/

namespace MasterAgent.Recurring.Instants
open Base Table RecurringStateStore Fences

/-! ## Comparisons -/

/-- `a <= b` of two aware times. -/
def datetimeLe (a b : Datetime) : Bool :=
  match a.instant?, b.instant? with
  | some a, some b => decide (a ≤ b)
  | _, _ => false

/-- `a < b` of two aware times. -/
def datetimeLt (a b : Datetime) : Bool :=
  match a.instant?, b.instant? with
  | some a, some b => decide (a < b)
  | _, _ => false

/-- The condition holds of the time that the text shows. -/
def shows (condition : Datetime → Bool) (text : String) : Bool :=
  (Datetime.fromIsoformat text).any condition

/-- The text of a time in UTC. -/
def Written (text : String) : Prop := ∃ d : Datetime, d.offset = some 0 ∧ text = d.isoformat

variable {a b now : Datetime}

theorem datetimeLe_utc (ha : a.offset = some 0) (hb : b.offset = some 0) :
    datetimeLe a b = decide (a.wallMicros ≤ b.wallMicros) := by
  rw [datetimeLe, Datetime.instant?_utc ha, Datetime.instant?_utc hb]

theorem datetimeLt_utc (ha : a.offset = some 0) (hb : b.offset = some 0) :
    datetimeLt a b = decide (a.wallMicros < b.wallMicros) := by
  rw [datetimeLt, Datetime.instant?_utc ha, Datetime.instant?_utc hb]

theorem textLe_isoformat (ha : a.offset = some 0) (hb : b.offset = some 0) :
    textLe a.isoformat b.isoformat = datetimeLe a b := by
  rw [datetimeLe_utc ha hb, textLe, decide_eq_decide, ← not_lt]
  exact (not_congr (Datetime.isoformat_lt_iff hb ha)).trans Int.not_lt

theorem shows_isoformat {condition : Datetime → Bool} : shows condition a.isoformat = condition a := by
  rw [shows, Datetime.fromIsoformat_isoformat, Option.any_some]

/-- `text <= now` -/
theorem Written.le {text : String} (written : Written text) (utc : now.offset = some 0) :
    textLe text now.isoformat = shows (datetimeLe · now) text := by
  obtain ⟨d, hd, rfl⟩ := written
  rw [shows_isoformat, textLe_isoformat hd utc]

/-- `text >= now` -/
theorem Written.ge {text : String} (written : Written text) (utc : now.offset = some 0) :
    textLe now.isoformat text = shows (datetimeLe now ·) text := by
  obtain ⟨d, hd, rfl⟩ := written
  rw [shows_isoformat, textLe_isoformat utc hd]

/-- `text > now` -/
theorem Written.gt {text : String} (written : Written text) (utc : now.offset = some 0) :
    (!textLe text now.isoformat) = shows (datetimeLt now ·) text := by
  obtain ⟨d, hd, rfl⟩ := written
  rw [shows_isoformat, textLe_isoformat hd utc, datetimeLe_utc hd utc, datetimeLt_utc utc hd, ← decide_not]
  exact decide_eq_decide.mpr Int.not_le

-- an equation of functions: at an argument, the match on the moved time would be evaluated
theorem leaseFrom_eq : leaseFrom = fun self instant =>
    match instant.plus self.leaseDuration with
    | some expiry => .ok expiry.isoformat
    | none => .error ⟨.overflow, "OverflowError", "date value out of range"⟩ := (rfl)

/-- A lease that is made of a time in UTC. -/
theorem written_lease {store : RecurringStateStore} {instant : Datetime} {lease : String}
    (utc : instant.offset = some 0) (leased : store.leaseFrom instant = .ok lease) : Written lease := by
  rw [leaseFrom_eq] at leased
  dsimp only at leased
  have kept (expiry : Datetime) : instant.plus store.leaseDuration = some expiry → expiry.offset = some 0 :=
    fun moved => (Datetime.plus_offset moved).trans utc
  generalize instant.plus store.leaseDuration = moved at leased kept
  cases moved with
  | none => cases leased
  | some expiry => exact ⟨expiry, kept expiry rfl, (Except.ok.inj leased).symm⟩

/-! ## Occurrences -/

/-- The times of a call that a lease or a deadline is made of. -/
def times : Fences.Call → List Datetime
  | .register r => [r.resumeDeadline]
  | .reserve _ startedAt _ | .resume _ _ _ startedAt _ => [startedAt]
  | .renew _ _ _ now => [now]
  | _ => []

/-- Both columns hold texts of times in UTC. -/
def Timed (row : RecurringOccurrence) : Prop :=
  (∀ lease ∈ row.leaseExpiresAt, Written lease) ∧ Written row.resumeDeadline

/-- The comparisons that the store makes with a row, each as one of times. -/
structure ComparedAsTimes (now : Datetime) (row : RecurringOccurrence) : Prop where
  reserving : reservable now.isoformat row =
    ((row.status == .bound || row.status == .recoverable) && shows (datetimeLe now ·) row.resumeDeadline)
  resuming : ∀ priorGeneration requestFingerprint,
    resumable priorGeneration requestFingerprint now.isoformat row =
      (row.status == .approvalBlocked && row.claimGeneration == priorGeneration &&
        row.approvalRequestFingerprint == some requestFingerprint &&
        shows (datetimeLe now ·) row.resumeDeadline)
  reconciling : lapsed now row =
    (row.status == .running && row.leaseExpiresAt.any (shows (datetimeLe · now)))
  renewing : ∀ generation token, renewable generation token now row =
    (fenced generation token row && row.leaseExpiresAt.any (shows (datetimeLt now ·)))

/-- A condition on the lease may be replaced by one that agrees on what it holds. -/
theorem any_lease {lease : Option String} {p q : String → Bool} (agree : ∀ text ∈ lease, p text = q text) :
    lease.any p = lease.any q := by
  cases lease with
  | none => rfl
  | some text => exact agree text rfl

theorem Timed.compared {row : RecurringOccurrence} (timed : Timed row) (utc : now.offset = some 0) :
    ComparedAsTimes now row where
  reserving := by rw [reservable, timed.2.ge utc]
  resuming _ _ := by rw [resumable, timed.2.ge utc]
  reconciling := by rw [lapsed, any_lease fun text held => (timed.1 text held).le utc]
  renewing _ _ := by rw [renewable, any_lease fun text held => (timed.1 text held).gt utc]

theorem forall_update {R : Type} {P : R → Prop} {selects : R → Bool} {set : R → R} {rows : List R}
    (kept : ∀ row, P row → P (set row)) (all : ∀ row ∈ rows, P row) :
    ∀ row ∈ update selects set rows, P row := by
  intro row listed
  obtain ⟨before, was, rfl⟩ := List.mem_map.mp listed
  split
  · exact kept before (all before was)
  · exact all before was

variable {rows rows' : List RecurringOccurrence}

/-- A lease is the only column of the two that a call changes, and is made of a time of the call. -/
theorem timed_step {e : Event} (step : Step rows e rows') (utc : ∀ t ∈ times e.call.2, t.offset = some 0)
    (timed : ∀ row ∈ rows, Timed row) : ∀ row ∈ rows', Timed row := by
  rcases serves_cases step with ⟨answer, performed, -⟩ | ⟨-, rfl⟩
  swap
  · exact timed
  obtain ⟨⟨store, call⟩, _⟩ := e
  have leased {lease : String} (row : RecurringOccurrence) (written : Written lease) (was : Timed row) :
      (∀ text ∈ some lease, Written text) ∧ Written row.resumeDeadline :=
    ⟨fun text same => Option.some.inj same ▸ written, was.2⟩
  have released (row : RecurringOccurrence) (was : Timed row) :
      (∀ text ∈ (none : Option String), Written text) ∧ Written row.resumeDeadline :=
    ⟨fun _ held => absurd held (Option.not_mem_none _), was.2⟩
  cases call with
  | register r =>
    obtain ⟨⟨⟩, registered, -⟩ := of_answering_ok performed
    rcases register_ok registered with rfl | ⟨-, -, rfl⟩
    · exact timed
    · refine List.forall_mem_append.mpr ⟨timed, List.forall_mem_singleton.mpr ⟨?_, ?_⟩⟩
      · exact fun _ held => absurd held (Option.not_mem_none _)
      · exact ⟨r.resumeDeadline, utc _ List.mem_cons_self, rfl⟩
  | reserve artifact startedAt token =>
    obtain ⟨fence, reserved, -⟩ := of_answering_ok performed
    obtain ⟨lease, back, made, -, rfl, -, -⟩ := reserve_ok reserved
    exact forall_update (fun row => leased row (written_lease (utc _ List.mem_cons_self) made)) timed
  | renew artifact generation token now =>
    obtain ⟨held, renewed, -⟩ := of_answering_ok performed
    obtain ⟨lease, made, -, rfl⟩ := renew_ok renewed
    exact forall_update (fun row => leased row (written_lease (utc _ List.mem_cons_self) made)) timed
  | block artifact generation token requestFingerprint =>
    obtain ⟨⟨⟩, blocked, -⟩ := of_answering_ok performed
    obtain ⟨-, rfl⟩ := transition_ok blocked
    exact forall_update released timed
  | resume artifact priorGeneration requestFingerprint startedAt token =>
    obtain ⟨fence, resumed, -⟩ := of_answering_ok performed
    obtain ⟨lease, made, -, rfl, -⟩ := resume_ok resumed
    exact forall_update (fun row => leased row (written_lease (utc _ List.mem_cons_self) made)) timed
  | finalize artifact generation token status finishedAt =>
    obtain ⟨⟨⟩, finalized, -⟩ := of_answering_ok performed
    obtain ⟨-, rfl⟩ := transition_ok (finalize_ok finalized).2
    exact forall_update released timed
  | markRecoverable artifact =>
    obtain ⟨⟨⟩, marked, -⟩ := of_answering_ok performed
    obtain ⟨-, rfl⟩ := transition_ok marked
    exact forall_update (fun _ was => was) timed
  | reconcile artifact status now =>
    obtain ⟨⟨⟩, reconciled, -⟩ := of_answering_ok performed
    obtain ⟨-, -, rfl⟩ := reconcile_ok reconciled
    exact forall_update released timed
  | cancel artifact now =>
    obtain ⟨status, cancelled, -⟩ := of_answering_ok performed
    obtain ⟨_, _, -, -, -, rfl⟩ := cancel_ok cancelled
    exact forall_update released timed
  | validate artifact generation token now =>
    obtain ⟨⟨⟩, validated, -⟩ := of_answering_ok performed
    rw [(validate_ok validated).1]
    exact timed

theorem timed_reached {events : List Event} (run : Run Step [] events rows)
    (utc : ∀ e ∈ events, ∀ t ∈ times e.call.2, t.offset = some 0) : ∀ row ∈ rows, Timed row :=
  run.preserves (fun _ e listed _ timed step => timed_step step (utc e listed) timed)
    fun _ listed => absurd listed List.not_mem_nil

/-! ## Scheduled runs -/

/-- The times of a call that a lease is made of. -/
def runTimes : RunCall → List Datetime
  | .claim _ _ startedAt _ => [startedAt]
  | .renew _ _ _ now => [now]
  | _ => []

/-- The lease is the text of a time in UTC. -/
def RunTimed (row : RecurringRun) : Prop := ∀ lease ∈ row.leaseExpiresAt, Written lease

/-- `expire_claims` with the comparison as one of times. -/
theorem RunTimed.compared {row : RecurringRun} (timed : RunTimed row) (utc : now.offset = some 0) :
    elapsed now row = (row.status == .running && row.leaseExpiresAt.any (shows (datetimeLe · now))) := by
  rw [elapsed, any_lease fun text held => (timed text held).le utc]

theorem runTimed_some {row : RecurringRun} {lease : String} (held : row.leaseExpiresAt = some lease)
    (written : Written lease) : RunTimed row := by
  intro text same
  rw [held] at same
  exact Option.some.inj same ▸ written

theorem runTimed_none {row : RecurringRun} (free : row.leaseExpiresAt = none) : RunTimed row := by
  intro text same
  rw [free] at same
  exact absurd same (Option.not_mem_none _)

theorem runTimed_step {rows rows' : List RecurringRun} {e : RunEvent} (step : RunStep rows e rows')
    (utc : ∀ t ∈ runTimes e.call.2, t.offset = some 0) (timed : ∀ row ∈ rows, RunTimed row) :
    ∀ row ∈ rows', RunTimed row := by
  rcases serves_cases step with ⟨answer, performed, -⟩ | ⟨-, rfl⟩
  swap
  · exact timed
  obtain ⟨⟨store, call⟩, _⟩ := e
  have finished {name : String} {scheduledAt finishedAt : Datetime} {token : Uuid}
      {result : RecurringRunResult}
      (completed : complete name scheduledAt token finishedAt result rows = .ok ((), rows')) :
      ∀ row ∈ rows', RunTimed row := by
    obtain ⟨payload, -, rfl⟩ := complete_ok completed
    exact forall_update (fun _ _ => runTimed_none rfl) timed
  cases call with
  | claim name scheduledAt startedAt token =>
    obtain ⟨answer, claimed, -⟩ := of_answering_ok performed
    obtain ⟨lease, made, ⟨-, -, rfl⟩ | ⟨-, -, rfl⟩⟩ := claim_ok claimed
    · have written := written_lease (utc _ List.mem_cons_self) made
      exact List.forall_mem_append.mpr ⟨timed, List.forall_mem_singleton.mpr (runTimed_some rfl written)⟩
    · have written := written_lease (utc _ List.mem_cons_self) made
      exact forall_update (fun _ _ => runTimed_some rfl written) timed
  | renew name scheduledAt token now =>
    obtain ⟨answer, renewed, -⟩ := of_answering_ok performed
    obtain ⟨lease, made, renewed⟩ := of_bind_ok renewed
    cases renewed
    have written := written_lease (utc _ List.mem_cons_self) made
    exact forall_update (fun _ _ => runTimed_some rfl written) timed
  | expireClaims now =>
    cases performed
    exact forall_update (fun _ was => was) timed
  | markRecoverable name scheduledAt =>
    cases performed
    exact forall_update (fun _ was => was) timed
  | complete name scheduledAt token finishedAt result =>
    obtain ⟨⟨⟩, completed, -⟩ := of_answering_ok performed
    exact finished completed
  | fail name scheduledAt token finishedAt errorType =>
    obtain ⟨⟨⟩, failed, -⟩ := of_answering_ok performed
    exact finished failed

theorem runTimed_reached {rows : List RecurringRun} {events : List RunEvent}
    (run : Run RunStep [] events rows)
    (utc : ∀ e ∈ events, ∀ t ∈ runTimes e.call.2, t.offset = some 0) : ∀ row ∈ rows, RunTimed row :=
  run.preserves (fun _ e listed _ timed step => runTimed_step step (utc e listed) timed)
    fun _ listed => absurd listed List.not_mem_nil

/-! ## The result -/

/-- The texts of times in UTC compare, byte by byte, as the times do, whether their fractions are written
or not. In every state that calls in UTC reach, each comparison of a lease or a deadline with the text of a
time in UTC decides as the comparison of the times. -/
theorem stored_instants_compare :
    (∀ a b : Datetime, a.offset = some 0 → b.offset = some 0 →
      (utf8 a.isoformat < utf8 b.isoformat ↔ datetimeLt a b = true) ∧
      (textLe a.isoformat b.isoformat = true ↔ ¬utf8 b.isoformat < utf8 a.isoformat)) ∧
    (∀ events rows, Run Step [] events rows →
      (∀ e ∈ events, ∀ t ∈ times e.call.2, t.offset = some 0) →
      ∀ row ∈ rows, ∀ now, now.offset = some 0 → ComparedAsTimes now row) ∧
    ∀ events rows, Run RunStep [] events rows →
      (∀ e ∈ events, ∀ t ∈ runTimes e.call.2, t.offset = some 0) →
      ∀ row ∈ rows, ∀ now, now.offset = some 0 → elapsed now row =
        (row.status == .running && row.leaseExpiresAt.any (shows (datetimeLe · now))) := by
  refine ⟨fun a b ha hb => ⟨?_, ?_⟩, ?_, ?_⟩
  · rw [Datetime.utf8_isoformat_lt_iff ha hb, datetimeLt_utc ha hb, decide_eq_true_iff]
  · rw [Datetime.utf8_isoformat_lt_iff hb ha, textLe_isoformat ha hb, datetimeLe_utc ha hb,
      decide_eq_true_iff, Int.not_lt]
  · intro events rows run utc row listed now current
    exact (timed_reached run utc row listed).compared current
  · intro events rows run utc row listed now current
    exact (runTimed_reached run utc row listed).compared current

/-! ### A lease with a fraction and a time without -/

namespace Samples

/-- The lease of an attempt that began half a second past nine. -/
def start : Datetime := ⟨2026, 3, 2, 9, 0, 0, 500000, some 0, by decide⟩
def expiry : Datetime := ⟨2026, 3, 2, 9, 5, 0, 500000, some 0, by decide⟩
def instant : Datetime := ⟨2026, 3, 2, 9, 5, 0, 0, some 0, by decide⟩

def store : RecurringStateStore := Recurring.Samples.store
def artifact : Registration := ⟨"weekly", start, "a", "b", "c", "d", expiry⟩

def calls : List (RecurringStateStore × Fences.Call) :=
  [(store, .register artifact), (store, .reserve "a" start Recurring.Samples.first)]

def runCalls : List (RecurringStateStore × RunCall) :=
  [(store, .claim "weekly" start start Recurring.Samples.first)]

def held : RecurringOccurrence := artifact.row.reclaim expiry.isoformat Recurring.Samples.first

def claimed : RecurringRun :=
  firstAttempt ("weekly", start.isoformat) start.isoformat expiry.isoformat Recurring.Samples.first

/-- The shorter text is the smaller one, and neither lease is over. -/
theorem half_a_second_left : utf8 instant.isoformat < utf8 expiry.isoformat ∧ ComparedAsTimes instant held ∧
    elapsed instant claimed =
      (claimed.status == .running && claimed.leaseExpiresAt.any (shows (datetimeLe · instant))) := by
  have order : datetimeLt instant expiry = true := by decide +kernel
  have bound : held ∈ (play Fences.perform calls []).2 := by decide +kernel
  have listed : claimed ∈ (play performRun runCalls []).2 := by decide +kernel
  obtain ⟨texts, occurrences, runs⟩ := stored_instants_compare
  exact ⟨(texts instant expiry rfl rfl).1.mpr order,
    occurrences _ _ (run_play calls []) (by decide +kernel) held bound instant rfl,
    runs _ _ (run_play runCalls []) (by decide +kernel) claimed listed instant rfl⟩

end Samples

end MasterAgent.Recurring.Instants
