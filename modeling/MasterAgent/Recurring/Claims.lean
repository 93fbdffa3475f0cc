import MasterAgent.Recurring.Store

/-!
# Claims on scheduled runs

Any number of runners share the table `recurring_runs`. A run of the system is a list of calls with
their answers, in the order of their transactions; the clocks of the runners and the tokens they
present are arbitrary. What a call means for the row of one occurrence is said once
(`step_moved`), and every guarantee follows from it by induction on the run.

Results:

1. `tokens_invariant`: the row of an occurrence counts the tokens that were returned for it, and
   carries the last of them exactly while it is running;
2. `settled_stays`, `expired_stays`: rows that no call changes;
3. `scheduled_runs_claimed`: the guarantees, in every state reached.
-/

namespace MasterAgent.Recurring
open Base Table RecurringStateStore

/-! ## Calls -/

/-- A call of a store. The token of `claim` is the one that it draws. -/
inductive RunCall where
  | claim (name : String) (scheduledAt startedAt : Datetime) (token : Uuid)
  | renew (name : String) (scheduledAt : Datetime) (token : Uuid) (now : Datetime)
  | expireClaims (now : Datetime)
  | markRecoverable (name : String) (scheduledAt : Datetime)
  | complete (name : String) (scheduledAt : Datetime) (token : Uuid) (finishedAt : Datetime)
      (result : RecurringRunResult)
  | fail (name : String) (scheduledAt : Datetime) (token : Uuid) (finishedAt : Datetime)
      (errorType : String)

inductive RunAnswer where
  | token (token : Option Uuid)
  | renewed (held : Bool)
  | expired (count : Nat)
  | marked (marked : Bool)
  | recorded
deriving DecidableEq

/-- The transaction of a call of a store. -/
def performRun : RecurringStateStore × RunCall → OnRows RecurringRun RunAnswer
  | (store, .claim name scheduledAt startedAt token) =>
      (store.claim name scheduledAt startedAt token).answering .token
  | (store, .renew name scheduledAt token now) =>
      (store.renew name scheduledAt token now).answering .renewed
  | (_, .expireClaims now) => (expireClaims now).answering .expired
  | (_, .markRecoverable name scheduledAt) => (markRecoverable name scheduledAt).answering .marked
  | (_, .complete name scheduledAt token finishedAt result) =>
      (complete name scheduledAt token finishedAt result).answering fun _ => .recorded
  | (_, .fail name scheduledAt token finishedAt errorType) =>
      (fail name scheduledAt token finishedAt errorType).answering fun _ => .recorded

/-- A call of one of the stores, with its answer. -/
abbrev RunEvent := Served (RecurringStateStore × RunCall) Exn RunAnswer

abbrev RunStep : List RecurringRun → RunEvent → List RecurringRun → Prop := Serves performRun

/-! ## What a call means for one occurrence -/

/-- The token that a claim on the occurrence returned. -/
def RunEvent.issues (k : RunKey) (e : RunEvent) : Option Uuid :=
  match e.call.2, e.answer with
  | .claim name scheduledAt _ _, .ok (.token token) =>
    if (name, scheduledAt.isoformat) = k then token else none
  | _, _ => none

/-- The token that `complete` or `fail` presents for the occurrence. -/
def RunEvent.presents (k : RunKey) (e : RunEvent) : Option Uuid :=
  match e.call.2 with
  | .complete name scheduledAt token _ _ | .fail name scheduledAt token _ _ =>
    if (name, scheduledAt.isoformat) = k then some token else none
  | _ => none

/-- The token that a result was recorded for. -/
def RunEvent.records (k : RunKey) (e : RunEvent) : Option Uuid :=
  match e.answer with
  | .ok _ => e.presents k
  | .error _ => none

/-- `mark_recoverable` of the occurrence took effect. -/
def RunEvent.recovers (k : RunKey) (e : RunEvent) : Bool :=
  match e.call.2, e.answer with
  | .markRecoverable name scheduledAt, .ok (.marked true) => (name, scheduledAt.isoformat) == k
  | _, _ => false

/-- The row is owned by the attempt with this token. -/
def Owned (token : Uuid) (row : RecurringRun) : Prop :=
  row.status = .running ∧ row.claimToken = some token.str

/-- What an event can do to the row of an occurrence. -/
inductive Moved (k : RunKey) (e : RunEvent) : Option RecurringRun → Option RecurringRun → Prop
  | stays (row : Option RecurringRun) : e.issues k = none → e.records k = none → Moved k e row row
  | first (token : Uuid) (startedAt lease : String) : e.issues k = some token → e.records k = none →
      Moved k e none (some (firstAttempt k startedAt lease token))
  | next (row : RecurringRun) (token : Uuid) (startedAt lease : String) :
      e.issues k = some token → e.records k = none → row.status = .recoverable →
      Moved k e (some row) (some (nextAttempt startedAt lease token row))
  | renewed (row : RecurringRun) (token : Uuid) (lease : String) :
      e.issues k = none → e.records k = none → Owned token row →
      Moved k e (some row) (some { row with leaseExpiresAt := some lease })
  | expired (row : RecurringRun) : e.issues k = none → e.records k = none → row.status = .running →
      Moved k e (some row) (some row.expire)
  | recovered (row : RecurringRun) : e.issues k = none → e.records k = none → e.recovers k = true →
      row.status = .expired → Moved k e (some row) (some row.recover)
  | recorded (row : RecurringRun) (token : Uuid) (finishedAt payload : String) (successful : Bool) :
      e.issues k = none → e.records k = some token → Owned token row →
      Moved k e (some row) (some (row.finish finishedAt payload successful))

/-- The condition of `runWhere` asks for the key. -/
theorem runWhere_key {k : RunKey} {condition : RecurringRun → Bool} (row : RecurringRun)
    (selected : runWhere k condition row = true) : row.key = k :=
  beq_iff_eq.mp (Bool.and_eq_true_iff.mp selected).1

theorem runWhere_holds {k : RunKey} {condition : RecurringRun → Bool} {row : RecurringRun}
    (selected : runWhere k condition row = true) : condition row = true :=
  (Bool.and_eq_true_iff.mp selected).2

theorem owned_of_holds {token : Uuid} {row : RecurringRun} (held : holds token row = true) :
    Owned token row := by
  obtain ⟨running, same⟩ := Bool.and_eq_true_iff.mp held
  exact ⟨beq_iff_eq.mp running, beq_iff_eq.mp same⟩

variable {rows rows' : List RecurringRun} {k : RunKey} {e : RunEvent}

/-- A change of the row of one occurrence, which leaves the others. -/
theorem moved_where (unique : Unique RecurringRun.key rows) {key : RunKey}
    {condition : RecurringRun → Bool} {set : RecurringRun → RecurringRun}
    (keeps : ∀ row, (set row).key = row.key)
    (here : key = k → ∀ row, find RecurringRun.key k rows = some row → condition row = true →
      rows.countP (runWhere key condition) = 1 → Moved k e (some row) (some (set row)))
    (stays : (key = k → rows.countP (runWhere key condition) = 0) → e.issues k = none ∧
      e.records k = none) :
    Moved k e (find RecurringRun.key k rows)
      (find RecurringRun.key k (update (runWhere key condition) set rows)) := by
  by_cases same : key = k
  · subst same
    have asks : ∀ row, runWhere key condition row = true → row.key = key := runWhere_key
    rcases update_cases unique asks fun row _ => keeps row with
      ⟨one, row, found, selected, changed⟩ | ⟨zero, unchanged⟩
    · rw [changed, found]
      exact here rfl row found (runWhere_holds selected) one
    · rw [unchanged]
      obtain ⟨issues, records⟩ := stays fun _ => zero
      exact .stays _ issues records
  · rw [find_update_other runWhere_key (fun row _ => keeps row) (Ne.symm same)]
    obtain ⟨issues, records⟩ := stays fun is => absurd is same
    exact .stays _ issues records

@[simp]
theorem firstAttempt_key {startedAt lease : String} {token : Uuid} :
    (firstAttempt k startedAt lease token).key = k := rfl

/-- What a claim does when it does not raise. -/
theorem claim_ok {store : RecurringStateStore} {name : String} {scheduledAt startedAt : Datetime}
    {token : Uuid} {answer : Option Uuid}
    (claimed : store.claim name scheduledAt startedAt token rows = .ok (answer, rows')) :
    ∃ lease, store.leaseFrom startedAt = .ok lease ∧ let key := (name, scheduledAt.isoformat)
      let selects := runWhere key (·.status == .recoverable)
      (find RecurringRun.key key rows = none ∧ answer = some token ∧
        rows' = rows ++ [firstAttempt key startedAt.isoformat lease token]) ∨
      ((find RecurringRun.key key rows).isSome ∧
        answer = (if rows.countP selects = 1 then some token else none) ∧
        rows' = update selects (nextAttempt startedAt.isoformat lease token) rows) := by
  obtain ⟨lease, leased, claimed⟩ := of_bind_ok claimed
  refine ⟨lease, leased, ?_⟩
  dsimp only at claimed ⊢
  split at claimed
  · next absent =>
    cases claimed
    exact .inl ⟨Option.isNone_iff_eq_none.mp absent, rfl, rfl⟩
  · next present =>
    cases claimed
    exact .inr ⟨Option.isSome_iff_ne_none.mpr fun none => present (none ▸ rfl), rfl, rfl⟩

/-- What `complete` does when it does not raise. -/
theorem complete_ok {name : String} {scheduledAt finishedAt : Datetime} {token : Uuid}
    {result : RecurringRunResult}
    (completed : complete name scheduledAt token finishedAt result rows = .ok ((), rows')) :
    ∃ payload, rows.countP (runWhere (name, scheduledAt.isoformat) (holds token)) = 1 ∧
      rows' = update (runWhere (name, scheduledAt.isoformat) (holds token))
        (RecurringRun.finish finishedAt.isoformat payload result.successful) rows := by
  obtain ⟨payload, -, completed⟩ := of_bind_ok completed
  dsimp only at completed
  split at completed
  · next one =>
    cases completed
    exact ⟨payload, one, rfl⟩
  · cases completed

/-- The rows of the attempt that a result is recorded for. -/
theorem complete_moved (unique : Unique RecurringRun.key rows) {name : String}
    {scheduledAt finishedAt : Datetime} {token : Uuid} {result : RecurringRunResult}
    (issues : ∀ k, e.issues k = none)
    (records : ∀ k, e.records k = if (name, scheduledAt.isoformat) = k then some token else none)
    (completed : complete name scheduledAt token finishedAt result rows = .ok ((), rows')) :
    Moved k e (find RecurringRun.key k rows) (find RecurringRun.key k rows') := by
  obtain ⟨payload, one, rfl⟩ := complete_ok completed
  refine moved_where unique (fun _ => rfl) ?_ ?_
  · intro same row _ held _
    exact .recorded row token _ _ _ (issues k) ((records k).trans (if_pos same))
      (owned_of_holds held)
  · intro zero
    refine ⟨issues k, (records k).trans (if_neg fun same => ?_)⟩
    rw [zero same] at one
    cases one

/-- What a step does to the row of an occurrence. -/
theorem step_moved (unique : Unique RecurringRun.key rows) (step : RunStep rows e rows')
    (k : RunKey) : Moved k e (find RecurringRun.key k rows) (find RecurringRun.key k rows') := by
  rcases serves_cases step with ⟨answer, performed, answered⟩ | ⟨⟨raised, answered⟩, rfl⟩
  swap
  · refine .stays _ ?_ ?_
    · unfold RunEvent.issues
      rw [answered]
      split <;> first | rfl | contradiction
    · unfold RunEvent.records
      rw [answered]
  obtain ⟨⟨store, call⟩, _⟩ := e
  dsimp only at performed answered
  subst answered
  cases call with
  | claim name scheduledAt startedAt token =>
    obtain ⟨answer, claimed, rfl⟩ := of_answering_ok performed
    obtain ⟨lease, -, ⟨absent, rfl, rfl⟩ | ⟨present, rfl, rfl⟩⟩ := claim_ok claimed
    · by_cases same : (name, scheduledAt.isoformat) = k
      · subst same
        rw [find_concat, absent, Option.none_or, firstAttempt_key, if_pos rfl]
        exact .first token _ lease (if_pos rfl) rfl
      · rw [find_concat, firstAttempt_key, if_neg same, Option.or_none]
        exact .stays _ (if_neg same) rfl
    · refine moved_where unique (fun _ => rfl) ?_ ?_
      · intro same row _ recoverable one
        refine .next row token _ lease ?_ rfl (beq_iff_eq.mp recoverable)
        show (if _ = k then _ else _) = _
        rw [if_pos same, if_pos one]
      · intro zero
        refine ⟨?_, rfl⟩
        show (if _ = k then _ else _) = _
        split
        · next same => rw [zero same]; rfl
        · rfl
  | renew name scheduledAt token now =>
    obtain ⟨answer, renewed, rfl⟩ := of_answering_ok performed
    obtain ⟨lease, -, renewed⟩ := of_bind_ok renewed
    cases renewed
    refine moved_where unique (fun _ => rfl) ?_ fun _ => ⟨rfl, rfl⟩
    intro _ row _ held _
    exact .renewed row token lease rfl rfl (owned_of_holds held)
  | expireClaims now =>
    cases performed
    have keeps : ∀ row, elapsed now row = true → row.expire.key = row.key := fun _ _ => rfl
    rw [id, find_update keeps]
    cases found : find RecurringRun.key k rows with
    | none => exact .stays _ rfl rfl
    | some row =>
      rw [Option.map_some]
      split
      · next past => exact .expired row rfl rfl (beq_iff_eq.mp (Bool.and_eq_true_iff.mp past).1)
      · exact .stays _ rfl rfl
  | markRecoverable name scheduledAt =>
    cases performed
    refine moved_where unique (fun _ => rfl) ?_ fun _ => ⟨rfl, rfl⟩
    intro same row _ expired one
    refine .recovered row rfl rfl ?_ (beq_iff_eq.mp expired)
    rw [decide_eq_true one]
    exact beq_iff_eq.mpr same
  | complete name scheduledAt token finishedAt result =>
    obtain ⟨answer, completed, rfl⟩ := of_answering_ok performed
    exact complete_moved unique (fun _ => rfl) (fun _ => rfl) completed
  | fail name scheduledAt token finishedAt errorType =>
    obtain ⟨answer, failed, rfl⟩ := of_answering_ok performed
    exact complete_moved unique (fun _ => rfl) (fun _ => rfl) failed

/-! ## Runs -/

/-- No call breaks the index. -/
theorem step_unique (unique : Unique RecurringRun.key rows) (step : RunStep rows e rows') :
    Unique RecurringRun.key rows' := by
  rcases serves_cases step with ⟨answer, performed, -⟩ | ⟨-, rfl⟩
  swap
  · exact unique
  obtain ⟨⟨store, call⟩, _⟩ := e
  cases call with
  | claim name scheduledAt startedAt token =>
    obtain ⟨answer, claimed, -⟩ := of_answering_ok performed
    obtain ⟨lease, -, ⟨absent, -, rfl⟩ | ⟨-, -, rfl⟩⟩ := claim_ok claimed
    · exact unique_concat unique absent
    · exact unique_update (fun _ _ => rfl) unique
  | renew name scheduledAt token now =>
    obtain ⟨answer, renewed, -⟩ := of_answering_ok performed
    obtain ⟨lease, -, renewed⟩ := of_bind_ok renewed
    cases renewed
    exact unique_update (fun _ _ => rfl) unique
  | expireClaims now =>
    cases performed
    exact unique_update (fun _ _ => rfl) unique
  | markRecoverable name scheduledAt =>
    cases performed
    exact unique_update (fun _ _ => rfl) unique
  | complete name scheduledAt token finishedAt result =>
    obtain ⟨answer, completed, -⟩ := of_answering_ok performed
    obtain ⟨payload, -, rfl⟩ := complete_ok completed
    exact unique_update (fun _ _ => rfl) unique
  | fail name scheduledAt token finishedAt errorType =>
    obtain ⟨answer, failed, -⟩ := of_answering_ok performed
    obtain ⟨payload, -, rfl⟩ := complete_ok failed
    exact unique_update (fun _ _ => rfl) unique

theorem run_unique {events : List RunEvent} (run : Run RunStep rows events rows')
    (unique : Unique RecurringRun.key rows) : Unique RecurringRun.key rows' :=
  run.invariant (fun _ _ _ unique step => step_unique unique step) unique

/-- The tokens that claims on the occurrence returned, in their order. -/
def tokens (k : RunKey) (events : List RunEvent) : List Uuid := events.filterMap (·.issues k)

/-- The row counts the tokens that were returned, and carries the last of them exactly while it is
running. -/
def Counted (k : RunKey) (events : List RunEvent) (row : Option RecurringRun) : Prop :=
  match row with
  | none => tokens k events = []
  | some row => row.attemptCount = (tokens k events).length ∧
      (row.status = .running → ∃ token, (tokens k events).getLast? = some token ∧
        row.claimToken = some token.str) ∧
      (row.status ≠ .running → row.claimToken = none)

theorem tokens_concat {events : List RunEvent} :
    tokens k (events ++ [e]) = tokens k events ++ (e.issues k).toList := by
  rw [tokens, List.filterMap_append]
  cases issued : e.issues k <;> simp [tokens, issued]

/-- One event keeps the count. -/
theorem counted_moved {events : List RunEvent} {before after : Option RecurringRun}
    (counted : Counted k events before) (moved : Moved k e before after) :
    Counted k (events ++ [e]) after := by
  have kept : e.issues k = none → tokens k (events ++ [e]) = tokens k events := by
    intro none
    rw [tokens_concat, none, Option.toList_none, List.append_nil]
  have grown : ∀ {token : Uuid}, e.issues k = some token →
      tokens k (events ++ [e]) = tokens k events ++ [token] := by
    intro token issued
    rw [tokens_concat, issued, Option.toList_some]
  cases moved with
  | stays row issues records =>
    unfold Counted at counted ⊢
    rw [kept issues]
    exact counted
  | first token startedAt lease issues records =>
    have none : tokens k events = [] := counted
    refine ⟨?_, fun _ => ⟨token, ?_, rfl⟩, fun idle => absurd rfl idle⟩
    · rw [grown issues, none]
      rfl
    · rw [grown issues, List.getLast?_concat]
  | next row token startedAt lease issues records recoverable =>
    refine ⟨?_, fun _ => ⟨token, ?_, rfl⟩, fun idle => absurd rfl idle⟩
    · rw [grown issues, List.length_append, ← counted.1]
      rfl
    · rw [grown issues, List.getLast?_concat]
  | renewed row token lease issues records owned =>
    show _ ∧ _ ∧ _
    rw [kept issues]
    exact counted
  | expired row issues records running =>
    refine ⟨?_, fun running => (nomatch running), fun _ => rfl⟩
    rw [kept issues]
    exact counted.1
  | recovered row issues records recovers expired =>
    refine ⟨?_, fun running => (nomatch running), fun _ => ?_⟩
    · rw [kept issues]
      exact counted.1
    · exact counted.2.2 (by rw [expired]; decide)
  | recorded row token finishedAt payload successful issues records owned =>
    refine ⟨?_, fun running => ?_, fun _ => rfl⟩
    · rw [kept issues]
      exact counted.1
    · cases successful <;> cases running

/-- In every state reached, the rows count the tokens. -/
theorem tokens_invariant {events : List RunEvent} (run : Run RunStep [] events rows) (k : RunKey) :
    Unique RecurringRun.key rows ∧ Counted k events (find RecurringRun.key k rows) := by
  refine Run.history_nil (I := fun events rows => Unique RecurringRun.key rows ∧
    Counted k events (find RecurringRun.key k rows)) ?_ run ?_
  · rintro events rows e rows' ⟨unique, counted⟩ step
    exact ⟨step_unique unique step, counted_moved counted (step_moved unique step k)⟩
  · exact ⟨List.nodup_nil, rfl⟩

/-- A result was recorded. -/
def RecurringRun.Settled (row : RecurringRun) : Prop :=
  row.status = .succeeded ∨ row.status = .failed

/-- A row that is neither running nor expired nor recoverable is left alone. -/
theorem settled_moved {row : RecurringRun} {after : Option RecurringRun} (settled : row.Settled)
    (moved : Moved k e (some row) after) :
    after = some row ∧ e.issues k = none ∧ e.records k = none := by
  have status : ∀ other, other ≠ .succeeded → other ≠ .failed → row.status ≠ other := by
    rintro other no no' rfl
    rcases settled with is | is
    · exact no is
    · exact no' is
  cases moved with
  | stays row issues records => exact ⟨rfl, issues, records⟩
  | next row token startedAt lease issues records recoverable =>
    exact absurd recoverable (status _ (by decide) (by decide))
  | renewed row token lease issues records owned =>
    exact absurd owned.1 (status _ (by decide) (by decide))
  | expired row issues records running =>
    exact absurd running (status _ (by decide) (by decide))
  | recovered row issues records recovers expired =>
    exact absurd expired (status _ (by decide) (by decide))
  | recorded row token finishedAt payload successful issues records owned =>
    exact absurd owned.1 (status _ (by decide) (by decide))

/-- A row with a result never changes again, and no further result is recorded in it. -/
theorem settled_stays {events : List RunEvent} (run : Run RunStep rows events rows')
    (unique : Unique RecurringRun.key rows) {row : RecurringRun}
    (found : find RecurringRun.key k rows = some row) (settled : row.Settled) :
    find RecurringRun.key k rows' = some row ∧ ∀ e ∈ events, e.records k = none := by
  induction run with
  | nil rows => exact ⟨found, fun _ listed => nomatch listed⟩
  | cons step _ ih =>
    have moved := step_moved unique step k
    rw [found] at moved
    obtain ⟨same, -, records⟩ := settled_moved settled moved
    obtain ⟨stays, none⟩ := ih (step_unique unique step) same
    exact ⟨stays, List.forall_mem_cons.mpr ⟨records, none⟩⟩

/-- An expired row changes only when it is marked recoverable. -/
theorem expired_moved {row : RecurringRun} {after : Option RecurringRun}
    (expired : row.status = .expired) (unmarked : e.recovers k = false)
    (moved : Moved k e (some row) after) : after = some row ∧ e.issues k = none := by
  have status : ∀ other, other ≠ .expired → row.status ≠ other := by
    rintro other no rfl
    exact no expired
  cases moved with
  | stays row issues records => exact ⟨rfl, issues⟩
  | next row token startedAt lease issues records recoverable =>
    exact absurd recoverable (status _ (by decide))
  | renewed row token lease issues records owned => exact absurd owned.1 (status _ (by decide))
  | expired row issues records running => exact absurd running (status _ (by decide))
  | recovered row issues records recovers _ =>
    rw [unmarked] at recovers
    cases recovers
  | recorded row token finishedAt payload successful issues records owned =>
    exact absurd owned.1 (status _ (by decide))

/-- Until it is marked recoverable, an expired row is not claimed. -/
theorem expired_stays {events : List RunEvent} (run : Run RunStep rows events rows')
    (unique : Unique RecurringRun.key rows) {row : RecurringRun}
    (found : find RecurringRun.key k rows = some row) (expired : row.status = .expired)
    (unmarked : ∀ e ∈ events, e.recovers k = false) :
    find RecurringRun.key k rows' = some row ∧ tokens k events = [] := by
  induction run with
  | nil rows => exact ⟨found, rfl⟩
  | cons step _ ih =>
    have moved := step_moved unique step k
    rw [found] at moved
    obtain ⟨here, later⟩ := List.forall_mem_cons.mp unmarked
    obtain ⟨same, issues⟩ := expired_moved expired here moved
    obtain ⟨stays, none⟩ := ih (step_unique unique step) same later
    exact ⟨stays, (List.filterMap_cons_none issues).trans none⟩

/-! ## Guarantees -/

/-- A result is recorded only for the attempt that owns the row. -/
theorem records_moved {before after : Option RecurringRun} {token : Uuid}
    (records : e.records k = some token) (moved : Moved k e before after) :
    ∃ row finishedAt payload successful, before = some row ∧ Owned token row ∧
      after = some (row.finish finishedAt payload successful) := by
  cases moved with
  | recorded row other finishedAt payload successful issues isRecord owned =>
    rw [records] at isRecord
    cases isRecord
    exact ⟨row, finishedAt, payload, successful, rfl, owned, rfl⟩
  | stays _ _ none => rw [records] at none; cases none
  | first _ _ _ _ none => rw [records] at none; cases none
  | next _ _ _ _ _ none => rw [records] at none; cases none
  | renewed _ _ _ _ none => rw [records] at none; cases none
  | expired _ _ none => rw [records] at none; cases none
  | recovered _ _ none => rw [records] at none; cases none

/-- A claim returns a token only for an occurrence without a row, or with one to recover. -/
theorem issues_moved {before after : Option RecurringRun} {token : Uuid}
    (issues : e.issues k = some token) (moved : Moved k e before after) :
    ∀ row, before = some row → row.status = .recoverable := by
  rintro row rfl
  cases moved with
  | next row _ _ _ _ _ recoverable => exact recoverable
  | stays _ none => rw [issues] at none; cases none
  | renewed _ _ _ none => rw [issues] at none; cases none
  | expired _ none => rw [issues] at none; cases none
  | recovered _ none => rw [issues] at none; cases none
  | recorded _ _ _ _ _ none => rw [issues] at none; cases none

theorem finish_settled {row : RecurringRun} {finishedAt payload : String} {successful : Bool} :
    (row.finish finishedAt payload successful).Settled := by
  cases successful
  · exact .inr rfl
  · exact .inl rfl

/-- Of all results that are presented for an occurrence, at most one is recorded. -/
theorem recorded_once {events : List RunEvent} (run : Run RunStep rows events rows')
    (unique : Unique RecurringRun.key rows) :
    (events.filterMap (·.records k)).length ≤ 1 := by
  induction run with
  | nil rows => exact Nat.zero_le 1
  | @cons rows next rows' e events step run ih =>
    cases records : e.records k with
    | none =>
      rw [List.filterMap_cons_none records]
      exact ih (step_unique unique step)
    | some token =>
      obtain ⟨row, _, _, _, -, -, after⟩ := records_moved records (step_moved unique step k)
      have none := (settled_stays run (step_unique unique step) after finish_settled).2
      rw [List.filterMap_cons_some records, List.filterMap_eq_nil_iff.mpr none]
      exact Nat.le_refl 1

/-- What holds of the claims on scheduled runs after a run of the system. -/
structure ClaimsHold (events : List RunEvent) (rows : List RecurringRun) : Prop where
  unique : Unique RecurringRun.key rows
  attempts : ∀ k, (find RecurringRun.key k rows).elim 0 (·.attemptCount) = (tokens k events).length
  /-- A token is returned only where no row existed or the row was recoverable. -/
  claimed : ∀ k e rows' token, RunStep rows e rows' → e.issues k = some token →
    ∀ row, find RecurringRun.key k rows = some row → row.status = .recoverable
  /-- A result is recorded only for the last returned token, in a running row. -/
  recorded : ∀ k e rows' token, RunStep rows e rows' → e.records k = some token →
    (tokens k events).getLast? = some token ∧
      ∃ row, find RecurringRun.key k rows = some row ∧ row.status = .running
  once : ∀ k, (events.filterMap (·.records k)).length ≤ 1
  /-- A stale attempt is refused and changes nothing. -/
  stale : ∀ k e rows' token, RunStep rows e rows' → e.presents k = some token →
    (tokens k events).getLast? ≠ some token → (∃ raised, e.answer = .error raised) ∧ rows' = rows
  settled : ∀ k row, find RecurringRun.key k rows = some row → row.Settled →
    ∀ later rows', Run RunStep rows later rows' → find RecurringRun.key k rows' = some row
  /-- An expired row is not claimed again before it was marked recoverable. -/
  expired : ∀ k row, find RecurringRun.key k rows = some row → row.status = .expired →
    ∀ later rows', Run RunStep rows later rows' → (∀ e ∈ later, e.recovers k = false) →
      find RecurringRun.key k rows' = some row ∧ tokens k later = []

/-- The guarantees hold after every run of any number of runners. -/
theorem scheduled_runs_claimed {events : List RunEvent} {rows : List RecurringRun}
    (run : Run RunStep [] events rows) : ClaimsHold events rows := by
  have unique : Unique RecurringRun.key rows := run_unique run List.nodup_nil
  have recorded : ∀ k e rows' token, RunStep rows e rows' → e.records k = some token →
      (tokens k events).getLast? = some token ∧
        ∃ row, find RecurringRun.key k rows = some row ∧ row.status = .running := by
    intro k e rows' token step records
    obtain ⟨row, _, _, _, found, ⟨running, held⟩, -⟩ :=
      records_moved records (step_moved unique step k)
    have counted := (tokens_invariant run k).2
    rw [found] at counted
    obtain ⟨last, isLast, same⟩ := counted.2.1 running
    rw [held] at same
    rw [isLast, Uuid.str_inj (Option.some.inj same)]
    exact ⟨rfl, row, found, running⟩
  refine ⟨unique, fun k => ?_, ?_, recorded, fun k => recorded_once run List.nodup_nil, ?_, ?_, ?_⟩
  · have counted := (tokens_invariant run k).2
    cases found : find RecurringRun.key k rows with
    | none =>
      rw [found] at counted
      exact (congrArg List.length counted).symm
    | some row =>
      rw [found] at counted
      exact counted.1
  · intro k e rows' token step issues row found
    exact issues_moved issues (step_moved unique step k) row found
  · intro k e rows' token step presents stale
    rcases serves_cases step with ⟨answer, -, answered⟩ | refused
    · refine absurd (recorded k e rows' token step ?_).1 stale
      unfold RunEvent.records
      rw [answered]
      exact presents
    · exact refused
  · intro k row found settled later rows' run'
    exact (settled_stays run' unique found settled).1
  · intro k row found expired later rows' run' unmarked
    exact expired_stays run' unique found expired unmarked

/-! ### An attempt that comes back too late -/

namespace Samples

def monday : Datetime := ⟨2026, 1, 5, 9, 0, 0, 0, some 0, by decide⟩
def later : Datetime := ⟨2026, 1, 5, 10, 0, 0, 0, some 0, by decide⟩

def first : Uuid := .repeated 1
def second : Uuid := .repeated 2

/-- A lease of five minutes. -/
def store : RecurringStateStore := ⟨300000000, by decide⟩

def success : RecurringRunResult := ⟨true, .ok "{}"⟩

/-- The first attempt expires and is recovered; it completes after the second has begun. -/
def calls : List (RecurringStateStore × RunCall) :=
  [(store, .claim "weekly" monday monday first), (store, .expireClaims later),
    (store, .markRecoverable "weekly" monday), (store, .claim "weekly" monday later second),
    (store, .complete "weekly" monday first later success),
    (store, .complete "weekly" monday second later success)]

/-- Only the second attempt is recorded. -/
theorem stale_attempt_refused : ClaimsHold (play performRun calls []).1 (play performRun calls []).2 ∧
    (play performRun calls []).1.filterMap (RunEvent.records ("weekly", monday.isoformat)) =
      [second] :=
  ⟨scheduled_runs_claimed (run_play calls []), by decide +kernel⟩

end Samples

end MasterAgent.Recurring
