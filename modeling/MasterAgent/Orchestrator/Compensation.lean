import MasterAgent.Orchestrator.Guarantees

/-!
# Rollback evidence

What a compensation pass does by itself, when its transactions succeed and its connectors only
raise what it catches: which calls it makes for each executed action, what it reports and what it
leaves in the table of idempotency rows.

Results:

1. `wp_compensateItem_visited`: one round is a visit of its action;
2. `rollback_evidence`: a pass visits every executed action, the last one first, and reports and
   rows agree with what the connectors confirmed.
-/

namespace MasterAgent
open Base

theorem occurs_singleton {p : TraceEvent → Prop} {e : TraceEvent} : Occurs p [e] ↔ p e := by
  simp [Occurs]

/-! ## Events of a round -/

/-- The target of an executed action still has the state that its result describes. -/
def postStateHolds (item : ExecutedAction) : TraceEvent → Prop
  | ⟨(_, .verify .compensation c a r), .ok v⟩ =>
      c = item.connector ∧ a = item.action ∧ r = item.result ∧ v.verified = true
  | _ => False

/-- The state of the target is asked for. -/
def checksPostState (item : ExecutedAction) : TraceEvent → Prop
  | ⟨(_, .verify .compensation c a r), _⟩ =>
      c = item.connector ∧ a = item.action ∧ r = item.result
  | _ => False

/-- A call that a round makes for its action. -/
def concerns (item : ExecutedAction) : Call → Prop
  | .verify p c a r =>
      p = .compensation ∧ c = item.connector ∧ a = item.action ∧ r = item.result
  | .compensate c a r => c = item.connector ∧ a = item.action ∧ r = item.result
  | .verifyCompensation c a r _ => c = item.connector ∧ a = item.action ∧ r = item.result
  | .clearCompleted a => a = item.action
  | .record (.actionState a _ _) => a = item.action
  | _ => False

/-- The compensation returned and was verified. -/
def Confirmed (item : ExecutedAction) (u : Trace) : Prop :=
  Occurs (compensated item.action) u ∧ Occurs (confirms item.action) u

/-- The effect is only compensated after its post-state was confirmed, and never when its
descriptor asks for an operator. -/
def Guarded (item : ExecutedAction) (u : Trace) : Prop :=
  ∀ before e after, u = before ++ e :: after → compensates item.action e →
    Occurs (postStateHolds item) before ∧
      ∃ descriptor, item.result.compensation = some descriptor ∧ descriptor.mode ≠ .manual

theorem Guarded.snoc {item : ExecutedAction} {u : Trace} {e : TraceEvent} (h : Guarded item u)
    (now : compensates item.action e → Occurs (postStateHolds item) u ∧
      ∃ descriptor, item.result.compensation = some descriptor ∧ descriptor.mode ≠ .manual) :
    Guarded item (u ++ [e]) := by
  intro before e' after split undoes
  rcases List.eq_nil_or_concat after with rfl | ⟨after, last, rfl⟩
  · obtain ⟨rfl, same⟩ := List.append_inj' split rfl
    obtain rfl := List.head_eq_of_cons_eq same
    exact now undoes
  · have split' : u ++ [e] = (before ++ e' :: after) ++ [last] := by simpa using split
    obtain ⟨rfl, -⟩ := List.append_inj' split' rfl
    exact h before e' after rfl undoes

section
variable [Host]

/-! ## The table of rows -/

/-- What an event of a pass does to the table. -/
def tableStep (table : IdempotencyTable) : TraceEvent → IdempotencyTable
  | ⟨(_, .clearCompleted a), .ok _⟩ =>
      clearCompleted a.idempotencyKey a.effectFingerprint table
  | _ => table

/-- The table that the events of a pass leave. -/
def tableAfter (t : Trace) (table : IdempotencyTable) : IdempotencyTable :=
  t.foldl tableStep table

/-- The row an action reserved. -/
def ownRow (table : IdempotencyTable) (a : AgentAction) : Option IdempotencyRow :=
  (table a.idempotencyKey).filter (·.actionFingerprint == a.effectFingerprint)

@[simp]
theorem tableAfter_append (t u : Trace) (table : IdempotencyTable) :
    tableAfter (t ++ u) table = tableAfter u (tableAfter t table) := by
  simp [tableAfter]

omit [Host] in
/-- Deleting a row touches no other key. -/
theorem clearCompleted_other {key other fingerprint : String} (table : IdempotencyTable)
    (h : other ≠ key) : clearCompleted key fingerprint table other = table other := by
  unfold clearCompleted
  cases table key with
  | none => rfl
  | some row =>
      dsimp only
      split
      · exact Function.update_of_ne h _ _
      · rfl

omit [Host] in
/-- What deleting a row leaves under its key. -/
theorem clearCompleted_same (key fingerprint : String) (table : IdempotencyTable) :
    clearCompleted key fingerprint table key =
      (table key).filter (·.actionFingerprint != fingerprint) := by
  unfold clearCompleted
  cases found : table key with
  | none => simpa using found
  | some row =>
      dsimp only
      split
      · next mine => simp [Option.filter, mine]
      · next other => simp [Option.filter, found, other]

theorem ownRow_cleared (table : IdempotencyTable) (a : AgentAction) :
    ownRow (clearCompleted a.idempotencyKey a.effectFingerprint table) a = none := by
  unfold ownRow
  rw [clearCompleted_same]
  cases table a.idempotencyKey with
  | none => rfl
  | some row =>
      by_cases mine : row.actionFingerprint = a.effectFingerprint <;> simp [Option.filter, mine]

/-! ## Visits -/

/-- What the calls of one round did; `undone` says whether the effect was undone. -/
structure Round (item : ExecutedAction) (undone : Bool) (u : Trace) : Prop where
  calls : ∀ e ∈ u, concerns item e.1.2
  guarded : Guarded item u
  confirmed : Confirmed item u ↔ undone = true
  rows : ∀ table, tableAfter u table =
    if undone then clearCompleted item.action.idempotencyKey item.action.effectFingerprint table
    else table

/-- One executed action was visited and reported. -/
structure Visited (item : ExecutedAction) (u : Trace) (r : ActionReport) : Prop where
  mine : r.actionId = item.action.actionId
  calls : ∀ e ∈ u, concerns item e.1.2
  guarded : Guarded item u
  attempted : compensationRefusal item = none → Occurs (checksPostState item) u
  confirmed : Confirmed item u → r.state = .compensated ∧ ∀ table, tableAfter u table =
    clearCompleted item.action.idempotencyKey item.action.effectFingerprint table
  unconfirmed : ¬Confirmed item u → r.state = .compensationFailed ∧
    ∀ table, tableAfter u table = table

variable {item : ExecutedAction} {u : Trace} {e : TraceEvent} {undone : Bool} {s : RunState}
  {t : Trace} {plan : ChangePlan}

theorem Round.begin : Round item false [] where
  calls _ member := absurd member List.not_mem_nil
  guarded before e after split := by simp at split
  confirmed := ⟨fun confirmed => absurd confirmed.1 occurs_nil, fun h => absurd h Bool.false_ne_true⟩
  rows _ := rfl

/-- One more call that neither undoes the effect nor deletes the row. -/
theorem Round.snoc (h : Round item undone u) (mine : concerns item e.1.2)
    (now : compensates item.action e → Occurs (postStateHolds item) u ∧
      ∃ descriptor, item.result.compensation = some descriptor ∧ descriptor.mode ≠ .manual)
    (confirmed : Confirmed item (u ++ [e]) → Confirmed item u)
    (row : ∀ table, tableStep table e = table) : Round item undone (u ++ [e]) where
  calls e' member := by
    rcases List.mem_append.mp member with before | last
    · exact h.calls e' before
    · exact List.mem_singleton.mp last ▸ mine
  guarded := h.guarded.snoc now
  confirmed := ⟨fun both => h.confirmed.mp (confirmed both), fun yes =>
    let ⟨undo, confirm⟩ := h.confirmed.mpr yes
    ⟨undo.append _, confirm.append _⟩⟩
  rows table := by
    rw [tableAfter_append, h.rows]
    exact row _

/-- The effect was undone, and its row is deleted. -/
theorem Round.clear (h : Round item false u) {w : TraceEvent} (mine : concerns item w.1.2)
    (returned : Occurs (compensated item.action) u) (confirm : confirms item.action w)
    (quiet : ¬compensates item.action w) (row : ∀ table, tableStep table w = table) :
    Round item true (u ++ [w] ++ [⟨(s, .clearCompleted item.action), .ok ()⟩]) where
  calls e' member := by
    simp only [List.append_assoc, List.mem_append, List.mem_singleton] at member
    rcases member with before | rfl | rfl
    · exact h.calls e' before
    · exact mine
    · exact rfl
  guarded := (h.guarded.snoc fun undoes => absurd undoes quiet).snoc False.elim
  confirmed := ⟨fun _ => rfl, fun _ => ⟨(returned.append _).append _,
    occurs_concat.mpr (.inl (occurs_concat.mpr (.inr confirm)))⟩⟩
  rows table := by
    have before : tableAfter [w] table = table := row table
    rw [tableAfter_append, tableAfter_append, h.rows, if_neg Bool.false_ne_true, before]
    rfl

/-- The round is recorded. -/
theorem Round.visited (h : Round item undone u) {r : ActionReport}
    (mine : r.actionId = item.action.actionId)
    (state : r.state = if undone then .compensated else .compensationFailed)
    (attempted : compensationRefusal item = none → Occurs (checksPostState item) u) {r' : ActionReport}
    {answer : Except Exn Unit} :
    Visited item (u ++ [⟨(s, .record (.actionState item.action r' none)), answer⟩]) r := by
  have recorded : Round item undone
      (u ++ [⟨(s, .record (.actionState item.action r' none)), answer⟩]) :=
    h.snoc rfl False.elim (fun both => ⟨(occurs_concat.mp both.1).resolve_right id,
      (occurs_concat.mp both.2).resolve_right id⟩) fun _ => rfl
  refine ⟨mine, recorded.calls, recorded.guarded, fun open_ => (attempted open_).append _, ?_, ?_⟩
  · intro confirmed
    obtain rfl := recorded.confirmed.mp confirmed
    exact ⟨state, recorded.rows⟩
  · intro unconfirmed
    obtain rfl : undone = false := by
      rw [← Bool.not_eq_true]
      exact mt recorded.confirmed.mpr unconfirmed
    exact ⟨state, recorded.rows⟩

/-! ## One round -/

/-- An action that is not refused has a descriptor that asks for no operator, and an unchanged
result. -/
theorem compensationRefusal_none (h : compensationRefusal item = none) :
    copyExecutionResult item.result = .ok item.result ∧
      ∃ descriptor, item.result.compensation = some descriptor ∧ descriptor.mode ≠ .manual := by
  unfold compensationRefusal at h
  split at h
  · cases h
  · next intact =>
      split at h
      · cases h
      · next descriptor described =>
          split at h
          · cases h
          · next automatic => exact ⟨copyExecutionResult_ok intact, descriptor, described, automatic⟩

/-- The attempt ended with an exception that the pass catches, and undid nothing it confirmed. -/
def GaveUp (item : ExecutedAction) (s : RunState) (e : Exn) (s' : RunState) (u : Trace) : Prop :=
  Clean u → e.kind.compensationCatches = true ∧ s' = s ∧ Round item false u ∧
    Occurs (checksPostState item) u

/-- The attempt undid the effect. -/
def Undid (item : ExecutedAction) (s : RunState) (s' : RunState) (u : Trace) : Prop :=
  ∃ r, s' = s.amend item.reportIndex r ∧ r.actionId = item.action.actionId ∧
    r.state = .compensated ∧ Round item true u ∧ Occurs (checksPostState item) u

theorem wp_attemptCompensation_visited (open_ : compensationRefusal item = none) :
    Proc.wp (fun _ _ _ => True) (attemptCompensation item) (fun _ => Undid item s)
      (GaveUp item s) s [] := by
  obtain ⟨copied, automatic⟩ := compensationRefusal_none open_
  -- what a connector raises is caught, unless it is unclean
  have dirty : ∀ {u : Trace} {ev : TraceEvent} {e : Exn},
      (e.kind.compensationCatches = false → unclean ev) → Clean (u ++ [ev]) →
        e.kind.compensationCatches = true := fun raised clean =>
    Bool.not_eq_false _ ▸ mt raised (clean_concat.mp clean).2
  -- the state of the target is asked for first
  have first : ∀ answer, Occurs (checksPostState item)
      ([] ++ [⟨(s, .verify .compensation item.connector item.action item.result), answer⟩]) :=
    fun _ => occurs_concat.mpr (.inr ⟨rfl, rfl, rfl⟩)
  have asked : ∀ answer, Round item false
      ([] ++ [⟨(s, .verify .compensation item.connector item.action item.result), answer⟩]) :=
    fun _ => Round.begin.snoc ⟨rfl, rfl, rfl, rfl⟩ False.elim
      (fun both => absurd (occurs_singleton.mp both.1) id) fun _ => rfl
  unfold attemptCompensation
  simp only [Proc.wp_bind, Proc.wp_lift, copied]
  refine wp_perform.mpr ⟨trivial, fun postcondition => ?_, fun e clean =>
    ⟨dirty id clean, rfl, asked _, first _⟩⟩
  split
  · exact fun _ => ⟨rfl, rfl, asked _, first _⟩
  · next holds =>
      rw [not_not] at holds
      have held : Occurs (postStateHolds item) ([] ++ [⟨(s, .verify .compensation item.connector
          item.action item.result), .ok postcondition⟩]) :=
        occurs_concat.mpr (.inr ⟨rfl, rfl, rfl, holds⟩)
      have undoing : ∀ answer, Round item false ([] ++ [⟨(s, .verify .compensation item.connector
          item.action item.result), .ok postcondition⟩] ++
            [⟨(s, .compensate item.connector item.action item.result), answer⟩]) := fun _ =>
        (asked _).snoc ⟨rfl, rfl, rfl⟩ (fun _ => ⟨held, automatic⟩)
          (fun both => ((occurs_concat.mp both.2).elim (absurd · (mt occurs_singleton.mp id))
            False.elim)) fun _ => rfl
      simp only [Proc.wp_bind, Proc.wp_lift]
      refine wp_perform.mpr ⟨trivial, fun compensation => ?_, fun e clean =>
        ⟨dirty id clean, rfl, undoing _, (first _).append _⟩⟩
      have returned : Occurs (compensated item.action) ([] ++ [⟨(s, .verify .compensation
          item.connector item.action item.result), .ok postcondition⟩] ++
            [⟨(s, .compensate item.connector item.action item.result), .ok compensation⟩]) :=
        occurs_concat.mpr (.inr rfl)
      cases private_copy : copyExecutionResult compensation with
      | error e =>
          have caught : e.kind.compensationCatches = true := by
            rw [copyExecutionResult_error private_copy]
            rfl
          exact fun _ => ⟨caught, rfl, undoing _, (first _).append _⟩
      | ok copy =>
          refine wp_perform.mpr ⟨trivial, fun verification => ?_, fun e clean =>
            ⟨dirty id clean, rfl, (undoing _).snoc ⟨rfl, rfl, rfl⟩ False.elim (fun both =>
              ⟨returned, (occurs_concat.mp both.2).resolve_right id⟩) fun _ => rfl,
              ((first _).append _).append _⟩⟩
          split
          · next refused =>
              exact fun _ => ⟨rfl, rfl, (undoing _).snoc ⟨rfl, rfl, rfl⟩ False.elim (fun both =>
                ⟨returned, (occurs_concat.mp both.2).resolve_right fun confirm =>
                  refused confirm.2⟩) fun _ => rfl, ((first _).append _).append _⟩
          · next accepted =>
              rw [not_not] at accepted
              simp only [Proc.wp_bind, Proc.wp_modify]
              refine wp_perform.mpr ⟨trivial, fun _ => ?_, fun e clean => ?_⟩
              · exact ⟨_, rfl, rfl, rfl, (undoing _).clear ⟨rfl, rfl, rfl⟩ returned
                  ⟨rfl, accepted⟩ id fun _ => rfl, (((first _).append _).append _).append _⟩
              · exact absurd trivial (clean_concat.mp clean).2

omit [Host] in
theorem Clean.after {before after : Trace} (h : Clean (before ++ after)) : Clean after :=
  fun ⟨e, member, dirty⟩ => h ⟨e, List.mem_append_right _ member, dirty⟩

omit [Host] in
/-- A trace that is not clean stays so. -/
theorem wp_unclean {A : Type} {p : Orchestration A} (h : ¬Clean u) :
    Proc.wp (fun _ _ _ => True) p (fun _ _ t => ¬Clean t) (fun _ _ t => ¬Clean t) s u :=
  Proc.wp_shift (Proc.wp_always (fun _ _ _ => trivial) (fun _ _ _ clean => h clean.before)
    fun _ _ _ clean => h clean.before)

/-- A round visits its action and reports it, or is not clean. -/
theorem wp_compensateItem_visited (inside : item.reportIndex < s.reports.length) :
    Proc.wp (fun _ _ _ => True) (compensateItem item)
      (fun _ s' u => Clean u → ∃ r, s' = s.amend item.reportIndex r ∧ Visited item u r)
      (fun _ _ u => ¬Clean u) s [] := by
  -- recording the new report ends the round
  have recorded : ∀ {u : Trace} {r : ActionReport} {undone : Bool}, Round item undone u →
      r.actionId = item.action.actionId →
      (r.state = if undone then .compensated else .compensationFailed) →
      (compensationRefusal item = none → Occurs (checksPostState item) u) →
      Proc.wp (fun _ _ _ => True) (recordAmended item)
        (fun _ s' u => Clean u → ∃ r, s' = s.amend item.reportIndex r ∧ Visited item u r)
        (fun _ _ u => ¬Clean u) (s.amend item.reportIndex r) u := by
    intro u r undone round mine state attempted
    have at_i : (s.amend item.reportIndex r).reports[item.reportIndex]? = some r := by
      rw [RunState.reports_amend, List.getElem?_set_self inside]
    unfold recordAmended
    simp only [Proc.wp_bind, Proc.wp_get, at_i]
    exact wp_perform.mpr ⟨trivial, fun _ _ => ⟨r, rfl, round.visited mine state attempted⟩,
      fun _ clean => (clean_concat.mp clean).2 trivial⟩
  unfold compensateItem
  cases open_ : compensationRefusal item with
  | some message =>
      simp only [Proc.wp_bind, Proc.wp_modify]
      exact recorded Round.begin rfl rfl fun refused =>
        absurd (open_.symm.trans refused) (Option.some_ne_none message)
  | none =>
      simp only [Proc.wp_bind]
      refine wp_catching.mpr (Proc.wp_mono (wp_attemptCompensation_visited open_) ?_ ?_)
      · rintro _ s' u ⟨r, rfl, mine, state, round, attempted⟩
        exact recorded round mine state fun _ => attempted
      · intro e s' u gave_up
        split
        · rw [Proc.wp_modify]
          by_cases clean : Clean u
          · obtain ⟨-, rfl, round, attempted⟩ := gave_up clean
            exact recorded round rfl rfl fun _ => attempted
          · exact Proc.wp_mono (wp_unclean clean) (fun _ _ _ still clean =>
              absurd clean still) fun _ _ _ still => still
        · next escapes => exact fun clean => escapes (gave_up clean).1

/-! ## A pass -/

/-- One round of a pass: the action, the events and the new report. -/
structure Visit where
  item : ExecutedAction
  events : Trace
  report : ActionReport

/-- The executed actions of a pass are different actions, whose reports are listed. -/
structure Waiting (s : RunState) : Prop where
  reported : ∀ item ∈ s.sideEffectsMayHaveOccurred, ∃ r,
    s.reports[item.reportIndex]? = some r ∧ r.actionId = item.action.actionId
  ids : (s.sideEffectsMayHaveOccurred.map (·.action.actionId)).Nodup
  keys : (s.sideEffectsMayHaveOccurred.map (·.action.idempotencyKey)).Nodup

/-- Whenever a run may begin a pass, its executed actions are different actions. -/
theorem Inv.waiting {done : List AgentAction} (h : Inv plan done [] s t)
    (past : done ⊆ plan.actions) : Waiting s := by
  have planned : ∀ a ∈ s.sideEffectsMayHaveOccurred.map (·.action), a ∈ plan.actions := by
    intro a member
    obtain ⟨item, waits, rfl⟩ := List.mem_map.mp member
    exact past (by simpa using (h.ledger.written item waits).1)
  refine ⟨fun item member => ?_, ?_, ?_⟩
  · obtain ⟨r, at_i, mine⟩ := Option.map_eq_some_iff.mp
      ((h.books.indexed item member).resolve_right fun now => List.not_mem_nil now.1)
    exact ⟨r, at_i, mine⟩
  · have ids := h.ledger.nodup.map_on (f := fun a => a.actionId) fun a ha b hb same =>
      plan.action_inj (planned a ha) (planned b hb) same
    rwa [List.map_map] at ids
  · have keys := h.ledger.nodup.map_on (f := fun a => a.idempotencyKey) fun a ha b hb same =>
      plan.action_inj_key (planned a ha) (planned b hb) same
    rwa [List.map_map] at keys

omit [Host] in
/-- The reports of different actions are different reports. -/
theorem Waiting.index_inj (h : Waiting s) {i j : ExecutedAction}
    (hi : i ∈ s.sideEffectsMayHaveOccurred) (hj : j ∈ s.sideEffectsMayHaveOccurred)
    (same : i.reportIndex = j.reportIndex) : i = j := by
  obtain ⟨r, at_i, mine⟩ := h.reported i hi
  obtain ⟨r', at_j, mine'⟩ := h.reported j hj
  rw [same, at_j] at at_i
  obtain rfl := Option.some.inj at_i
  exact List.inj_on_of_nodup_map h.ids hi hj (mine.symm.trans mine')

/-- The rounds made so far, after the record that a pass began. -/
structure Made (s₀ : RunState) (start : TraceEvent) (visits : List Visit) (s : RunState)
    (u : Trace) : Prop where
  events : u = start :: visits.flatMap Visit.events
  items : s.sideEffectsMayHaveOccurred = s₀.sideEffectsMayHaveOccurred
  length : s.reports.length = s₀.reports.length
  visited : ∀ v ∈ visits, Visited v.item v.events v.report
  reported : ∀ v ∈ visits, s.reports[v.item.reportIndex]? = some v.report

theorem Made.begin (start : TraceEvent) : Made s start [] s [start] where
  events := rfl
  items := rfl
  length := rfl
  visited _ member := absurd member List.not_mem_nil
  reported _ member := absurd member List.not_mem_nil

/-- One more round. -/
theorem Made.next {s₀ : RunState} {start : TraceEvent} {visits : List Visit}
    (h : Made s₀ start visits s u) {u' : Trace} {r : ActionReport} (visited : Visited item u' r)
    (inside : item.reportIndex < s.reports.length)
    (other : ∀ v ∈ visits, v.item.reportIndex ≠ item.reportIndex) :
    Made s₀ start (visits ++ [⟨item, u', r⟩]) (s.amend item.reportIndex r) (u ++ u') where
  events := by rw [h.events]; simp
  items := h.items
  length := by rw [RunState.reports_amend, List.length_set, h.length]
  visited v member := by
    rcases List.mem_append.mp member with before | last
    · exact h.visited v before
    · obtain rfl := List.mem_singleton.mp last
      exact visited
  reported v member := by
    rw [RunState.reports_amend]
    rcases List.mem_append.mp member with before | last
    · rw [List.getElem?_set_ne (other v before).symm]
      exact h.reported v before
    · obtain rfl := List.mem_singleton.mp last
      exact List.getElem?_set_self inside

/-- The call writes to the audit log. -/
def isRecord : Call → Prop
  | .record _ => True
  | _ => False

theorem tableStep_record {table : IdempotencyTable} (h : isRecord e.1.2) :
    tableStep table e = table := by
  obtain ⟨⟨s, call⟩, answer⟩ := e
  cases call with
  | record r => rfl
  | _ => cases h

/-- What a pass did. -/
structure PassMade (s₀ s : RunState) (u : Trace) : Prop where
  visits : ∃ (visits : List Visit) (start finish : TraceEvent) (s' : RunState) (u' : Trace),
    visits.map Visit.item = s₀.sideEffectsMayHaveOccurred.reverse ∧
    Made s₀ start visits s' u' ∧ isRecord start.1.2 ∧ isRecord finish.1.2 ∧
    u = u' ++ [finish] ∧ s.reports = s'.reports
  emptied : s.sideEffectsMayHaveOccurred = []

theorem wp_maybeCompensate_visited (atomic : plan.compensateOnFailure = true)
    (executed : s.sideEffectsMayHaveOccurred ≠ []) (waiting : Waiting s) :
    Proc.wp (fun _ _ _ => True) (maybeCompensate plan false)
      (fun abort s' u => Clean u → abort = true ∧ PassMade s s' u) (fun _ _ u => ¬Clean u) s [] := by
  have pass : ¬((false : Bool) = true ∨ ¬plan.compensateOnFailure = true ∨
      s.sideEffectsMayHaveOccurred = []) := by simp [atomic, executed]
  unfold maybeCompensate
  rw [Proc.wp_bind, Proc.wp_get, if_neg pass]
  simp only [Proc.wp_bind, Proc.wp_get, Proc.wp_modify, Proc.wp_pure]
  refine wp_perform.mpr ⟨trivial, fun _ => ?_, fun e clean => (clean_concat.mp clean).2 trivial⟩
  refine Proc.wp_mono (Proc.wp_each (I := fun met s' u => Clean u → ∃ visits,
    visits.map Visit.item = met ∧ Made s _ visits s' u) ?_ fun _ => ⟨[], rfl, Made.begin _⟩)
    ?_ fun _ _ _ unclean => unclean
  · intro met item rest s' u split made
    by_cases clean : Clean u
    · obtain ⟨visits, rfl, earlier⟩ := made clean
      -- this round's report is listed, and it is not that of an earlier round
      have waits : ∀ i ∈ visits.map Visit.item ++ item :: rest, i ∈ s.sideEffectsMayHaveOccurred :=
        fun i member => List.mem_reverse.mp (split ▸ member)
      obtain ⟨old, at_i, -⟩ := waiting.reported item (waits item (by simp))
      have inside : item.reportIndex < s'.reports.length :=
        earlier.length ▸ (List.getElem?_eq_some_iff.mp at_i).1
      have fresh : item ∉ visits.map Visit.item := by
        have nodup := List.nodup_reverse.mpr (List.Nodup.of_map _ waiting.ids)
        rw [split] at nodup
        exact fun twice => (List.nodup_append.mp nodup).2.2 item twice item List.mem_cons_self rfl
      have other : ∀ v ∈ visits, v.item.reportIndex ≠ item.reportIndex := fun v member same => by
        have listed := List.mem_map_of_mem (f := Visit.item) member
        have equal := waiting.index_inj (waits _ (List.mem_append_left _ listed))
          (waits item (by simp)) same
        exact fresh (equal ▸ listed)
      refine Proc.wp_shift (Proc.wp_mono (wp_compensateItem_visited inside) ?_
        fun _ _ u' unclean clean => unclean clean.after)
      · intro _ s'' u' round clean
        obtain ⟨r, rfl, visited⟩ := round clean.after
        exact ⟨visits ++ [⟨item, u', r⟩], by simp, earlier.next visited inside other⟩
    · exact Proc.wp_mono (wp_unclean clean) (fun _ _ _ still clean => absurd clean still)
        fun _ _ _ still => still
  · intro _ s' u made
    refine wp_perform.mpr ⟨trivial, fun _ clean => ?_, fun e clean => (clean_concat.mp clean).2 trivial⟩
    obtain ⟨visits, listed, made⟩ := made (clean_concat.mp clean).1
    exact ⟨trivial, ⟨visits, _, ⟨(s', .record (.compensationFinished (executedStates s'))), .ok ()⟩,
      s', u, listed, made, trivial, trivial, rfl, rfl⟩, rfl⟩

/-! ## The rows a pass leaves -/

theorem Visited.other {r : ActionReport} (h : Visited item u r) {key : String}
    (other : key ≠ item.action.idempotencyKey) (table : IdempotencyTable) :
    tableAfter u table key = table key := by
  by_cases confirmed : Confirmed item u
  · rw [(h.confirmed confirmed).2, clearCompleted_other _ other]
  · rw [(h.unconfirmed confirmed).2]

theorem Visited.own {r : ActionReport} (h : Visited item u r) {table table' : IdempotencyTable}
    (same : table item.action.idempotencyKey = table' item.action.idempotencyKey) :
    tableAfter u table item.action.idempotencyKey =
      tableAfter u table' item.action.idempotencyKey := by
  by_cases confirmed : Confirmed item u
  · rw [(h.confirmed confirmed).2, (h.confirmed confirmed).2, clearCompleted_same,
      clearCompleted_same, same]
  · rw [(h.unconfirmed confirmed).2, (h.unconfirmed confirmed).2, same]

/-- Under the key of an action the rounds leave what its own round leaves. -/
theorem rows_of_visits {visits : List Visit}
    (visited : ∀ v ∈ visits, Visited v.item v.events v.report)
    (keys : (visits.map fun v => v.item.action.idempotencyKey).Nodup) (table : IdempotencyTable) :
    (∀ key, (∀ v ∈ visits, key ≠ v.item.action.idempotencyKey) →
      tableAfter (visits.flatMap Visit.events) table key = table key) ∧
    ∀ v ∈ visits, tableAfter (visits.flatMap Visit.events) table v.item.action.idempotencyKey =
      tableAfter v.events table v.item.action.idempotencyKey := by
  induction visits generalizing table with
  | nil => exact ⟨fun _ _ => rfl, fun _ member => absurd member List.not_mem_nil⟩
  | cons first rest ih =>
      rw [List.map_cons, List.nodup_cons] at keys
      have visited_first := visited first List.mem_cons_self
      obtain ⟨others, own⟩ := ih (fun v member => visited v (List.mem_cons_of_mem _ member)) keys.2
        (tableAfter first.events table)
      have fresh : ∀ v ∈ rest,
          first.item.action.idempotencyKey ≠ v.item.action.idempotencyKey := fun v member same =>
        keys.1 (List.mem_map.mpr ⟨v, member, same.symm⟩)
      simp only [List.flatMap_cons, tableAfter_append]
      refine ⟨fun key other => ?_, fun v member => ?_⟩
      · rw [others key fun v member => other v (List.mem_cons_of_mem _ member)]
        exact visited_first.other (other first List.mem_cons_self) table
      · rcases List.mem_cons.mp member with rfl | later
        · exact others _ fresh
        · rw [own v later]
          exact (visited v member).own (visited_first.other (fresh v later).symm table)

/-- What a pass over the executed actions of a state leaves: it visits each of them, the last one
first, and what is reported and what is left of its row follow what the connectors confirmed. -/
structure RolledBackWithEvidence (s s' : RunState) (t : Trace) : Prop where
  emptied : s'.sideEffectsMayHaveOccurred = []
  visits : ∃ (visits : List Visit) (start finish : TraceEvent),
    visits.map Visit.item = s.sideEffectsMayHaveOccurred.reverse ∧
    isRecord start.1.2 ∧ isRecord finish.1.2 ∧
    t = start :: visits.flatMap Visit.events ++ [finish] ∧
    ∀ v ∈ visits, Visited v.item v.events v.report ∧
      s'.reports[v.item.reportIndex]? = some v.report ∧ ∀ table,
        (Confirmed v.item v.events → v.report.state = .compensated ∧
          ownRow (tableAfter t table) v.item.action = none) ∧
        (¬Confirmed v.item v.events → v.report.state = .compensationFailed ∧
          tableAfter t table v.item.action.idempotencyKey = table v.item.action.idempotencyKey)

/-- When nothing but a caught exception of a connector is raised, a pass returns, and it leaves
evidence of what it undid. -/
theorem rollback_evidence {s' : RunState} {out : Except Exn Bool}
    (atomic : plan.compensateOnFailure = true) (executed : s.sideEffectsMayHaveOccurred ≠ [])
    (waiting : Waiting s) (clean : Clean t)
    (reached : Prog.Reaches (maybeCompensate plan false s) t (.ret (out, s'))) :
    out = .ok true ∧ RolledBackWithEvidence s s' t := by
  have pass := wp_maybeCompensate_visited atomic executed waiting
  cases out with
  | error e => exact absurd clean (Proc.raise_of_reaches pass reached)
  | ok abort =>
      obtain ⟨rfl, ⟨visits, start, finish, s'', u, listed, made, starts, finishes, rfl, same⟩,
        emptied⟩ := Proc.post_of_reaches pass reached clean
      have split : u ++ [finish] = start :: visits.flatMap Visit.events ++ [finish] := by
        rw [made.events]
      have keys : (visits.map fun v => v.item.action.idempotencyKey).Nodup := by
        have reversed := List.nodup_reverse.mpr waiting.keys
        rwa [← List.map_reverse, ← listed, List.map_map] at reversed
      -- the records of the pass leave the rows alone
      have rows (table : IdempotencyTable) :
          tableAfter (u ++ [finish]) table = tableAfter (visits.flatMap Visit.events) table := by
        show (u ++ [finish]).foldl tableStep table = _
        rw [split, List.foldl_append]
        show tableStep ((visits.flatMap Visit.events).foldl tableStep (tableStep table start)) finish = _
        rw [tableStep_record finishes, tableStep_record starts]
        rfl
      refine ⟨rfl, emptied, visits, start, finish, listed, starts, finishes, split, ?_⟩
      intro v member
      have visited := made.visited v member
      refine ⟨visited, same ▸ made.reported v member, fun table => ⟨fun confirmed => ?_,
        fun unconfirmed => ?_⟩⟩
      · obtain ⟨state, cleared⟩ := visited.confirmed confirmed
        refine ⟨state, ?_⟩
        unfold ownRow
        rw [rows, (rows_of_visits made.visited keys table).2 v member, cleared]
        exact ownRow_cleared table v.item.action
      · obtain ⟨state, kept⟩ := visited.unconfirmed unconfirmed
        refine ⟨state, ?_⟩
        rw [rows, (rows_of_visits made.visited keys table).2 v member, kept]

end

section

attribute [local instance] plainHost

/-- The page was written, and its write is reported as verified. -/
def sampleExecuted : RunState :=
  { RunState.initial with
    reports := [⟨sampleWrite.actionId, sampleWrite.capability, .verified, "ok", none, none, none⟩]
    sideEffectsMayHaveOccurred := [⟨sampleWrite, sampleConnector, sampleResult sampleWrite, 0⟩] }

theorem sample_rollback_evidence : ∃ s' t, RolledBackWithEvidence sampleExecuted s' t := by
  have returned : (Prog.drive (fun _ (x : RunState × Call) => smoothly x.2) 0 10
      (maybeCompensate governedPlan false sampleExecuted)).2.result.isSome = true := by
    decide +kernel
  obtain ⟨⟨out, s'⟩, result⟩ := Option.isSome_iff_exists.mp returned
  have waiting : Waiting sampleExecuted :=
    ⟨fun item member => by
      obtain rfl := List.mem_singleton.mp member
      exact ⟨_, rfl, rfl⟩, by decide, by decide⟩
  have reached := Prog.eq_of_result result ▸
    Prog.reaches_drive (fun _ (x : RunState × Call) => smoothly x.2) 0 10
      (maybeCompensate governedPlan false sampleExecuted)
  exact ⟨s', _, (rollback_evidence rfl (List.cons_ne_nil _ _) waiting (driven_clean _ 10)
    reached).2⟩

end

end MasterAgent
