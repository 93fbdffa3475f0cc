import MasterAgent.Base.Triple
import MasterAgent.Orchestrator.Guarantees

/-!
# The results in a report

Which entries of a run's report carry the result of their action, whatever the collaborators answer.

Results:

1. `OpenEntries`, `NotedEntries`: what holds in the turn of an action before and after its provider returned;
2. `run_entries`: in the report of a run, at most one entry of an action carries a result, only in
   the states of an executed action, and always if the action is verified or was rolled back.
-/

namespace MasterAgent
open Base

/-- An entry carries a result only in a state of an executed action, and always in the states that
follow from a result. -/
structure ActionReport.Consistent (r : ActionReport) : Prop where
  executed : r.result.isSome = true → r.state.isOutcome = true
  carried : r.state = .verified ∨ r.state.isRolledBack = true → r.result.isSome = true

/-- The entry at a position is that of an action, and no other entry of it carries a result. -/
structure PlacedEntry (reports : List ActionReport) (id : Uuid) (i : Nat) : Prop where
  mine : reports[i]?.map (·.actionId) = some id
  only : ∀ j r, reports[j]? = some r → r.actionId = id → r.result.isSome = true → j = i

/-- The entries of a run so far, and the executed writes that wait to be rolled back. -/
structure Entries (known : List Uuid) (reports : List ActionReport)
    (items : List ExecutedAction) : Prop where
  reported : ∀ r ∈ reports, r.actionId ∈ known
  consistent : ∀ r ∈ reports, r.Consistent
  unique : ∀ (i j : Nat) (r r' : ActionReport), reports[i]? = some r → reports[j]? = some r' →
    r.actionId = r'.actionId → r.result.isSome = true → r'.result.isSome = true → i = j
  placed : ∀ item ∈ items, PlacedEntry reports item.action.actionId item.reportIndex
  same : ∀ x ∈ items, ∀ y ∈ items, x.action.actionId = y.action.actionId →
    x.reportIndex = y.reportIndex

/-- No entry of the action carries a result, and no executed write is one of the action. -/
structure OpenEntries (known : List Uuid) (id : Uuid) (reports : List ActionReport)
    (items : List ExecutedAction) : Prop extends Entries known reports items where
  mine : id ∈ known
  fresh : ∀ r ∈ reports, r.actionId = id → r.result = none
  others : ∀ item ∈ items, item.action.actionId ≠ id

/-- The same, but that the action may wait as an executed write, to be reported next. -/
def NotedEntries (known : List Uuid) (id : Uuid) (s : RunState) : Prop :=
  ∃ items, OpenEntries known id s.reports items ∧
    (s.sideEffectsMayHaveOccurred = items ∨ ∃ item, item.action.actionId = id ∧
      item.reportIndex = s.reports.length ∧ s.sideEffectsMayHaveOccurred = items ++ [item])

variable {known : List Uuid} {id : Uuid} {reports : List ActionReport} {items : List ExecutedAction}
  {item : ExecutedAction} {r : ActionReport} {s : RunState}

/-! ## Entries -/

theorem getElem?_concat {x : ActionReport} {i : Nat} (at_i : (reports ++ [r])[i]? = some x) :
    reports[i]? = some x ∨ i = reports.length ∧ x = r := by
  rcases Nat.lt_or_ge i reports.length with old | now
  · rw [List.getElem?_append_left old] at at_i
    exact .inl at_i
  · rw [List.getElem?_append_right now] at at_i
    obtain ⟨inside, rfl⟩ := List.getElem?_eq_some_iff.mp at_i
    simp only [List.length_singleton, Nat.lt_one_iff] at inside
    exact .inr ⟨by omega, by simp⟩

theorem PlacedEntry.append (h : PlacedEntry reports id item.reportIndex)
    (other : r.actionId = id → r.result = none) : PlacedEntry (reports ++ [r]) id item.reportIndex where
  mine := by
    obtain ⟨old, at_i, -⟩ := Option.map_eq_some_iff.mp h.mine
    rw [List.getElem?_append_left (List.getElem?_eq_some_iff.mp at_i).1]
    exact h.mine
  only j x at_j mine carries := by
    rcases getElem?_concat at_j with before | ⟨-, rfl⟩
    · exact h.only j x before mine carries
    · rw [other mine] at carries
      cases carries

namespace Entries

theorem discharge (h : Entries known reports items) : Entries known reports [] where
  reported := h.reported
  consistent := h.consistent
  unique := h.unique
  placed _ member := absurd member List.not_mem_nil
  same _ member := absurd member List.not_mem_nil

theorem initial : Entries [] [] [] where
  reported _ listed := absurd listed List.not_mem_nil
  consistent _ listed := absurd listed List.not_mem_nil
  unique _ _ _ _ at_i := nomatch at_i
  placed _ member := absurd member List.not_mem_nil
  same _ member := absurd member List.not_mem_nil

/-- One more entry, of an action of which no entry carries a result, nor a write waits. -/
theorem append (h : Entries known reports items) (mine : r.actionId ∈ known)
    (consistent : r.Consistent)
    (fresh : r.result.isSome = true → ∀ x ∈ reports, x.actionId = r.actionId → x.result = none)
    (others : r.result.isSome = true → ∀ item ∈ items, item.action.actionId ≠ r.actionId) :
    Entries known (reports ++ [r]) items where
  reported x listed := by
    rcases List.mem_append.mp listed with old | now
    · exact h.reported x old
    · exact List.mem_singleton.mp now ▸ mine
  consistent x listed := by
    rcases List.mem_append.mp listed with old | now
    · exact h.consistent x old
    · exact List.mem_singleton.mp now ▸ consistent
  unique i j x y at_i at_j same carries carries' := by
    rcases getElem?_concat at_i with old | ⟨rfl, rfl⟩ <;>
      rcases getElem?_concat at_j with old' | ⟨rfl, rfl⟩
    · exact h.unique i j x y old old' same carries carries'
    · rw [fresh carries' x (List.mem_of_getElem? old) same] at carries
      cases carries
    · rw [fresh carries y (List.mem_of_getElem? old') same.symm] at carries'
      cases carries'
    · rfl
  placed item member := (h.placed item member).append fun mine => by
    by_contra carries
    exact others (Option.isSome_iff_ne_none.mpr carries) item member mine.symm
  same := h.same

/-- The entry of an executed write is replaced by another with its result. -/
theorem amend (h : Entries known reports items) (member : item ∈ items)
    (mine : r.actionId = item.action.actionId) (carries : r.result.isSome = true)
    (consistent : r.Consistent) : Entries known (reports.set item.reportIndex r) items := by
  obtain ⟨old, at_old, old_id⟩ := Option.map_eq_some_iff.mp (h.placed item member).mine
  have inside : item.reportIndex < reports.length := (List.getElem?_eq_some_iff.mp at_old).1
  have found : ∀ {j x}, (reports.set item.reportIndex r)[j]? = some x →
      j = item.reportIndex ∧ x = r ∨ j ≠ item.reportIndex ∧ reports[j]? = some x := by
    intro j x at_j
    rcases eq_or_ne item.reportIndex j with rfl | other
    · rw [List.getElem?_set_self inside] at at_j
      exact .inl ⟨rfl, (Option.some.inj at_j).symm⟩
    · rw [List.getElem?_set_ne other] at at_j
      exact .inr ⟨other.symm, at_j⟩
  exact {
    reported := fun x listed => by
      rcases List.mem_or_eq_of_mem_set listed with before | rfl
      · exact h.reported x before
      · rw [mine, ← old_id]
        exact h.reported old (List.mem_of_getElem? at_old)
    consistent := fun x listed => by
      rcases List.mem_or_eq_of_mem_set listed with before | rfl
      · exact h.consistent x before
      · exact consistent
    unique := fun i j x y at_i at_j same some some' => by
      rcases found at_i with ⟨rfl, rfl⟩ | ⟨apart, before⟩ <;>
        rcases found at_j with ⟨rfl, rfl⟩ | ⟨apart', before'⟩
      · rfl
      · exact absurd ((h.placed item member).only j y before' (same.symm.trans mine) some') apart'
      · exact absurd ((h.placed item member).only i x before (same.trans mine) some) apart
      · exact h.unique i j x y before before' same some some'
    placed := fun other waits => {
      mine := by
        rcases eq_or_ne item.reportIndex other.reportIndex with index | apart
        · have id_other := (h.placed other waits).mine
          rw [← index, at_old] at id_other
          rw [← index, List.getElem?_set_self inside]
          exact congrArg some (mine.trans (old_id.symm.trans (Option.some.inj id_other)))
        · rw [List.getElem?_set_ne apart]
          exact (h.placed other waits).mine
      only := fun j x at_j same some => by
        rcases found at_j with ⟨rfl, rfl⟩ | ⟨-, before⟩
        · exact h.same item member other waits (mine.symm.trans same)
        · exact (h.placed other waits).only j x before same some }
    same := h.same }

/-- The turn of an action begins that has no entry yet. -/
theorem begin (h : Entries known reports items) (new : id ∉ known) :
    OpenEntries (known ++ [id]) id reports items where
  reported x listed := List.mem_append_left _ (h.reported x listed)
  consistent := h.consistent
  unique := h.unique
  placed := h.placed
  same := h.same
  mine := List.mem_append_right _ (List.mem_singleton_self _)
  fresh x listed mine := absurd (mine ▸ h.reported x listed) new
  others item member mine := by
    obtain ⟨x, at_i, same⟩ := Option.map_eq_some_iff.mp (h.placed item member).mine
    exact new (mine ▸ same ▸ h.reported x (List.mem_of_getElem? at_i))

end Entries

namespace OpenEntries

/-- An entry without a result. -/
theorem append (h : OpenEntries known id reports items) (mine : r.actionId = id)
    (none : r.result = none) (consistent : r.Consistent) :
    OpenEntries known id (reports ++ [r]) items where
  toEntries := h.toEntries.append (mine ▸ h.mine) consistent (by simp [none]) (by simp [none])
  mine := h.mine
  fresh x listed same := by
    rcases List.mem_append.mp listed with old | now
    · exact h.fresh x old same
    · exact List.mem_singleton.mp now ▸ none
  others := h.others

theorem amend (h : OpenEntries known id reports items) (member : item ∈ items)
    (mine : r.actionId = item.action.actionId) (carries : r.result.isSome = true)
    (consistent : r.Consistent) : OpenEntries known id (reports.set item.reportIndex r) items where
  toEntries := h.toEntries.amend member mine carries consistent
  mine := h.mine
  fresh x listed same := by
    rcases List.mem_or_eq_of_mem_set listed with before | rfl
    · exact h.fresh x before same
    · exact absurd (mine.symm.trans same) (h.others item member)
  others := h.others

theorem discharge (h : OpenEntries known id reports items) : OpenEntries known id reports [] where
  toEntries := h.toEntries.discharge
  mine := h.mine
  fresh := h.fresh
  others _ member := absurd member List.not_mem_nil

theorem noted (h : OpenEntries known id s.reports s.sideEffectsMayHaveOccurred) : NotedEntries known id s :=
  ⟨_, h, .inl rfl⟩

/-- The provider of the action returned. -/
theorem note {a : AgentAction} {c : Connector} {x : ExecutionResult}
    (h : OpenEntries known a.actionId s.reports s.sideEffectsMayHaveOccurred) :
    NotedEntries known a.actionId (noteExecuted a c x s) :=
  ⟨_, h, .inr ⟨⟨a, c, x, s.reports.length⟩, rfl, rfl, rfl⟩⟩

end OpenEntries

/-- The last entry of a turn. -/
theorem NotedEntries.append (h : NotedEntries known id s) (mine : r.actionId = id) (consistent : r.Consistent) :
    Entries known (s.reports ++ [r]) s.sideEffectsMayHaveOccurred := by
  obtain ⟨items, h, waits⟩ := h
  have appended : Entries known (s.reports ++ [r]) items :=
    h.toEntries.append (mine ▸ h.mine) consistent
      (fun _ x listed same => h.fresh x listed (same.trans mine))
      (fun _ item member same => h.others item member (same.trans mine))
  rcases waits with eq | ⟨item, item_id, next, eq⟩
  · rwa [eq]
  · rw [eq]
    have split : ∀ {x}, x ∈ items ++ [item] → x ∈ items ∨ x = item := by simp
    exact {
      reported := appended.reported
      consistent := appended.consistent
      unique := appended.unique
      placed := fun x member => by
        rcases split member with old | rfl
        · exact appended.placed x old
        · refine ⟨by simp [next, mine, item_id], fun j y at_j same carries => ?_⟩
          rcases getElem?_concat at_j with before | ⟨now, -⟩
          · rw [h.fresh y (List.mem_of_getElem? before) (same.trans item_id)] at carries
            cases carries
          · exact now.trans next.symm
      same := fun x member y member' same => by
        rcases split member with old | rfl <;> rcases split member' with old' | rfl
        · exact appended.same x old y old' same
        · exact absurd (same.trans item_id) (h.others x old)
        · exact absurd (same.symm.trans item_id) (h.others y old')
        · rfl }

/-! ## Procedures that keep an assertion -/

section
variable {A : Type} {I X M : RunState → Prop} {J : A → RunState → Prop}

theorem keeps_perform {c : Call} : Proc.Keeps I (perform c) :=
  Proc.Keeps.bind (Proc.Triple.call fun _ _ start => start) fun _ => Proc.Keeps.lift

theorem triple_catching {catches : ExnKind → Bool} {body : Orchestration A}
    {handler : Exn → Orchestration A} (runs : Proc.Triple I body J M)
    (handled : ∀ e, Proc.Triple M (handler e) J X) (escapes : ∀ s, M s → X s) :
    Proc.Triple I (catching catches body handler) J X := by
  refine Proc.Triple.tryCatch runs fun e => ?_
  split
  · exact handled e
  · exact Proc.Triple.throw escapes

theorem keeps_catching {catches : ExnKind → Bool} {body : Orchestration A}
    {handler : Exn → Orchestration A} (runs : Proc.Keeps I body)
    (handled : ∀ e, Proc.Keeps I (handler e)) : Proc.Keeps I (catching catches body handler) :=
  triple_catching runs handled fun _ kept => kept

end

/-! ## Compensation passes -/

/-- What a compensation pass does to the entries keeps the assertion. -/
structure Passable (I : List ActionReport → List ExecutedAction → Prop) : Prop where
  amend : ∀ {reports items item r}, I reports items → item ∈ items →
    r.actionId = item.action.actionId → r.result.isSome = true → r.Consistent →
    I (reports.set item.reportIndex r) items
  discharge : ∀ {reports items}, I reports items → I reports []

theorem Entries.passable : Passable (Entries known) where
  amend h member mine carries consistent := h.amend member mine carries consistent
  discharge h := h.discharge

theorem OpenEntries.passable : Passable (OpenEntries known id) where
  amend h member mine carries consistent := h.amend member mine carries consistent
  discharge h := h.discharge

section
variable [Host] {o : WorkflowOrchestrator} {plan : ChangePlan} {dryRun : Bool}
  {I : List ActionReport → List ExecutedAction → Prop}

/-- The assertion, with the executed writes a pass goes through. -/
def During (I : List ActionReport → List ExecutedAction → Prop) (waiting : List ExecutedAction)
    (s : RunState) : Prop :=
  I s.reports s.sideEffectsMayHaveOccurred ∧ s.sideEffectsMayHaveOccurred = waiting

variable {waiting : List ExecutedAction}

omit [Host] in
/-- The entry of a waiting write is replaced by one that says what became of it. -/
theorem keeps_amend (passable : Passable I) (member : item ∈ waiting)
    (mine : r.actionId = item.action.actionId) (carries : r.result.isSome = true)
    (consistent : r.Consistent) :
    Proc.Keeps (During I waiting) (Proc.modify (·.amend item.reportIndex r) : Orchestration Unit) :=
  Proc.Keeps.modify fun _ waits =>
    ⟨passable.amend waits.1 (waits.2 ▸ member) mine carries consistent, waits.2⟩

theorem keeps_attemptCompensation (passable : Passable I) (member : item ∈ waiting) :
    Proc.Keeps (During I waiting) (attemptCompensation item) := by
  unfold attemptCompensation
  refine Proc.Keeps.bind Proc.Keeps.lift fun snapshot => Proc.Keeps.bind keeps_perform fun _ => ?_
  split
  · exact Proc.Keeps.throw
  refine Proc.Keeps.bind Proc.Keeps.lift fun _ => Proc.Keeps.bind keeps_perform fun _ =>
    Proc.Keeps.bind Proc.Keeps.lift fun _ => Proc.Keeps.bind Proc.Keeps.lift fun _ =>
    Proc.Keeps.bind keeps_perform fun _ => ?_
  split
  · exact Proc.Keeps.throw
  exact Proc.Keeps.bind (keeps_amend passable member rfl rfl ⟨fun _ => rfl, fun _ => rfl⟩)
    fun _ => keeps_perform

theorem keeps_compensateItem (passable : Passable I) (member : item ∈ waiting) :
    Proc.Keeps (During I waiting) (compensateItem item) := by
  have failed : ∀ message, Proc.Keeps (During I waiting) (Proc.modify
      (·.amend item.reportIndex (compensationFailedReport item message)) : Orchestration Unit) :=
    fun message => keeps_amend passable member rfl rfl ⟨fun _ => rfl, fun _ => rfl⟩
  have recorded : Proc.Keeps (During I waiting) (recordAmended item) := by
    unfold recordAmended
    refine Proc.Triple.get fun s₀ waits => ?_
    split
    · exact Proc.Keeps.triple keeps_perform (fun _ _ same => same ▸ waits) fun _ same =>
        same ▸ waits
    · exact Proc.Triple.throw fun _ same => same ▸ waits
  unfold compensateItem
  split
  · exact Proc.Keeps.bind (failed _) fun _ => recorded
  · exact Proc.Keeps.bind (keeps_catching (keeps_attemptCompensation passable member)
      fun e => failed _) fun _ => recorded

theorem keeps_maybeCompensate (passable : Passable I) :
    Proc.Keeps (fun s => I s.reports s.sideEffectsMayHaveOccurred)
      (maybeCompensate plan dryRun) := by
  unfold maybeCompensate
  refine Proc.Triple.get fun s₀ holds => ?_
  split
  · exact Proc.Triple.pure fun s same => same ▸ holds
  -- the executed writes stay the same until the pass is over
  have start : ∀ s, s = s₀ → During I s₀.sideEffectsMayHaveOccurred s := by
    rintro s rfl
    exact ⟨holds, rfl⟩
  have ended : ∀ s, During I s₀.sideEffectsMayHaveOccurred s →
      I s.reports s.sideEffectsMayHaveOccurred := fun s waits => waits.1
  have calls : ∀ c, Proc.Keeps (During I s₀.sideEffectsMayHaveOccurred) (perform c) :=
    fun c => keeps_perform
  have rounds : Proc.Keeps (During I s₀.sideEffectsMayHaveOccurred)
      (Proc.each compensateItem s₀.sideEffectsMayHaveOccurred.reverse) :=
    Proc.Keeps.each fun item member => keeps_compensateItem passable (List.mem_reverse.mp member)
  refine Proc.Triple.mono ?_ start (fun _ _ kept => kept) (fun _ kept => kept)
  refine Proc.Triple.bind ((calls _).triple (fun _ _ waits => waits) ended) fun _ => ?_
  refine Proc.Triple.bind (rounds.triple (fun _ _ waits => waits) ended) fun _ => ?_
  refine Proc.Triple.get fun s waits => ?_
  refine Proc.Triple.mono ?_ (fun _ same => same ▸ waits) (fun _ _ kept => kept)
    (fun _ kept => kept)
  refine Proc.Triple.bind ((calls _).triple (fun _ _ waits => waits) ended) fun _ => ?_
  have cleared : Proc.Triple (During I s₀.sideEffectsMayHaveOccurred)
      (Proc.modify fun s => { s with sideEffectsMayHaveOccurred := [] } : Orchestration Unit)
      (fun _ s => I s.reports s.sideEffectsMayHaveOccurred)
      (fun s => I s.reports s.sideEffectsMayHaveOccurred) :=
    Proc.Triple.modify fun s waits => passable.discharge (ended s waits)
  exact Proc.Triple.bind cleared fun _ => Proc.Triple.pure fun _ kept => kept

end

/-! ## Before the provider is called -/

/-- What holds in the turn of an action until its provider returns. -/
def OpenIn (known : List Uuid) (id : Uuid) (s : RunState) : Prop :=
  OpenEntries known id s.reports s.sideEffectsMayHaveOccurred

/-- The states of an action that has no result. -/
def ActionState.isBare : ActionState → Bool
  | verified | compensated | compensationFailed => false
  | _ => true

theorem plainReport_consistent {a : AgentAction} {state : ActionState} (bare : state.isBare = true)
    {message : String} : (plainReport a state message).Consistent := by
  refine ⟨nofun, ?_⟩
  rintro (verified | rolled)
  · have verified : state = .verified := verified
    rw [verified] at bare
    cases bare
  · have rolled : state.isRolledBack = true := rolled
    revert bare rolled
    cases state <;> simp [ActionState.isBare, ActionState.isRolledBack]

section
variable [Host] {o : WorkflowOrchestrator} {plan : ChangePlan} {approvals : List Approval}
  {dryRun coherence compensates : Bool} {a : AgentAction} {c : Connector} {state : ActionState}
  {message : String} {prior : Option Fields}

theorem keeps_concludePlain (bare : state.isBare = true) :
    Proc.Keeps (OpenIn known a.actionId)
      (conclude plan dryRun compensates a (plainReport a state message) prior) := by
  unfold conclude recordAction
  refine Proc.Keeps.bind (Proc.Keeps.modify fun s isOpen =>
    OpenEntries.append isOpen rfl rfl (plainReport_consistent bare)) fun _ => ?_
  refine Proc.Keeps.bind keeps_perform fun _ => ?_
  split
  · exact Proc.Keeps.bind (keeps_maybeCompensate OpenEntries.passable) fun _ =>
      Proc.Keeps.modify fun _ isOpen => isOpen
  · exact Proc.Keeps.pure

theorem keeps_refuse (bare : state.isBare = true) :
    Proc.Keeps (OpenIn known a.actionId) (refuse plan dryRun a state message) :=
  keeps_concludePlain bare

theorem keeps_screen :
    Proc.Keeps (OpenIn known a.actionId) (screen o plan approvals dryRun coherence a) := by
  have refused : ∀ {state message}, state.isBare = true → Proc.Keeps (OpenIn known a.actionId)
      (refuse plan dryRun a state message >>= fun _ => pure false) :=
    fun bare => Proc.Keeps.bind (keeps_refuse bare) fun _ => Proc.Keeps.pure
  have concluded : ∀ {state message}, state.isBare = true → Proc.Keeps (OpenIn known a.actionId)
      (conclude plan dryRun false a (plainReport a state message) none >>= fun _ => pure false) :=
    fun bare => Proc.Keeps.bind (keeps_concludePlain bare) fun _ => Proc.Keeps.pure
  unfold screen
  refine Proc.Keeps.bind Proc.Keeps.lift fun ⟨catalogOk, catalogReason⟩ => ?_
  dsimp only
  split
  · exact refused rfl
  split
  · refine Proc.Keeps.bind Proc.Keeps.lift fun ⟨sourceOk, sourceReason⟩ => ?_
    dsimp only
    split <;> exact concluded rfl
  refine Proc.Triple.get fun s isOpen => Proc.Triple.mono ?_ (fun _ same => same ▸ isOpen)
    (fun _ _ kept => kept) (fun _ kept => kept)
  split
  · exact concluded rfl
  refine Proc.Keeps.bind Proc.Keeps.lift fun ⟨sourceOk, sourceReason⟩ => ?_
  dsimp only
  split
  · exact refused rfl
  refine Proc.Keeps.bind Proc.Keeps.lift fun minimum => Proc.Keeps.bind keeps_perform fun now =>
    Proc.Keeps.bind Proc.Keeps.lift fun decision => ?_
  split
  · exact refused (by split <;> rfl)
  split
  · exact concluded rfl
  · exact Proc.Keeps.pure

/-! ### Reservations -/

theorem keeps_validateExecutionContract {I : RunState → Prop} :
    Proc.Keeps I (validateExecutionContract o plan a c) := by
  unfold validateExecutionContract
  split
  · exact Proc.Keeps.pure
  refine Proc.Keeps.bind Proc.Keeps.lift fun _ => ?_
  dsimp only
  split
  · exact Proc.Keeps.pure
  split
  · exact Proc.Keeps.pure
  · exact keeps_perform

theorem keeps_providerDataEgressBinding {I : RunState → Prop} :
    Proc.Keeps I (providerDataEgressBinding o a c) := by
  unfold providerDataEgressBinding
  split
  · exact Proc.Keeps.pure
  split
  · split
    · exact Proc.Keeps.pure
    · exact Proc.Keeps.throw
  refine Proc.Keeps.bind Proc.Keeps.lift fun _ => ?_
  split
  · exact Proc.Keeps.pure
  split
  · exact Proc.Keeps.throw
  split
  · exact Proc.Keeps.throw
  · exact Proc.Keeps.bind keeps_perform fun _ => Proc.Keeps.pure

theorem keeps_reuseCompleted {claim : IdempotencyClaim} :
    Proc.Keeps (OpenIn known a.actionId) (reuseCompleted plan a c claim) := by
  unfold reuseCompleted
  split
  · exact keeps_refuse rfl
  refine Proc.Keeps.bind ?_ fun outcome => ?_
  · unfold reverify
    exact keeps_catching (Proc.Keeps.bind keeps_perform fun _ => Proc.Keeps.pure)
      fun _ => Proc.Keeps.pure
  · split
    · exact keeps_refuse rfl
    · split
      · exact keeps_refuse rfl
      · exact keeps_concludePlain rfl

theorem keeps_reconcile {claim : IdempotencyClaim} {record : Fields} :
    Proc.Keeps (OpenIn known a.actionId) (reconcile plan a c claim record) := by
  unfold reconcile
  refine keeps_catching (Proc.Keeps.bind keeps_perform fun _ => ?_) fun _ => Proc.Keeps.pure
  split
  · exact Proc.Keeps.pure
  · exact Proc.Keeps.bind keeps_perform fun _ =>
      Proc.Keeps.bind (keeps_concludePlain rfl) fun _ => Proc.Keeps.pure

theorem keeps_reconcileIndeterminate {claim : IdempotencyClaim} :
    Proc.Keeps (OpenIn known a.actionId) (reconcileIndeterminate plan a c claim) := by
  unfold reconcileIndeterminate
  -- what is still pending decides whether the action is refused
  split
  · refine Proc.Keeps.bind Proc.Keeps.pure fun pending => ?_
    dsimp only
    split
    · exact Proc.Keeps.pure
    · exact keeps_refuse rfl
  · refine Proc.Keeps.bind keeps_reconcile fun pending => ?_
    dsimp only
    split
    · exact Proc.Keeps.pure
    · exact keeps_refuse rfl

theorem keeps_reserve : Proc.Keeps (OpenIn known a.actionId) (reserve plan a c) := by
  unfold reserve
  refine Proc.Keeps.bind keeps_perform fun claim => ?_
  have claimed : Proc.Keeps (OpenIn known a.actionId) (do
      Proc.modify fun s => { s with claimToken := claim.token }
      if claim.token = none then
        Proc.throw (runtimeError "idempotency claim omitted its token")
      else return true : Orchestration Bool) := by
    refine Proc.Keeps.bind (Proc.Keeps.modify fun _ isOpen => isOpen) fun _ => ?_
    split
    · exact Proc.Keeps.throw
    · exact Proc.Keeps.pure
  split
  · exact Proc.Keeps.bind keeps_reuseCompleted fun _ => Proc.Keeps.pure
  · exact Proc.Keeps.bind (keeps_refuse rfl) fun _ => Proc.Keeps.pure
  · exact Proc.Keeps.bind (keeps_refuse rfl) fun _ => Proc.Keeps.pure
  · exact Proc.Keeps.bind keeps_reconcileIndeterminate fun _ => Proc.Keeps.pure
  · exact claimed
  · exact claimed

theorem keeps_prepare : Proc.Keeps (OpenIn known a.actionId) (prepare o plan a) := by
  have authorized : ∀ c, Proc.Keeps (OpenIn known a.actionId) (authorizeEgress o plan a c) := by
    intro c
    unfold authorizeEgress
    exact keeps_catching
      (Proc.Keeps.bind keeps_providerDataEgressBinding fun _ => Proc.Keeps.pure)
      fun _ => Proc.Keeps.bind (keeps_refuse rfl) fun _ => Proc.Keeps.pure
  unfold prepare
  refine Proc.Keeps.bind Proc.Keeps.lift fun c => ?_
  refine Proc.Keeps.bind (Proc.Keeps.modify fun _ isOpen => isOpen) fun _ => ?_
  refine Proc.Keeps.bind keeps_validateExecutionContract fun ⟨executionOk, executionReason⟩ => ?_
  dsimp only
  split
  · exact Proc.Keeps.bind (keeps_refuse rfl) fun _ => Proc.Keeps.pure
  refine Proc.Keeps.bind (authorized c) fun bound => ?_
  split
  · exact Proc.Keeps.pure
  next egress =>
    refine Proc.Keeps.bind (Proc.Keeps.modify fun _ isOpen => isOpen) fun _ => ?_
    have rest : Proc.Keeps (OpenIn known a.actionId) (do
        let _ ← Proc.lift (connectorHttpActionBudget c)
        if usesIdempotency a then
          if ← reserve plan a c then
            if o.preEffectGuard then perform (.preEffectGuard a)
            return some c
          else return none
        else return some c : Orchestration (Option Connector)) := by
      refine Proc.Keeps.bind Proc.Keeps.lift fun _ => ?_
      split
      · refine Proc.Keeps.bind keeps_reserve fun held => ?_
        split
        · split
          · exact Proc.Keeps.bind keeps_perform fun _ => Proc.Keeps.pure
          · exact Proc.Keeps.pure
        · exact Proc.Keeps.pure
      · exact Proc.Keeps.pure
    split
    · exact rest
    · exact Proc.Keeps.bind keeps_perform fun _ => rest

/-! ## Once the provider returned -/

/-- The provider of the action returned, and what it returned is kept. -/
def Returned (known : List Uuid) (id : Uuid) (s : RunState) : Prop :=
  NotedEntries known id s ∧ s.result.isSome = true

/-- The entry an attempt ends with. -/
structure Ending (a : AgentAction) (r : ActionReport) : Prop where
  mine : r.actionId = a.actionId
  consistent : r.Consistent
  attempted : r.state.isRolledBack = false

omit [Host] in
/-- An entry of a state that says nothing of a result the action does not have. -/
theorem Ending.of_state {r : ActionReport} (mine : r.actionId = a.actionId)
    (executed : r.result.isSome = true → r.state.isOutcome = true)
    (unverified : r.state ≠ .verified) (attempted : r.state.isRolledBack = false) : Ending a r where
  mine := mine
  consistent := ⟨executed, fun carried => carried.elim (absurd · unverified) fun rolled => by
    rw [attempted] at rolled
    cases rolled⟩
  attempted := attempted

theorem triple_dispatch : Proc.Triple (OpenIn known a.actionId) (dispatch a c)
    (fun _ => Returned known a.actionId) (NotedEntries known a.actionId) := by
  -- nothing is noted before the result was copied
  let Back (s : RunState) : Prop := OpenIn known a.actionId s ∧ s.result.isSome = true
  have noted : ∀ s, Back s → NotedEntries known a.actionId s := fun s back => OpenEntries.noted back.1
  have rest : ∀ r, Proc.Triple Back (do
      let copied ← Proc.lift (copyExecutionResult r)
      Proc.modify fun s => { s with result := some (.result copied) }
      if a.risk = .reversibleWrite then Proc.modify (noteExecuted a c copied)
      Proc.lift (validateExecutionResult a copied)
      return copied : Orchestration ExecutionResult)
      (fun _ => Returned known a.actionId) (NotedEntries known a.actionId) := by
    intro r
    have validated : ∀ copied, Proc.Triple (Returned known a.actionId)
        (Proc.lift (validateExecutionResult a copied) >>= fun _ => pure copied :
          Orchestration ExecutionResult)
        (fun _ => Returned known a.actionId) (NotedEntries known a.actionId) := fun copied =>
      Proc.Triple.bind (Proc.Keeps.lift.triple (fun _ _ back => back) fun _ back => back.1)
        fun _ => Proc.Triple.pure fun _ back => back
    refine Proc.Triple.bind (Proc.Keeps.lift.triple (fun _ _ back => back) noted) fun copied => ?_
    have kept : Proc.Triple Back
        (Proc.modify fun s => { s with result := some (.result copied) } : Orchestration Unit)
        (fun _ => Back) (NotedEntries known a.actionId) := Proc.Triple.modify fun s back => ⟨back.1, rfl⟩
    refine Proc.Triple.bind kept fun _ => ?_
    split
    · have note : Proc.Triple Back (Proc.modify (noteExecuted a c copied) : Orchestration Unit)
          (fun _ => Returned known a.actionId) (NotedEntries known a.actionId) :=
        Proc.Triple.modify fun s back => ⟨OpenEntries.note back.1, back.2⟩
      exact Proc.Triple.bind note fun _ => validated copied
    · exact Proc.Triple.mono (validated copied) (fun s back => ⟨noted s back, back.2⟩)
        (fun _ _ back => back) fun _ noted => noted
  unfold dispatch
  refine Proc.Triple.bind (keeps_perform.triple (fun _ _ isOpen => isOpen)
    fun _ isOpen => OpenEntries.noted isOpen) fun outcome => ?_
  have stored : Proc.Triple (OpenIn known a.actionId)
      (Proc.modify fun s => { s with result := some outcome } : Orchestration Unit)
      (fun _ => Back) (NotedEntries known a.actionId) := Proc.Triple.modify fun s isOpen => ⟨isOpen, rfl⟩
  refine Proc.Triple.bind stored fun _ => ?_
  split
  · exact Proc.Triple.throw noted
  · by_cases idempotent : usesIdempotency a = true
    · simp only [if_pos idempotent]
      exact Proc.Triple.bind (keeps_perform.triple (fun _ _ back => back) noted) fun _ => rest _
    · simp only [if_neg idempotent]
      exact rest _

omit [Host] in
theorem keeps_idempotencyRecord {I : RunState → Prop} {connector : Option Connector}
    {x : ExecutionOutcome} : Proc.Keeps I (idempotencyRecord connector a x) := by
  have asked : ∀ c : Connector, Proc.Keeps I (connectorRecord c a x) := by
    intro c
    unfold connectorRecord
    exact keeps_catching (Proc.Keeps.bind keeps_perform fun _ =>
      Proc.Keeps.bind Proc.Keeps.lift fun _ => Proc.Keeps.pure) fun _ => Proc.Keeps.pure
  unfold idempotencyRecord
  -- what is recorded decides whether a summary is asked for
  split
  · refine Proc.Keeps.bind Proc.Keeps.pure fun recorded => ?_
    dsimp only
    split
    · exact Proc.Keeps.pure
    · exact keeps_perform
  · refine Proc.Keeps.bind (asked _) fun recorded => ?_
    dsimp only
    split
    · exact Proc.Keeps.pure
    · exact keeps_perform

theorem keeps_persistIdempotencyOutcome {I : RunState → Prop} {preEffect : Bool} :
    Proc.Keeps I (persistIdempotencyOutcome o a preEffect message) := by
  unfold persistIdempotencyOutcome
  refine Proc.Triple.get fun s₀ holds => Proc.Triple.mono ?_ (fun _ same => same ▸ holds)
    (fun _ _ kept => kept) (fun _ kept => kept)
  split
  · exact Proc.Keeps.pure
  next token _ =>
    have written : ∀ outcome, Proc.Keeps I (catching ExnKind.persistenceCatches
        (do
          if preEffect then perform (.failAction a token outcome)
          else perform (.markActionIndeterminate a token outcome)
          return true)
        (fun _ => return false)) := by
      intro outcome
      refine keeps_catching ?_ fun _ => Proc.Keeps.pure
      split
      · exact Proc.Keeps.bind keeps_perform fun _ => Proc.Keeps.pure
      · exact Proc.Keeps.bind keeps_perform fun _ => Proc.Keeps.pure
    dsimp only
    split
    · exact Proc.Keeps.bind Proc.Keeps.pure written
    · exact Proc.Keeps.bind keeps_idempotencyRecord fun _ =>
        Proc.Keeps.bind Proc.Keeps.pure written

theorem keeps_recheckEgress {r : ExecutionResult} {egress : EgressBinding} :
    Proc.Keeps (Returned known a.actionId) (recheckEgress o plan a c r egress) := by
  have sanitized : Proc.Keeps (Returned known a.actionId) (do
      let sanitized ← perform (.sanitizeProviderResult a r egress)
      Proc.modify fun s => { s with result := some (.result sanitized) }
      return none : Orchestration (Option Exn)) :=
    Proc.Keeps.bind keeps_perform fun _ =>
      Proc.Keeps.bind (Proc.Keeps.modify fun _ back => ⟨back.1, rfl⟩) fun _ => Proc.Keeps.pure
  have bound : Proc.Keeps (Returned known a.actionId) (do
      let rechecked ← providerDataEgressBinding o a c
      if rechecked.map EgressBinding.fingerprint ≠ some egress.fingerprint then
        Proc.throw (configurationError
          "provider-data egress binding changed before result return")
      let sanitized ← perform (.sanitizeProviderResult a r egress)
      Proc.modify fun s => { s with result := some (.result sanitized) }
      return none : Orchestration (Option Exn)) := by
    refine Proc.Keeps.bind keeps_providerDataEgressBinding fun _ => ?_
    split
    · exact Proc.Keeps.bind Proc.Keeps.throw fun _ => sanitized
    · exact sanitized
  unfold recheckEgress
  refine keeps_catching (Proc.Keeps.bind keeps_validateExecutionContract
    fun ⟨executionOk, executionReason⟩ => ?_) fun _ => Proc.Keeps.pure
  by_cases refused : ¬executionOk = true
  · simp only [if_pos refused]
    exact Proc.Keeps.bind Proc.Keeps.throw fun _ => bound
  · simp only [if_neg refused]
    exact bound

theorem triple_concludeVerified {r : ExecutionResult} {verification : VerificationResult} :
    Proc.Triple (Returned known a.actionId) (concludeVerified o plan a c r verification)
      (fun entry s => NotedEntries known a.actionId s ∧ Ending a entry)
      (NotedEntries known a.actionId) := by
  have noted : ∀ s, Returned known a.actionId s → NotedEntries known a.actionId s :=
    fun s back => back.1
  unfold concludeVerified
  refine Proc.Triple.get fun s₀ back => Proc.Triple.mono ?_ (fun _ same => same ▸ back)
    (fun _ _ kept => kept) (fun _ kept => kept)
  have concluded : ∀ withheld : Option Exn, Proc.Triple (Returned known a.actionId) (do
      let s ← Proc.get
      let report : ActionReport := {
        actionId := a.actionId
        capability := a.capability
        state := if withheld.isSome then .failed else .verified
        message := if withheld.isSome then
            "provider-data egress binding changed before result return"
          else if s.egress.isSome then "provider read independently verified"
          else verification.message
        result := if withheld.isSome then none else s.result
        compensation := none
        egress := s.egress }
      if usesIdempotency a then
        let record ← idempotencyRecord (some c) a (s.result.getD .invalid)
        perform (.completeAction a (s.claimToken.getD "") record)
      return report : Orchestration ActionReport)
      (fun entry s => NotedEntries known a.actionId s ∧ Ending a entry)
      (NotedEntries known a.actionId) := by
    intro withheld
    refine Proc.Triple.get fun s back => Proc.Triple.mono ?_ (fun _ same => same ▸ back.1)
      (fun _ _ kept => kept) (fun _ kept => kept)
    have recorded : ∀ entry, Ending a entry → Proc.Triple (NotedEntries known a.actionId) (do
        if usesIdempotency a then
          let record ← idempotencyRecord (some c) a (s.result.getD .invalid)
          perform (.completeAction a (s.claimToken.getD "") record)
        return entry : Orchestration ActionReport)
        (fun entry s => NotedEntries known a.actionId s ∧ Ending a entry)
        (NotedEntries known a.actionId) := by
      intro entry ending
      split
      · exact Proc.Triple.bind keeps_idempotencyRecord fun _ =>
          Proc.Triple.bind keeps_perform fun _ => Proc.Triple.pure fun _ noted => ⟨noted, ending⟩
      · exact Proc.Triple.pure fun _ noted => ⟨noted, ending⟩
    refine recorded _ ?_
    cases withheld with
    | some e => exact .of_state rfl nofun nofun rfl
    | none => exact ⟨rfl, ⟨fun _ => rfl, fun _ => back.2⟩, rfl⟩
  cases s₀.egress with
  | none => exact Proc.Triple.bind (Proc.Triple.pure fun _ back => back) concluded
  | some egress =>
      exact Proc.Triple.bind (keeps_recheckEgress.triple (fun _ _ back => back) noted) concluded

/-- What an attempt leaves: an open turn if the action was concluded, or an entry to end it. -/
def AttemptOver (known : List Uuid) (a : AgentAction) (out : Option ActionReport)
    (s : RunState) : Prop :=
  match out with
  | none => OpenIn known a.actionId s
  | some r => NotedEntries known a.actionId s ∧ Ending a r

theorem triple_attempt : Proc.Triple (OpenIn known a.actionId) (attempt o plan a)
    (AttemptOver known a) (NotedEntries known a.actionId) := by
  have noted : ∀ s, Returned known a.actionId s → NotedEntries known a.actionId s :=
    fun s back => back.1
  unfold attempt
  refine Proc.Triple.bind (keeps_prepare.triple (fun _ _ isOpen => isOpen)
    fun _ isOpen => OpenEntries.noted isOpen) fun prepared => ?_
  split
  · exact Proc.Triple.pure fun _ isOpen => isOpen
  refine Proc.Triple.bind triple_dispatch fun r => ?_
  refine Proc.Triple.bind (Proc.Keeps.lift.triple (fun _ _ back => back) noted) fun snapshot => ?_
  refine Proc.Triple.bind (keeps_perform.triple (fun _ _ back => back) noted)
    fun verification => ?_
  split
  · refine Proc.Triple.bind (keeps_persistIdempotencyOutcome.triple (fun _ _ back => back) noted)
      fun persisted => ?_
    exact Proc.Triple.pure fun s back => ⟨back.1, .of_state rfl (fun _ => rfl) nofun rfl⟩
  · exact Proc.Triple.bind triple_concludeVerified fun entry =>
      Proc.Triple.pure fun s ending => ending

/-! ### Handlers -/

theorem triple_handlePreEffect {after : String} (bare : state.isFailure = true) :
    Proc.Triple (NotedEntries known a.actionId) (handlePreEffect o a state message after)
      (fun r s => NotedEntries known a.actionId s ∧ Ending a r) (fun _ => True) := by
  unfold handlePreEffect
  refine Proc.Triple.get fun s₀ noted => Proc.Triple.mono ?_ (fun _ same => same ▸ noted)
    (fun _ _ kept => kept) (fun _ kept => kept)
  let Unreturned (b : Bool) (s : RunState) : Prop :=
    NotedEntries known a.actionId s ∧ (b = true → s₀.result = none)
  have reported : ∀ persisted : Bool, Proc.Triple (Unreturned persisted)
      (pure ⟨a.actionId, a.capability, if persisted then state else .indeterminate,
        message ++ (if persisted then "" else if s₀.result.isSome then after
          else "; durable failure outcome could not be recorded"), s₀.result, none, none⟩ :
        Orchestration ActionReport)
      (fun r s => NotedEntries known a.actionId s ∧ Ending a r) (fun _ => True) := by
    rintro (_ | _)
    · exact Proc.Triple.pure fun s noted => ⟨noted.1, .of_state rfl (fun _ => rfl) nofun rfl⟩
    · refine Proc.Triple.pure fun s noted => ⟨noted.1, ?_⟩
      rw [noted.2 rfl]
      refine .of_state rfl nofun ?_ ?_
      · rintro rfl
        cases bare
      · revert bare
        show state.isFailure = true → state.isRolledBack = false
        cases state <;> simp [ActionState.isFailure, ActionState.isRolledBack]
  by_cases unclaimed : s₀.claimToken.isNone = true
  · simp only [if_pos unclaimed]
    exact Proc.Triple.bind (M := Unreturned) (Proc.Triple.pure fun s noted =>
      ⟨noted, fun unreturned => Option.isNone_iff_eq_none.mp unreturned⟩) reported
  · simp only [if_neg unclaimed]
    refine Proc.Triple.bind (keeps_persistIdempotencyOutcome.triple (fun _ _ noted => noted)
      fun _ _ => trivial) fun persisted => ?_
    exact Proc.Triple.bind (M := Unreturned) (Proc.Triple.pure fun s noted => ⟨noted,
      fun both => Option.isNone_iff_eq_none.mp ((Bool.and_eq_true _ _).mp both).1⟩) reported

theorem triple_handleUncertain {e : Exn} : Proc.Triple (NotedEntries known a.actionId)
    (handleUncertain o a e) (fun r s => NotedEntries known a.actionId s ∧ Ending a r)
    (fun _ => True) := by
  unfold handleUncertain
  refine Proc.Triple.bind (keeps_persistIdempotencyOutcome.triple (fun _ _ noted => noted)
    fun _ _ => trivial) fun persisted => ?_
  refine Proc.Triple.get fun s noted => Proc.Triple.pure fun s' same => ?_
  subst same
  refine ⟨noted, ?_⟩
  by_cases back : s'.result.isSome = true ∨ s'.claimToken.isSome = true
  · simp only [if_pos back]
    exact .of_state rfl (fun _ => rfl) nofun rfl
  · simp only [if_neg back]
    exact .of_state rfl (fun carries => absurd (.inl carries) back) nofun rfl

theorem triple_handle {e : Exn} : Proc.Triple (NotedEntries known a.actionId) (handle o a e)
    (AttemptOver known a) (fun _ => True) := by
  have ended : ∀ {p : Orchestration ActionReport}, Proc.Triple (NotedEntries known a.actionId) p
      (fun r s => NotedEntries known a.actionId s ∧ Ending a r) (fun _ => True) →
      Proc.Triple (NotedEntries known a.actionId) (some <$> p) (AttemptOver known a)
        (fun _ => True) := fun triple =>
    Proc.Triple.bind triple fun r => Proc.Triple.pure fun s ending => ending
  unfold handle
  split
  · exact ended (triple_handlePreEffect rfl)
  split
  · exact ended (triple_handlePreEffect rfl)
  split
  · exact ended triple_handleUncertain
  · exact Proc.Triple.throw fun _ _ => trivial

/-! ## The loop -/

/-- What holds between the turns of a run. -/
def EntriesIn (known : List Uuid) (s : RunState) : Prop :=
  Entries known s.reports s.sideEffectsMayHaveOccurred

omit [Host] in
theorem Ending.withheld {r : ActionReport} (h : Ending a r) (egress : Option EgressBinding) :
    Ending a (withheldReport egress r) := by
  unfold withheldReport
  split
  · next withheld => exact .of_state h.mine nofun withheld.2 h.attempted
  · exact h

theorem triple_settle : Proc.Triple (OpenIn known a.actionId) (settle o plan a)
    (fun _ => EntriesIn known) (fun _ => True) := by
  unfold settle
  refine Proc.Triple.bind (M := fun _ => OpenIn known a.actionId)
    (Proc.Triple.modify fun _ isOpen => isOpen) fun _ => ?_
  refine Proc.Triple.bind (Proc.Triple.tryCatch triple_attempt fun e => triple_handle)
    fun out => ?_
  cases out with
  | none => exact Proc.Triple.pure fun _ isOpen => OpenEntries.toEntries isOpen
  | some r =>
      refine Proc.Triple.get fun s₀ ended => Proc.Triple.mono ?_ (fun _ same => same ▸ ended)
        (fun _ _ kept => kept) (fun _ kept => kept)
      unfold conclude recordAction
      refine Proc.Triple.bind (M := fun _ => EntriesIn known) (Proc.Triple.modify fun s ended =>
        ended.1.append (ended.2.withheld _).mine (ended.2.withheld _).consistent) fun _ => ?_
      refine Proc.Triple.bind (keeps_perform.triple (fun _ _ kept => kept) fun _ _ => trivial)
        fun _ => ?_
      split
      · refine Proc.Triple.bind ((keeps_maybeCompensate Entries.passable).triple
          (fun _ _ kept => kept) fun _ _ => trivial) fun _ => ?_
        exact Proc.Triple.modify fun _ kept => kept
      · exact Proc.Triple.pure fun _ kept => kept

/-- The turn of an action that has no entry yet. -/
theorem triple_processAction (new : a.actionId ∉ known) : Proc.Triple (EntriesIn known)
    (processAction o plan approvals dryRun coherence a)
    (fun _ => EntriesIn (known ++ [a.actionId])) (fun _ => True) := by
  have ended : ∀ s, OpenIn (known ++ [a.actionId]) a.actionId s →
      EntriesIn (known ++ [a.actionId]) s := fun s isOpen => OpenEntries.toEntries isOpen
  unfold processAction
  refine Proc.Triple.get fun s₀ kept => Proc.Triple.mono ?_
    (fun s same => (Entries.begin (same ▸ kept) new : OpenIn (known ++ [a.actionId]) a.actionId s))
    (fun _ _ kept => kept) (fun _ kept => kept)
  split
  · exact (keeps_concludePlain rfl).triple (fun _ s isOpen => ended s isOpen) fun _ _ => trivial
  · refine Proc.Triple.bind (keeps_screen.triple (fun _ _ isOpen => isOpen) fun _ _ => trivial)
      fun passed => ?_
    split
    · exact triple_settle
    · exact Proc.Triple.pure fun s isOpen => ended s isOpen

/-- A run that returns met every action of its plan. -/
theorem triple_run {runId : Uuid} : Proc.Triple (EntriesIn []) (run o runId plan approvals dryRun)
    (fun report s => report.actions = s.reports ∧ ∃ ordered : List AgentAction,
      ordered.Perm plan.actions ∧ EntriesIn (ordered.map (·.actionId)) s) (fun _ => True) := by
  have call : ∀ c, Proc.Triple (EntriesIn []) (perform c) (fun _ => EntriesIn []) (fun _ => True) :=
    fun c => keeps_perform.triple (fun _ _ kept => kept) fun _ _ => trivial
  have check : ∀ {B : Type} (x : Except Exn B), Proc.Triple (EntriesIn [])
      (Proc.lift x : Orchestration B) (fun b s => x = .ok b ∧ EntriesIn [] s) (fun _ => True) :=
    fun x => Proc.Triple.lift (fun _ found _ kept => ⟨found, kept⟩) fun _ _ => trivial
  unfold run
  generalize taken : plan.executionSnapshot = taking
  refine Proc.Triple.bind (check taking) fun snapshot => Proc.Triple.fact fun ok => ?_
  obtain rfl := ChangePlan.executionSnapshot_eq (taken.trans ok)
  refine Proc.Triple.bind (call _) fun _ => Proc.Triple.bind (call _) fun _ =>
    Proc.Triple.bind (check _) fun _ => Proc.Triple.fact fun _ => Proc.Triple.bind (call _) fun _ =>
    Proc.Triple.bind (check _) fun coherence => Proc.Triple.fact fun _ =>
    Proc.Triple.bind (check _) fun ordered => Proc.Triple.fact fun found =>
    Proc.Triple.bind (call _) fun _ => ?_
  have perm : ordered.Perm snapshot.actions := by
    obtain ⟨order, sorted, perm, -⟩ := snapshot.topologicalOrder_spec
    rw [sorted] at found
    exact Except.ok.inj found ▸ perm
  have nodup : (ordered.map (·.actionId)).Nodup := (perm.map _).nodup_iff.mpr snapshot.ids_nodup
  have loop : Proc.Triple (EntriesIn []) (Proc.each
      (processAction o snapshot approvals dryRun coherence) ordered)
      (fun _ => EntriesIn (ordered.map (·.actionId))) (fun _ => True) := by
    refine Proc.Triple.each (L := fun met : List AgentAction => EntriesIn (met.map (·.actionId)))
      fun met a rest split => ?_
    rw [List.map_append]
    refine triple_processAction fun again => ?_
    rw [split, List.map_append] at nodup
    exact (List.nodup_append.mp nodup).2.2 _ again _ List.mem_cons_self rfl
  refine Proc.Triple.bind loop fun _ => Proc.Triple.get fun s₀ kept => ?_
  have read : ∀ s, s = s₀ → s₀.reports = s.reports ∧ ∃ ordered : List AgentAction,
      ordered.Perm snapshot.actions ∧ EntriesIn (ordered.map (·.actionId)) s := by
    rintro s rfl
    exact ⟨rfl, ordered, perm, kept⟩
  refine Proc.Triple.bind (keeps_perform.triple (fun _ _ same => same) fun _ _ => trivial)
    fun review => ?_
  refine Proc.Triple.bind (keeps_perform.triple (fun _ _ same => same) fun _ _ => trivial)
    fun _ => ?_
  exact Proc.Triple.pure read

end

-- a run is not to be unfolded to see what is proved of it
attribute [local irreducible] Proc.wp

section
variable [Host] {o : WorkflowOrchestrator} {plan : ChangePlan} {approvals : List Approval}
  {dryRun : Bool}

/-- The report of a run has entries of actions of the plan only, and at most one of an action carries
a result. -/
theorem run_entries {runId : Uuid} {report : RunReport} {t : Trace}
    (reached : Prog.Reaches (run o runId plan approvals dryRun RunState.initial) t
      (.ret (.ok report, s))) :
    ∃ known, (∀ id ∈ known, ∃ a ∈ plan.actions, a.actionId = id) ∧
      Entries known report.actions [] := by
  have started : EntriesIn [] RunState.initial := Entries.initial
  obtain ⟨same, ordered, perm, kept⟩ := Proc.post_of_reaches (triple_run _ [] started) reached
  refine ⟨ordered.map (·.actionId), fun id listed => ?_, ?_⟩
  · obtain ⟨a, member, rfl⟩ := List.mem_map.mp listed
    exact ⟨a, perm.mem_iff.mp member, rfl⟩
  · rw [same]
    exact Entries.discharge kept

end

end MasterAgent
