import MasterAgent.Orchestrator.Trace

/-!
# What a run keeps

Three invariants, over different parts of the state:

* `Ledger`: what was executed, and the reservations behind the executed writes;
* `Books`: what the reports say about the executed actions;
* `Progress`: the states the dependencies of later actions are checked against.

`done` are the actions whose turn is over, and `current` is the action whose turn it is, if any.

Results: what one event, one appended report and one amended report do to each of them.
-/

namespace MasterAgent
open Base

/-- The states in which an executed reversible write is reported. -/
def ActionState.isOutcome : ActionState → Bool
  | verified | indeterminate | compensated | compensationFailed => true
  | _ => false

/-- The states a compensation pass reports. -/
def ActionState.isRolledBack : ActionState → Bool
  | compensated | compensationFailed => true
  | _ => false

/-- The action may be relied on. -/
def Succeeded (states : Uuid → Option ActionState) (id : Uuid) : Prop :=
  (states id).any ActionState.isDone = true

/-- The event belongs to a compensation pass. -/
def inPass (e : TraceEvent) : Prop := clears e ∨ ∃ b, compensates b e ∨ confirms b e

structure Ledger (known : List AgentAction) (items : List ExecutedAction) (t : Trace) : Prop where
  executed : ∀ b, Occurs (executes b) t → b ∈ known
  passed : Occurs inPass t → Occurs startsPass t
  undone : ∀ b, Occurs (confirms b) t → Occurs (executes b) t
  written : ∀ item ∈ items, item.action ∈ known ∧ item.action.risk = .reversibleWrite ∧
    Occurs (returns item.action) t
  nodup : (items.map (·.action)).Nodup
  held : ¬Occurs clears t → ∀ item ∈ items, holding t item.action.idempotencyKey ≠ none

section
variable [Host]

structure Books (plan : ChangePlan) (done current : List AgentAction)
    (reports : List ActionReport) (items : List ExecutedAction) (t : Trace) : Prop where
  reported : ∀ r ∈ reports, ∃ b ∈ done ++ current, b.actionId = r.actionId
  /-- An executed action whose turn it is has no report yet. -/
  unreported : ∀ a ∈ current, Occurs (executes a) t → ∀ r ∈ reports, r.actionId ≠ a.actionId
  /-- An executed write knows where its report is, or will be. -/
  indexed : ∀ item ∈ items,
    reports[item.reportIndex]?.map (·.actionId) = some item.action.actionId ∨
      item.action ∈ current ∧ item.reportIndex = reports.length
  accounted : Clean t → reports.map (·.actionId) = done.map (·.actionId)
  confirmed : Clean t → ∀ b, Occurs (confirms b) t →
    ∃ r ∈ reports, r.actionId = b.actionId ∧ r.state = .compensated
  /-- A verified write waits to be rolled back. -/
  verified : ∀ i r, reports[i]? = some r → r.state = .verified →
    ∀ b ∈ done ++ current, b.actionId = r.actionId → b.risk = .reversibleWrite →
      ∃ item ∈ items, item.action = b ∧ item.reportIndex = i
  outcome : ∀ b ∈ plan.actions, b.risk = .reversibleWrite → Occurs (returns b) t →
    ∀ r ∈ reports, r.actionId = b.actionId → r.state.isOutcome = true
  failing : ∀ r ∈ reports, r.state.isFailure = true → Occurs fails t

end

structure Progress [Host] (plan : ChangePlan) (known : List AgentAction)
    (states : Uuid → Option ActionState) : Prop where
  visited : ∀ b ∈ plan.actions, Succeeded states b.actionId → b ∈ known
  closed : ∀ b ∈ plan.actions, Succeeded states b.actionId →
    ∀ d ∈ b.dependencies, Succeeded states d

structure Inv [Host] (plan : ChangePlan) (done current : List AgentAction) (s : RunState)
    (t : Trace) : Prop where
  ledger : Ledger (done ++ current) s.sideEffectsMayHaveOccurred t
  books : Books plan done current s.reports s.sideEffectsMayHaveOccurred t
  progress : Progress plan (done ++ current) s.stateById

/-- It is the turn of an action: the actions it depends on had theirs, and none of them depends
on it. -/
structure Turn [Host] (plan : ChangePlan) (done : List AgentAction) (a : AgentAction) : Prop where
  member : a ∈ plan.actions
  past : done ⊆ plan.actions
  fresh : a ∉ done
  unneeded : ∀ b ∈ done ++ [a], a.actionId ∉ b.dependencies

/-! ## What a call needs -/

/-- The catalog accepted the connector, and its mode is that of the plan's execution context. -/
def ContractAccepted [Host] (o : WorkflowOrchestrator) (plan : ChangePlan) (a : AgentAction)
    (c : Connector) (t : Trace) : Prop :=
  match o.capabilities with
  | none => True
  | some catalog => ∃ definition, catalog.definition a.capability = .ok definition ∧
      (definition.authentication ≠ "local" → connectorMode plan = "mock" → c.isMock = true) ∧
      (definition.authentication ≠ "local" → connectorMode plan = "live" → c.isMock = false) ∧
      Occurs (accepts a c) t

/-- The checks an action passed before its attempt. -/
structure Screened [Host] (o : WorkflowOrchestrator) (plan : ChangePlan)
    (approvals : List Approval) (dryRun coherence : Bool) (a : AgentAction)
    (states : Uuid → Option ActionState) (t : Trace) : Prop where
  applied : dryRun = false
  coherent : coherence = false
  capability : ∃ reason, validateCapability o a = .ok (true, reason)
  dependencies : ∀ d ∈ a.dependencies, Succeeded states d
  sources : ∃ reason, validateSources o.sources plan a = .ok (true, reason)
  policy : ∃ minimum now decision, minimumApprovers o a = .ok minimum ∧ Occurs (reads now) t ∧
    o.policy.evaluate plan a approvals now minimum = .ok decision ∧ decision.permitted = true

/-- What mediates the call of a provider. -/
structure Mediated [Host] (o : WorkflowOrchestrator) (plan : ChangePlan)
    (approvals : List Approval) (dryRun coherence : Bool) (c : Connector) (a : AgentAction)
    (s : RunState) (t : Trace) : Prop
    extends Screened o plan approvals dryRun coherence a s.stateById t where
  planned : a ∈ plan.actions
  connector : resolveConnector o.connectors a.target.system a.capability = .ok c
  contract : ContractAccepted o plan a c t
  closed : ∀ b ∈ plan.actions, Succeeded s.stateById b.actionId →
    ∀ d ∈ b.dependencies, Succeeded s.stateById d
  first : ¬Occurs startsPass t
  once : ¬Occurs (executes a) t
  claim : usesIdempotency a = true → ∃ token, s.claimToken = some token ∧
    holding t a.idempotencyKey = some token ∧ FreshClaim a token t

/-- What each call of a run relies on. -/
def Allowed [Host] (o : WorkflowOrchestrator) (plan : ChangePlan) (approvals : List Approval)
    (dryRun coherence : Bool) (t : Trace) (s : RunState) : Call → Prop
  | .execute c a => Mediated o plan approvals dryRun coherence c a s t
  | .compensate _ a _ => Occurs (returns a) t ∧ (Clean t → ¬Occurs (compensates a) t)
  | .failAction a token _ => holding t a.idempotencyKey = some token ∧
      ¬Occurs (returns a) t ∧ (Occurs (executes a) t →
        Occurs (raises a .preEffect) t ∨ Occurs (raises a .versionConflict) t)
  | .completeAction a token _ | .markActionIndeterminate a token _ =>
      holding t a.idempotencyKey = some token
  | .clearCompleted a => Undone a t ∧ (¬Restarted t → holding t a.idempotencyKey ≠ none)
  | _ => True

/-! ## The ledger -/

namespace Ledger

variable {known : List AgentAction} {items : List ExecutedAction} {t : Trace} {e : TraceEvent}

/-- The actions of the executed writes were executed. -/
theorem item_executed (h : Ledger known items t) {item : ExecutedAction} (member : item ∈ items) :
    Occurs (executes item.action) t :=
  let ⟨e, at_e, returned⟩ := (h.written item member).2.2
  ⟨e, at_e, returns_executes returned⟩

/-- One more event. -/
theorem event (h : Ledger known items t) (runs : ∀ b, executes b e → b ∈ known)
    (passes : inPass e → Occurs startsPass t)
    (undoes : ∀ b, confirms b e → Occurs (executes b) t)
    (holds : ¬clears e → ∀ item ∈ items, ∀ token,
      holding t item.action.idempotencyKey = some token →
        holdStep item.action.idempotencyKey (some token) e ≠ none) :
    Ledger known items (t ++ [e]) where
  executed b h' := by
    rcases occurs_concat.mp h' with before | now
    · exact h.executed b before
    · exact runs b now
  passed h' := by
    rcases occurs_concat.mp h' with before | now
    · exact (h.passed before).append [e]
    · exact (passes now).append [e]
  undone b h' := by
    rcases occurs_concat.mp h' with before | now
    · exact (h.undone b before).append [e]
    · exact (undoes b now).append [e]
  written item member :=
    let ⟨known, reversible, returned⟩ := h.written item member
    ⟨known, reversible, returned.append [e]⟩
  nodup := h.nodup
  held clear item member := by
    rw [occurs_concat, not_or] at clear
    obtain ⟨token, eq⟩ := Option.ne_none_iff_exists'.mp (h.held clear.1 item member)
    rw [holding_concat, eq]
    exact holds clear.2 item member token eq

theorem ordinary (h : Ledger known items t) (ordinary : Ordinary e) :
    Ledger known items (t ++ [e]) := by
  refine h.event (fun b runs => absurd runs (ordinary.executes b)) ?_
    (fun b confirm => absurd confirm (ordinary.confirms b)) ?_
  · rintro (clear | ⟨b, undo | confirm⟩)
    · exact absurd clear ordinary.clears
    · exact absurd undo (ordinary.compensates b)
    · exact absurd confirm (ordinary.confirms b)
  · intro _ item _ token _
    rw [ordinary.holds]
    exact Option.some_ne_none token

theorem mono {known' : List AgentAction} (h : Ledger known items t) (sub : known ⊆ known') :
    Ledger known' items t where
  executed b h' := sub (h.executed b h')
  passed := h.passed
  undone := h.undone
  written item member :=
    let ⟨known, rest⟩ := h.written item member
    ⟨sub known, rest⟩
  nodup := h.nodup
  held := h.held

/-- One more executed write. -/
theorem note (h : Ledger known items t) {item : ExecutedAction} (new : ∀ i ∈ items,
    i.action ≠ item.action) (known_item : item.action ∈ known)
    (reversible : item.action.risk = .reversibleWrite) (returned : Occurs (returns item.action) t)
    (held : holding t item.action.idempotencyKey ≠ none) : Ledger known (items ++ [item]) t where
  executed := h.executed
  passed := h.passed
  undone := h.undone
  written i member := by
    rcases List.mem_append.mp member with old | same
    · exact h.written i old
    · obtain rfl := List.mem_singleton.mp same
      exact ⟨known_item, reversible, returned⟩
  nodup := by
    rw [List.map_append, List.map_singleton]
    refine List.nodup_append.mpr ⟨h.nodup, List.nodup_singleton _, ?_⟩
    rintro _ old _ same eq
    obtain ⟨i, member, rfl⟩ := List.mem_map.mp old
    exact new i member (eq.trans (List.mem_singleton.mp same))
  held clear i member := by
    rcases List.mem_append.mp member with old | same
    · exact h.held clear i old
    · obtain rfl := List.mem_singleton.mp same
      exact held

/-- The executed writes were rolled back. -/
theorem discharge (h : Ledger known items t) : Ledger known [] t where
  executed := h.executed
  passed := h.passed
  undone := h.undone
  written _ member := absurd member List.not_mem_nil
  nodup := List.nodup_nil
  held _ _ member := absurd member List.not_mem_nil

end Ledger

/-! ## The reports -/

namespace Books

variable [Host] {plan : ChangePlan} {done : List AgentAction} {a : AgentAction}
  {current : List AgentAction} {reports : List ActionReport} {items : List ExecutedAction}
  {t : Trace} {e : TraceEvent}

/-- One more event. -/
theorem event (h : Books plan done current reports items t)
    (runs : ∀ b ∈ current, executes b e → ∀ r ∈ reports, r.actionId ≠ b.actionId)
    (returned : ∀ b ∈ plan.actions, returns b e → ∀ r ∈ reports, r.actionId ≠ b.actionId)
    (confirm : ∀ b, ¬confirms b e) : Books plan done current reports items (t ++ [e]) where
  reported := h.reported
  unreported b member h' := by
    rcases occurs_concat.mp h' with before | now
    · exact h.unreported b member before
    · exact runs b member now
  indexed := h.indexed
  accounted clean := h.accounted (clean_concat.mp clean).1
  confirmed clean b h' := by
    rcases occurs_concat.mp h' with before | now
    · exact h.confirmed (clean_concat.mp clean).1 b before
    · exact absurd now (confirm b)
  verified := h.verified
  outcome b member reversible h' r listed same := by
    rcases occurs_concat.mp h' with before | now
    · exact h.outcome b member reversible before r listed same
    · exact absurd same (returned b member now r listed)
  failing r listed failure := (h.failing r listed failure).append [e]

theorem ordinary (h : Books plan done current reports items t) (ordinary : Ordinary e) :
    Books plan done current reports items (t ++ [e]) :=
  h.event (fun b _ runs => absurd runs (ordinary.executes b))
    (fun b _ returned => absurd (returns_executes returned) (ordinary.executes b)) ordinary.confirms

/-- The turn of an action that was not executed yet begins. -/
theorem begin (h : Books plan done [] reports items t) (new : ¬Occurs (executes a) t)
    (turn : Turn plan done a) : Books plan done [a] reports items t where
  reported r listed := by
    obtain ⟨b, member, same⟩ := h.reported r listed
    rw [List.append_nil] at member
    exact ⟨b, List.mem_append_left _ member, same⟩
  unreported b member runs := by
    obtain rfl := List.mem_singleton.mp member
    exact absurd runs new
  indexed item member := by
    rcases h.indexed item member with placed | ⟨none, -⟩
    · exact .inl placed
    · cases none
  accounted := h.accounted
  confirmed := h.confirmed
  verified i r at_i verified b member same reversible := by
    obtain ⟨c, known, eq⟩ := h.reported r (List.mem_of_getElem? at_i)
    rw [List.append_nil] at known
    have inside : b ∈ plan.actions := by
      rcases List.mem_append.mp member with old | now
      · exact turn.past old
      · exact List.mem_singleton.mp now ▸ turn.member
    obtain rfl := plan.action_inj inside (turn.past known) (same.trans eq.symm)
    exact h.verified i r at_i verified b (by simpa using known) same reversible
  outcome := h.outcome
  failing := h.failing

/-- One more executed write, to be reported next. -/
theorem note (h : Books plan done [a] reports items t) {item : ExecutedAction}
    (same : item.action = a) (next : item.reportIndex = reports.length) :
    Books plan done [a] reports (items ++ [item]) t where
  reported := h.reported
  unreported := h.unreported
  indexed i member := by
    rcases List.mem_append.mp member with old | now
    · exact h.indexed i old
    · obtain rfl := List.mem_singleton.mp now
      exact .inr ⟨by simp [same], next⟩
  accounted := h.accounted
  confirmed := h.confirmed
  verified i r at_i verified b member same reversible := by
    obtain ⟨item, waits, rest⟩ := h.verified i r at_i verified b member same reversible
    exact ⟨item, List.mem_append_left _ waits, rest⟩
  outcome := h.outcome
  failing := h.failing

/-- The action is reported, and what is reported of it goes on record. -/
theorem report (h : Books plan done [a] reports items t) (turn : Turn plan done a)
    {r : ActionReport} (mine : r.actionId = a.actionId)
    (waits : r.state = .verified → a.risk = .reversibleWrite →
      ∃ item ∈ items, item.action = a ∧ item.reportIndex = reports.length)
    (outcome : a.risk = .reversibleWrite → Occurs (returns a) t → r.state.isOutcome = true)
    {s : RunState} {prior : Option Fields} {answer : Except Exn Unit} :
    Books plan (done ++ [a]) [] (reports ++ [r]) items
      (t ++ [⟨(s, .record (.actionState a r prior)), answer⟩]) where
  reported r' listed := by
    rw [List.append_nil]
    rcases List.mem_append.mp listed with old | now
    · exact h.reported r' old
    · exact ⟨a, by simp, by rw [List.mem_singleton.mp now, mine]⟩
  unreported _ member := absurd member List.not_mem_nil
  indexed item member := by
    left
    rcases h.indexed item member with placed | ⟨now, next⟩
    · obtain ⟨r', at_i, -⟩ := Option.map_eq_some_iff.mp placed
      rw [List.getElem?_append_left (List.getElem?_eq_some_iff.mp at_i).1]
      exact placed
    · rw [next, List.getElem?_append_right le_rfl, Nat.sub_self, List.mem_singleton.mp now]
      exact congrArg some mine
  accounted clean := by
    rw [List.map_append, List.map_append, h.accounted (clean_concat.mp clean).1]
    exact congrArg _ (congrArg (fun id => [id]) mine)
  confirmed clean b h' := by
    rcases occurs_concat.mp h' with before | now
    · obtain ⟨r', listed, rest⟩ := h.confirmed (clean_concat.mp clean).1 b before
      exact ⟨r', List.mem_append_left _ listed, rest⟩
    · cases now
  verified i r' at_i verified b member same reversible := by
    rw [List.append_nil] at member
    rcases Nat.lt_or_ge i reports.length with old | now
    · rw [List.getElem?_append_left old] at at_i
      exact h.verified i r' at_i verified b member same reversible
    · rw [List.getElem?_append_right now] at at_i
      obtain ⟨inside, rfl⟩ := List.getElem?_eq_some_iff.mp at_i
      simp only [List.length_singleton, Nat.lt_one_iff] at inside
      simp only [List.getElem_singleton] at verified same
      have inside' : b ∈ plan.actions := by
        rcases List.mem_append.mp member with old | now
        · exact turn.past old
        · exact List.mem_singleton.mp now ▸ turn.member
      obtain rfl := plan.action_inj turn.member inside' (mine.symm.trans same.symm)
      rw [show i = reports.length by omega]
      exact waits verified reversible
  outcome b member reversible h' r' listed same := by
    have before : Occurs (returns b) t := (occurs_concat.mp h').resolve_right nofun
    rcases List.mem_append.mp listed with old | now
    · exact h.outcome b member reversible before r' old same
    · obtain rfl := List.mem_singleton.mp now
      obtain rfl := plan.action_inj turn.member member (mine.symm.trans same)
      exact outcome reversible before
  failing r' listed failure := by
    rcases List.mem_append.mp listed with old | now
    · exact (h.failing r' old failure).append _
    · obtain rfl := List.mem_singleton.mp now
      exact occurs_concat.mpr (.inr failure)

/-- The turn of an action that was reported goes on: something raised on the way. -/
theorem reopen (h : Books plan (done ++ [a]) [] reports items t) (raised : ¬Clean t)
    (new : ¬Occurs (executes a) t) : Books plan done [a] reports items t where
  reported := by simpa using h.reported
  unreported b member runs := by
    obtain rfl := List.mem_singleton.mp member
    exact absurd runs new
  indexed item member := by
    rcases h.indexed item member with placed | ⟨none, -⟩
    · exact .inl placed
    · cases none
  accounted clean := absurd clean raised
  confirmed clean := absurd clean raised
  verified := by simpa using h.verified
  outcome := h.outcome
  failing := h.failing

/-- The report of an executed write is replaced by what a compensation pass made of it. -/
theorem amend (h : Books plan done [] reports items t) {item : ExecutedAction}
    (member : item ∈ items) {r : ActionReport} (mine : r.actionId = item.action.actionId)
    (state : r.state.isRolledBack = true) {u : Trace}
    (same_returns : ∀ b, Occurs (returns b) u → Occurs (returns b) t)
    (same_fails : Occurs fails t → Occurs fails u) (clean : Clean u → Clean t)
    (confirm : Clean u → ∀ b, Occurs (confirms b) u →
      b.actionId = item.action.actionId ∧ r.state = .compensated ∨
        b.actionId ≠ item.action.actionId ∧ Occurs (confirms b) t) :
    Books plan done [] (reports.set item.reportIndex r) items u := by
  have placed : reports[item.reportIndex]?.map (·.actionId) = some item.action.actionId :=
    (h.indexed item member).resolve_right nofun
  obtain ⟨old, at_old, old_id⟩ := Option.map_eq_some_iff.mp placed
  have inside : item.reportIndex < reports.length := (List.getElem?_eq_some_iff.mp at_old).1
  -- amending a report keeps the identifiers of all of them
  have ids : (reports.set item.reportIndex r).map (·.actionId) = reports.map (·.actionId) := by
    rw [List.map_set, mine, ← old_id]
    refine List.ext_getElem? fun i => ?_
    rcases eq_or_ne item.reportIndex i with rfl | other
    · rw [List.getElem?_set_self (by simpa using inside), List.getElem?_map, at_old]
      rfl
    · rw [List.getElem?_set_ne other]
  have listed_id : ∀ r' ∈ reports.set item.reportIndex r, ∃ r'' ∈ reports,
      r''.actionId = r'.actionId := by
    intro r' listed
    have member := List.mem_map_of_mem (f := (·.actionId)) listed
    rw [ids] at member
    exact List.mem_map.mp member
  exact {
    reported := fun r' listed => by
      obtain ⟨r'', listed'', same⟩ := listed_id r' listed
      rw [← same]
      exact h.reported r'' listed''
    unreported := fun _ member => absurd member List.not_mem_nil
    indexed := fun i member => by
      left
      rw [← List.getElem?_map, ids, List.getElem?_map]
      exact (h.indexed i member).resolve_right nofun
    accounted := fun clean' => ids.trans (h.accounted (clean clean'))
    confirmed := fun clean' b h' => by
      rcases confirm clean' b h' with ⟨same, compensated⟩ | ⟨other, before⟩
      · exact ⟨r, List.mem_set inside r, mine.trans same.symm, compensated⟩
      · obtain ⟨r', listed, same, compensated⟩ := h.confirmed (clean clean') b before
        refine ⟨r', ?_, same, compensated⟩
        obtain ⟨i, at_i⟩ := List.mem_iff_getElem?.mp listed
        have apart : item.reportIndex ≠ i := by
          rintro rfl
          rw [at_old] at at_i
          obtain rfl := Option.some.inj at_i
          exact other (same.symm.trans old_id)
        exact List.mem_iff_getElem?.mpr ⟨i, by rwa [List.getElem?_set_ne apart]⟩
    verified := fun i r' at_i verified b member same reversible => by
      rcases eq_or_ne item.reportIndex i with rfl | other
      · rw [List.getElem?_set_self inside] at at_i
        obtain rfl := Option.some.inj at_i
        rw [verified] at state
        cases state
      · rw [List.getElem?_set_ne other] at at_i
        exact h.verified i r' at_i verified b member same reversible
    outcome := fun b known reversible h' r' listed same => by
      rcases List.mem_or_eq_of_mem_set listed with old | rfl
      · exact h.outcome b known reversible (same_returns b h') r' old same
      · revert state
        cases r'.state <;> simp [ActionState.isRolledBack, ActionState.isOutcome]
    failing := fun r' listed failure => by
      rcases List.mem_or_eq_of_mem_set listed with old | rfl
      · exact same_fails (h.failing r' old failure)
      · revert state failure
        cases r'.state <;> simp [ActionState.isRolledBack, ActionState.isFailure] }

/-- Every executed write was rolled back. -/
theorem discharge (h : Books plan done [] reports items t)
    (rolled : ∀ item ∈ items, ∃ r, reports[item.reportIndex]? = some r ∧
      r.state.isRolledBack = true) : Books plan done [] reports [] t where
  reported := h.reported
  unreported := h.unreported
  indexed _ member := absurd member List.not_mem_nil
  accounted := h.accounted
  confirmed := h.confirmed
  verified i r at_i verified b member same reversible := by
    obtain ⟨item, waits, -, rfl⟩ := h.verified i r at_i verified b member same reversible
    obtain ⟨r', at_i', state⟩ := rolled item waits
    rw [at_i] at at_i'
    obtain rfl := Option.some.inj at_i'
    rw [verified] at state
    cases state
  outcome := h.outcome
  failing := h.failing

end Books

/-! ## The states -/

/-- The state of the action whose turn it is. -/
theorem Progress.report [Host] {plan : ChangePlan} {done : List AgentAction} {a : AgentAction}
    {states : Uuid → Option ActionState} (h : Progress plan (done ++ [a]) states)
    (turn : Turn plan done a) {state : ActionState}
    (ready : state.isDone = true → ∀ d ∈ a.dependencies, Succeeded states d) :
    Progress plan (done ++ [a]) (Function.update states a.actionId (some state)) := by
  have other : ∀ {id}, id ≠ a.actionId →
      (Succeeded (Function.update states a.actionId (some state)) id ↔ Succeeded states id) := by
    intro id other
    unfold Succeeded
    rw [Function.update_of_ne other]
  refine ⟨fun b member succeeded => ?_, fun b member succeeded d depends => ?_⟩
  · by_cases same : b.actionId = a.actionId
    · simp [plan.action_inj member turn.member same]
    · exact h.visited b member ((other same).mp succeeded)
  · by_cases same : b.actionId = a.actionId
    · obtain rfl := plan.action_inj member turn.member same
      have apart : d ≠ b.actionId := fun eq =>
        turn.unneeded b (by simp) (eq ▸ depends)
      refine (other apart).mpr (ready ?_ d depends)
      simpa [Succeeded] using succeeded
    · have before := (other same).mp succeeded
      have apart : d ≠ a.actionId := fun eq =>
        turn.unneeded b (h.visited b member before) (eq ▸ depends)
      exact (other apart).mpr (h.closed b member before d depends)

/-- An ordinary event changes nothing. -/
theorem Inv.ordinary [Host] {plan : ChangePlan} {done current : List AgentAction} {s : RunState}
    {t : Trace} {e : TraceEvent} (h : Inv plan done current s t) (ordinary : Ordinary e) :
    Inv plan done current s (t ++ [e]) :=
  ⟨h.ledger.ordinary ordinary, h.books.ordinary ordinary, h.progress⟩

end MasterAgent
