import MasterAgent.Orchestrator.Run

/-!
# The order of a plan's actions

Results:

1. `topologicalOrder_spec`: the actions of a plan are ordered, each once and after its
   dependencies;
2. `action_inj`: an action is determined by its identifier, and by its idempotency key;
3. `dependency_graph_checked`: the check of the dependency graph raises exactly on a cycle, in
   whatever order the dependencies are walked.
-/

namespace MasterAgent
open Base

section
variable [Host]

/-- Every action stands after the actions it depends on. -/
def AfterDependencies (ordered : List AgentAction) : Prop :=
  ∀ before a after, ordered = before ++ a :: after →
    ∀ d ∈ a.dependencies, ∃ b ∈ before, b.actionId = d

namespace ChangePlan

variable (p : ChangePlan)

theorem ids_nodup : (p.actions.map (·.actionId)).Nodup := by
  have check := p.check_holds (c := require (p.actions.map (·.actionId)).Nodup
    "action IDs must be unique") (by simp [ChangePlanFields.checks])
  simpa [require] using check

theorem keys_nodup : (p.actions.map (·.idempotencyKey)).Nodup := by
  have check := p.check_holds (c := require (p.actions.map (·.idempotencyKey)).Nodup
    "idempotency keys must be unique within a plan") (by simp [ChangePlanFields.checks])
  simpa [require] using check

theorem search_ok :
    ∃ ids, Graph.search (dependenciesOf p.actions) (p.actions.map (·.actionId)) = .ok ids := by
  have check := p.check_holds (c := validateAcyclic p.actions) (by simp [ChangePlanFields.checks])
  unfold validateAcyclic require at check
  cases searched : Graph.search (dependenciesOf p.actions) (p.actions.map (·.actionId)) with
  | ok ids => exact ⟨ids, rfl⟩
  | error stop => rw [searched] at check; cases check

omit [Host] in
/-- Actions with distinct identifiers are found by them. -/
theorem find_action {actions : List AgentAction} (nodup : (actions.map (·.actionId)).Nodup)
    {a : AgentAction} (h : a ∈ actions) : actions.find? (·.actionId = a.actionId) = some a := by
  induction actions with
  | nil => cases h
  | cons b actions ih =>
      rw [List.map_cons, List.nodup_cons] at nodup
      rcases List.mem_cons.mp h with rfl | later
      · simp
      · have other : b.actionId ≠ a.actionId := fun same =>
          nodup.1 (same ▸ List.mem_map_of_mem (f := (·.actionId)) later)
        rw [List.find?_cons_of_neg (by simpa using other)]
        exact ih nodup.2 later

omit [Host] in
theorem dependenciesOf_self {actions : List AgentAction}
    (nodup : (actions.map (·.actionId)).Nodup) {a : AgentAction} (h : a ∈ actions) :
    dependenciesOf actions a.actionId = a.dependencies := by
  unfold dependenciesOf
  rw [find_action nodup h]
  rfl

/-- Every dependency of an action is an action of the plan. -/
theorem dependencies_known {a : AgentAction} (h : a ∈ p.actions) {d : Uuid}
    (hd : d ∈ a.dependencies) : d ∈ p.actions.map (·.actionId) := by
  have listed : ∀ c ∈ ChangePlanFields.dependencyChecks p.actions, c.1 = true := fun c hc =>
    p.check_holds (by simp [ChangePlanFields.checks, hc])
  have known := listed _ (List.mem_map_of_mem h)
  simp only [require, decide_eq_true_eq, List.filter_eq_nil_iff, Bool.not_eq_true',
    Bool.not_eq_false, List.contains_iff_mem] at known
  exact known d hd

/-- An action is determined by its identifier. -/
theorem action_inj {a b : AgentAction} (ha : a ∈ p.actions) (hb : b ∈ p.actions)
    (same : a.actionId = b.actionId) : a = b :=
  List.inj_on_of_nodup_map p.ids_nodup ha hb same

/-- An action is determined by its idempotency key. -/
theorem action_inj_key {a b : AgentAction} (ha : a ∈ p.actions) (hb : b ∈ p.actions)
    (same : a.idempotencyKey = b.idempotencyKey) : a = b :=
  List.inj_on_of_nodup_map p.keys_nodup ha hb same

omit [Host] in
/-- Looking up identifiers gives the actions they belong to. -/
theorem lookup_actions {actions : List AgentAction} (nodup : (actions.map (·.actionId)).Nodup) :
    ∀ {ids : List Uuid}, ids ⊆ actions.map (·.actionId) →
      (ids.filterMap fun id => actions.find? (·.actionId = id)).map (·.actionId) = ids ∧
        (ids.filterMap fun id => actions.find? (·.actionId = id)) ⊆ actions
  | [], _ => by simp
  | id :: ids, sub => by
      obtain ⟨a, ha, rfl⟩ := List.mem_map.mp (sub List.mem_cons_self)
      obtain ⟨back, inside⟩ := lookup_actions nodup fun x hx => sub (List.mem_cons_of_mem _ hx)
      rw [List.filterMap_cons, find_action nodup ha]
      exact ⟨by rw [List.map_cons, back], List.cons_subset.mpr ⟨ha, inside⟩⟩

/-- The actions of a plan are ordered, each once and after its dependencies. -/
theorem topologicalOrder_spec : ∃ ordered, topologicalOrder p.actions = .ok ordered ∧
    ordered.Perm p.actions ∧ AfterDependencies ordered := by
  obtain ⟨ids, searched⟩ := p.search_ok
  have closed : ∀ a ∈ p.actions.map (·.actionId), ∀ b ∈ dependenciesOf p.actions a,
      b ∈ p.actions.map (·.actionId) := by
    intro id hid b hb
    obtain ⟨a, ha, rfl⟩ := List.mem_map.mp hid
    rw [dependenciesOf_self p.ids_nodup ha] at hb
    exact p.dependencies_known ha hb
  obtain ⟨perm, ordered⟩ := Graph.search_spec p.ids_nodup closed searched
  obtain ⟨back, inside⟩ := lookup_actions p.ids_nodup perm.subset
  refine ⟨ids.filterMap fun id => p.actions.find? (·.actionId = id), ?_, ?_, ?_⟩
  · unfold topologicalOrder
    rw [Graph.order_of_search searched]
  · refine (List.perm_ext_iff_of_nodup ?_ (List.Nodup.of_map _ p.ids_nodup)).mpr fun a =>
      ⟨fun h => inside h, fun h => ?_⟩
    · exact List.Nodup.of_map _ (back ▸ ordered.1)
    · refine List.mem_filterMap.mpr ⟨a.actionId, ?_, find_action p.ids_nodup h⟩
      exact perm.mem_iff.mpr (List.mem_map_of_mem (f := (·.actionId)) h)
  · intro before a after split d hd
    have ids_split : ids = before.map (·.actionId) ++ a.actionId :: after.map (·.actionId) := by
      rw [← back, split, List.map_append, List.map_cons]
    have member : a ∈ p.actions := inside (by rw [split]; simp)
    have earlier := ordered.2 _ _ _ ids_split d (by
      rw [dependenciesOf_self p.ids_nodup member]
      exact hd)
    obtain ⟨b, hb, eq⟩ := List.mem_map.mp earlier
    exact ⟨b, hb, eq⟩

end ChangePlan

/-! ## Cycles among dependencies -/

omit [Host] in
/-- The action `x` lists the action `y` among its dependencies. -/
def WaitsFor (actions : List AgentAction) (x y : Uuid) : Prop :=
  ∃ a ∈ actions, a.actionId = x ∧ y ∈ a.dependencies

omit [Host] in
/-- `_validate_acyclic`, with the dependencies of an action walked as its set lists them: `walk` is
one of the orders in which Python may iterate them. -/
def validateAcyclicIn (walk : Uuid → List Uuid) (actions : List AgentAction) : Check :=
  require (match Graph.search walk (actions.map (·.actionId)) with
    | .ok _ => true
    | .error _ => false) "action dependency graph contains a cycle"

omit [Host] in
theorem validateAcyclicIn_listed (actions : List AgentAction) :
    validateAcyclicIn (dependenciesOf actions) actions = validateAcyclic actions := rfl

omit [Host] in
theorem mem_dependenciesOf_iff {actions : List AgentAction}
    (nodup : (actions.map (·.actionId)).Nodup) {x y : Uuid} :
    y ∈ dependenciesOf actions x ↔ WaitsFor actions x y := by
  constructor
  · intro listed
    unfold dependenciesOf at listed
    cases found : actions.find? (·.actionId = x) with
    | none => rw [found] at listed; cases listed
    | some a =>
        rw [found] at listed
        have named : a.actionId = x := by simpa using List.find?_some found
        exact ⟨a, List.mem_of_find?_eq_some found, named, listed⟩
  · rintro ⟨a, ha, rfl, listed⟩
    rw [ChangePlan.dependenciesOf_self nodup ha]
    exact listed

omit [Host] in
/-- Whatever the order of the walk, the check raises exactly if some action depends on itself
through others. -/
theorem validateAcyclicIn_raises_iff {actions : List AgentAction}
    (nodup : (actions.map (·.actionId)).Nodup)
    (known : ∀ a ∈ actions, a.dependencies ⊆ actions.map (·.actionId)) {walk : Uuid → List Uuid}
    (walks : ∀ x y, y ∈ walk x ↔ y ∈ dependenciesOf actions x) :
    (validateAcyclicIn walk actions).1 = false ↔
      ∃ x, Relation.TransGen (WaitsFor actions) x x := by
  have same : Graph.Edge walk = WaitsFor actions := by
    funext x y
    exact propext ((walks x y).trans (mem_dependenciesOf_iff nodup))
  have closed : ∀ x ∈ actions.map (·.actionId), ∀ y ∈ walk x, y ∈ actions.map (·.actionId) := by
    intro x _ y hy
    obtain ⟨a, ha, -, listed⟩ := (mem_dependenciesOf_iff nodup).mp ((walks x y).mp hy)
    exact known a ha listed
  have fails := Graph.search_fails_iff nodup closed
  unfold Graph.OnCycle at fails
  rw [same] at fails
  calc (validateAcyclicIn walk actions).1 = false
      ↔ ∃ stop, Graph.search walk (actions.map (·.actionId)) = .error stop := by
        unfold validateAcyclicIn require
        cases Graph.search walk (actions.map (·.actionId)) <;> simp
    _ ↔ ∃ x ∈ actions.map (·.actionId), Relation.TransGen (WaitsFor actions) x x := fails
    _ ↔ ∃ x, Relation.TransGen (WaitsFor actions) x x := by
        refine ⟨fun ⟨x, _, cycle⟩ => ⟨x, cycle⟩, fun ⟨x, cycle⟩ => ⟨x, ?_, cycle⟩⟩
        obtain ⟨_, ⟨a, ha, rfl, _⟩, _⟩ := Relation.TransGen.head'_iff.mp cycle
        exact List.mem_map_of_mem ha

/-- The check raises exactly on a cyclic dependency relation, and the actions of every accepted
plan are ordered, each once and after its dependencies. -/
theorem dependency_graph_checked :
    (∀ (actions : List AgentAction) (walk : Uuid → List Uuid),
      (actions.map (·.actionId)).Nodup →
      (∀ a ∈ actions, a.dependencies ⊆ actions.map (·.actionId)) →
      (∀ x y, y ∈ walk x ↔ y ∈ dependenciesOf actions x) →
      ((validateAcyclicIn walk actions).1 = false ↔
        ∃ x, Relation.TransGen (WaitsFor actions) x x)) ∧
    ∀ p : ChangePlan, ∃ ordered, topologicalOrder p.actions = .ok ordered ∧
      ordered.Perm p.actions ∧ AfterDependencies ordered :=
  ⟨fun _ _ nodup known walks => validateAcyclicIn_raises_iff nodup known walks,
    fun p => p.topologicalOrder_spec⟩

end

namespace Order.Samples

/-- Two actions, each waiting for the other. -/
def tangled : List AgentAction :=
  [⟨{ sampleWrite.toAgentActionFields with dependencies := [numbered 2] }, by decide⟩,
    ⟨{ sampleWrite.toAgentActionFields with
        actionId := numbered 2, dependencies := [numbered 1] }, by decide⟩]

theorem tangled_cycle : ∃ x, Relation.TransGen (WaitsFor tangled) x x :=
  letI := spellingHost
  (dependency_graph_checked.1 tangled (dependenciesOf tangled) (by decide) (by decide)
    fun _ _ => Iff.rfl).mp (by decide)

end Order.Samples

end MasterAgent
