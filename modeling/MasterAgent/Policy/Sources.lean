import Mathlib.Data.Finset.Card
import Mathlib.Data.Finset.Image
import Mathlib.Logic.Relation
import MasterAgent.Models.Plan

/-!
# Canonical sources

A source rule names the resource that owns a logical field and the resources that only project
it. A plan may write a projection only when it depends on a write of the same value to the
owner.

Results:

1. `validate_accepts`: what every accepted write of a projection depends on;
2. `governed_values_eq`: equal digest sets are equal values, where the digest has no collision
   among them.
-/

namespace MasterAgent
open Base

/-- System, type and identifier of a resource. -/
abbrev ResourceIdentity := String × String × String

def resourceIdentity (action : AgentAction) : ResourceIdentity :=
  (action.target.system, action.target.resourceType, action.target.resourceId)

/-- Selectors for each capability. -/
abbrev Extractors := List (String × List String)

/-- Ownership rule for one logical field. -/
structure SourceRule where
  field : String
  canonicalResource : ResourceIdentity
  projectionResources : List ResourceIdentity
  direction : String
  canonicalCapabilities : List String
  projectionCapabilities : List String
  canonicalExtractors : Extractors
  projectionExtractors : Extractors

/-- `SourceRule.canonical_uri`. -/
def SourceRule.canonicalUri (rule : SourceRule) : String :=
  join ':' [rule.canonicalResource.1, rule.canonicalResource.2.1, rule.canonicalResource.2.2]

/-! ## Governed values -/

/-- `_selectors_for`. -/
def selectorsFor (bindings : Extractors) (capability : String) : Except Exn (List String) :=
  match bindings.lookup capability with
  | some selectors => .ok selectors
  | none => .error (configurationError
      s!"source-of-truth capability is missing its parameter verifier: {capability}")

/-- One segment of a selector, applied to a value. -/
def selectSegment (segment : List Char) (value : Json) : List Json :=
  let expand := ['[', ']'].isSuffixOf segment
  let key := String.ofList (if expand then segment.take (segment.length - 2) else segment)
  match value with
  | .obj fields =>
      match fields.lookup key with
      | none => []
      | some selected =>
          if expand then
            match selected with
            | .arr items => items
            | _ => []
          else [selected]
  | _ => []

/-- `_select_values`. -/
def selectValues (parameters : Fields) (selector : String) : List Json :=
  (selector.toList.splitOn '.').foldl (fun current segment =>
    current.flatMap (selectSegment segment)) [.obj parameters]

/-- `_normalize_value`. -/
def normalizeValue (capability selector : String) (value : Json) : Option String :=
  if capability = "jira.issue.update" ∧ selector = "fields.status" ∧ isObject value then none
  else match value with
    | .str s => if strip s = "" then none else some (strip s)
    | _ => none

/-- The governed values an action exposes to its selectors. -/
def governedValues (action : AgentAction) (selectors : List String) : List String :=
  selectors.flatMap fun selector =>
    (selectValues action.parameters selector).filterMap (normalizeValue action.capability selector)

section
variable [Host]

/-- `_digest_value` of a text. -/
def digestValue (value : String) : String := stableSha256 (.str value)

/-- `_parameter_digests`. -/
def parameterDigests (action : AgentAction) (selectors : List String) : Finset String :=
  ((governedValues action selectors).map digestValue).toFinset

/-! ## Validation -/

/-- `_dependency_ancestors`: pending dependencies are taken from the end. -/
def dependencyAncestors (plan : ChangePlan) (action : AgentAction) : List Uuid :=
  let succ := dependenciesOf plan.actions
  Graph.closure succ (Graph.closureFuel succ (plan.actions.map (·.actionId)) action.dependencies)
    action.dependencies.reverse []

omit [Host] in
/-- Neither a read nor a local generation. -/
def isEffect (risk : RiskLevel) : Bool := risk != .readOnly && risk != .localGeneration

/-- The writes of a plan to the owner of a field, with the digests they expose. -/
def canonicalWrites (rule : SourceRule) (plan : ChangePlan) :
    Except Exn (List (AgentAction × Finset String)) :=
  (plan.actions.filter fun candidate =>
    resourceIdentity candidate == rule.canonicalResource && isEffect candidate.risk &&
      rule.canonicalCapabilities.contains candidate.capability).mapM fun candidate => do
    let selectors ← selectorsFor rule.canonicalExtractors candidate.capability
    return (candidate, parameterDigests candidate selectors)

/-- Why one rule refuses an action. -/
def ruleRefusal (rule : SourceRule) (plan : ChangePlan) (action : AgentAction) :
    Except Exn (Option String) :=
  if ¬rule.projectionResources.contains (resourceIdentity action) then .ok none
  else if ¬rule.projectionCapabilities.contains action.capability then
    if action.risk = .readOnly then .ok none
    else .ok (some s!"{rule.field} projection capability is not approved by its source rule")
  else do
    let selectors ← selectorsFor rule.projectionExtractors action.capability
    let projectionDigests := parameterDigests action selectors
    if projectionDigests.card ≠ 1 then
      return some (s!"{rule.field} projection must expose exactly one " ++
        "verifiable governed value")
    else
      let writes ← canonicalWrites rule plan
      if writes = [] then
        return some (s!"{rule.field} is owned by {rule.canonicalUri}; update the " ++
          "canonical source before its projection")
      else if ¬(writes.filter (·.2 = projectionDigests)).any fun write =>
          (dependencyAncestors plan action).contains write.1.actionId then
        return some (s!"{rule.field} projection must depend on a matching field-value " ++
          s!"{rule.canonicalUri}; plan ordering alone is not authority")
      else return none

/-- `SourceOfTruthRegistry.validate`. -/
def validateSources : List SourceRule → ChangePlan → AgentAction → Except Exn (Bool × String)
  | [], _, _ => .ok (true, "source-of-truth policy satisfied")
  | rule :: rules, plan, action => do
      match ← ruleRefusal rule plan action with
      | some reason => return (false, reason)
      | none => validateSources rules plan action

/-! ## What is accepted -/

/-- `c` is a transitive dependency of `p` in the plan. -/
def DependsOn (plan : ChangePlan) (p c : AgentAction) : Prop :=
  ∃ d ∈ p.dependencies,
    Relation.ReflTransGen (Graph.Edge (dependenciesOf plan.actions)) d c.actionId

/-- The write of the owner that a write of a projection depends on. -/
structure CanonicalWrite (rule : SourceRule) (plan : ChangePlan) (p c : AgentAction) : Prop where
  member : c ∈ plan.actions
  dependency : DependsOn plan p c
  resource : resourceIdentity c = rule.canonicalResource
  effect : isEffect c.risk = true
  capability : c.capability ∈ rule.canonicalCapabilities
  /-- Both expose one and the same digest. -/
  digests : ∃ mine theirs, selectorsFor rule.projectionExtractors p.capability = .ok mine ∧
    selectorsFor rule.canonicalExtractors c.capability = .ok theirs ∧
    (parameterDigests p mine).card = 1 ∧ parameterDigests c theirs = parameterDigests p mine

variable {rule : SourceRule} {plan : ChangePlan} {p : AgentAction}

theorem dependencyAncestors_sound {id : Uuid} (h : id ∈ dependencyAncestors plan p) :
    ∃ d ∈ p.dependencies, Relation.ReflTransGen (Graph.Edge (dependenciesOf plan.actions)) d id := by
  obtain ⟨d, pending, path⟩ := (Graph.closure_sound h).resolve_left (by simp)
  exact ⟨d, List.mem_reverse.mp pending, path⟩

omit [Host] in
/-- What a successful traversal contains came from some element. -/
theorem mem_mapM {R T : Type} {f : R → Except Exn T} {xs : List R} {ys : List T} {y : T}
    (h : xs.mapM f = .ok ys) (member : y ∈ ys) : ∃ x ∈ xs, f x = .ok y := by
  induction xs generalizing ys with
  | nil =>
      cases h
      cases member
  | cons x xs ih =>
      rw [List.mapM_cons] at h
      cases head : f x with
      | error e => rw [head] at h; cases h
      | ok z =>
          cases tail : xs.mapM f with
          | error e => rw [head, tail] at h; cases h
          | ok zs =>
              rw [head, tail] at h
              cases h
              rcases List.mem_cons.mp member with rfl | later
              · exact ⟨x, List.mem_cons_self, head⟩
              · obtain ⟨w, hw, found⟩ := ih tail later
                exact ⟨w, List.mem_cons_of_mem x hw, found⟩

theorem mem_canonicalWrites {writes : List (AgentAction × Finset String)}
    {write : AgentAction × Finset String} (h : canonicalWrites rule plan = .ok writes)
    (member : write ∈ writes) :
    write.1 ∈ plan.actions ∧ resourceIdentity write.1 = rule.canonicalResource ∧
      isEffect write.1.risk = true ∧ write.1.capability ∈ rule.canonicalCapabilities ∧
      ∃ selectors, selectorsFor rule.canonicalExtractors write.1.capability = .ok selectors ∧
        write.2 = parameterDigests write.1 selectors := by
  obtain ⟨candidate, filtered, found⟩ := mem_mapM h member
  cases selected : selectorsFor rule.canonicalExtractors candidate.capability with
  | error e => rw [selected] at found; cases found
  | ok selectors =>
      rw [selected] at found
      cases found
      simp only [List.mem_filter, Bool.and_eq_true, beq_iff_eq, List.contains_iff_mem] at filtered
      obtain ⟨planned, ⟨resource, effect⟩, capability⟩ := filtered
      exact ⟨planned, resource, effect, capability, selectors, selected, rfl⟩

/-- A rule lets a write of one of its projections pass only with a write of the owner. -/
theorem ruleRefusal_none (projection : resourceIdentity p ∈ rule.projectionResources)
    (write : p.risk ≠ .readOnly) (h : ruleRefusal rule plan p = .ok none) :
    ∃ c, CanonicalWrite rule plan p c := by
  unfold ruleRefusal at h
  rw [if_neg (not_not_intro (by simpa using projection))] at h
  split at h
  · cases h
  · cases mine : selectorsFor rule.projectionExtractors p.capability with
    | error e => rw [mine] at h; cases h
    | ok selectors =>
        rw [mine, ok_bind] at h
        simp only at h
        split at h
        · cases h
        · next single =>
            cases found : canonicalWrites rule plan with
            | error e => rw [found] at h; cases h
            | ok writes =>
                rw [found, ok_bind] at h
                split at h
                · cases h
                · split at h
                  · cases h
                  · next matched =>
                      simp only [not_not, List.any_eq_true, List.mem_filter, decide_eq_true_eq,
                        List.contains_iff_mem] at matched
                      obtain ⟨c, ⟨member, same⟩, ancestor⟩ := matched
                      obtain ⟨planned, resource, effect, capability, theirs, selected, digests⟩ :=
                        mem_canonicalWrites found member
                      exact ⟨c.1, planned, dependencyAncestors_sound ancestor, resource, effect,
                        capability, selectors, theirs, mine, selected, not_not.mp single,
                        digests ▸ same⟩

/-- Accepted by all rules, an action is accepted by each. -/
theorem ruleRefusal_of_accepted {rules : List SourceRule} {reason : String}
    (h : validateSources rules plan p = .ok (true, reason)) (member : rule ∈ rules) :
    ruleRefusal rule plan p = .ok none := by
  induction rules with
  | nil => cases member
  | cons first rules ih =>
      unfold validateSources at h
      cases refusal : ruleRefusal first plan p with
      | error e => rw [refusal] at h; cases h
      | ok outcome =>
          cases outcome with
          | some why => rw [refusal] at h; cases h
          | none =>
              rw [refusal] at h
              rcases List.mem_cons.mp member with rfl | member
              · exact refusal
              · exact ih h member

/-- An accepted write of a projection depends, for every rule with that projection, on a write
of the owner that exposes the same digest. -/
theorem validate_accepts {rules : List SourceRule} {reason : String}
    (h : validateSources rules plan p = .ok (true, reason)) (write : p.risk ≠ .readOnly)
    (member : rule ∈ rules) (projection : resourceIdentity p ∈ rule.projectionResources) :
    ∃ c, CanonicalWrite rule plan p c :=
  ruleRefusal_none projection write (ruleRefusal_of_accepted h member)

/-! ### Values -/

/-- No two of the given texts are a collision of the digest. -/
def Distinguished (texts : List String) : Prop :=
  ∀ s ∈ texts, ∀ t ∈ texts, digestValue s = digestValue t → s = t

/-- Where the digest distinguishes the exposed values, one and the same digest is one and the
same value. -/
theorem governed_values_eq {c : AgentAction} {mine theirs : List String}
    (ideal : Distinguished (governedValues p mine ++ governedValues c theirs))
    (single : (parameterDigests p mine).card = 1)
    (same : parameterDigests c theirs = parameterDigests p mine) :
    ∃ v, (∀ x, x ∈ governedValues p mine ↔ x = v) ∧ ∀ x, x ∈ governedValues c theirs ↔ x = v := by
  obtain ⟨digest, only⟩ := Finset.card_eq_one.mp single
  have mem_digest (a : AgentAction) (selectors : List String) (d : String) :
      d ∈ parameterDigests a selectors ↔ ∃ x ∈ governedValues a selectors, digestValue x = d := by
    simp [parameterDigests]
  have theirs_only : parameterDigests c theirs = {digest} := same.trans only
  obtain ⟨v, exposed, hv⟩ := (mem_digest p mine digest).mp (by rw [only]; simp)
  obtain ⟨w, exposed', hw⟩ := (mem_digest c theirs digest).mp (by rw [theirs_only]; simp)
  -- every exposed value has the one digest, and so is `v`
  have all_p (x : String) (hx : x ∈ governedValues p mine) : digestValue x = digest := by
    have := (mem_digest p mine _).mpr ⟨x, hx, rfl⟩
    rwa [only, Finset.mem_singleton] at this
  have all_c (x : String) (hx : x ∈ governedValues c theirs) : digestValue x = digest := by
    have := (mem_digest c theirs _).mpr ⟨x, hx, rfl⟩
    rwa [theirs_only, Finset.mem_singleton] at this
  have left {x : String} (hx : x ∈ governedValues p mine) :=
    List.mem_append_left (governedValues c theirs) hx
  have right {x : String} (hx : x ∈ governedValues c theirs) :=
    List.mem_append_right (governedValues p mine) hx
  refine ⟨v, fun x => ⟨fun hx => ideal x (left hx) v (left exposed) ?_, fun hx => hx ▸ exposed⟩,
    fun x => ⟨fun hx => ideal x (right hx) v (left exposed) ?_, ?_⟩⟩
  · rw [all_p x hx, hv]
  · rw [all_c x hx, hv]
  · rintro rfl
    rwa [ideal x (left exposed) w (right exposed') (by rw [hv, hw])]

/-- The write of the owner, with the one value that both writes expose. -/
structure CanonicalValue (rule : SourceRule) (plan : ChangePlan) (p c : AgentAction) : Prop where
  member : c ∈ plan.actions
  dependency : DependsOn plan p c
  resource : resourceIdentity c = rule.canonicalResource
  effect : isEffect c.risk = true
  capability : c.capability ∈ rule.canonicalCapabilities
  value : ∃ mine theirs v, selectorsFor rule.projectionExtractors p.capability = .ok mine ∧
    selectorsFor rule.canonicalExtractors c.capability = .ok theirs ∧
    (∀ x, x ∈ governedValues p mine ↔ x = v) ∧ ∀ x, x ∈ governedValues c theirs ↔ x = v

/-- The digest distinguishes the values a rule compares. -/
def DigestDistinguishes (rule : SourceRule) (plan : ChangePlan) (p : AgentAction) : Prop :=
  ∀ c ∈ plan.actions, ∀ mine theirs, selectorsFor rule.projectionExtractors p.capability = .ok mine →
    selectorsFor rule.canonicalExtractors c.capability = .ok theirs →
    Distinguished (governedValues p mine ++ governedValues c theirs)

theorem CanonicalWrite.canonicalValue {c : AgentAction} (h : CanonicalWrite rule plan p c)
    (ideal : DigestDistinguishes rule plan p) : CanonicalValue rule plan p c := by
  obtain ⟨mine, theirs, found, found', single, same⟩ := h.digests
  obtain ⟨v, values⟩ := governed_values_eq (ideal c h.member mine theirs found found') single same
  exact ⟨h.member, h.dependency, h.resource, h.effect, h.capability, mine, theirs, v, found, found',
    values⟩

end

end MasterAgent
