import Mathlib.Data.List.AList
import MasterAgent.Policy.Approvals

/-!
# The policy engine

Risk, approval and authority evaluation of one action. Evaluation times are instants: the
engine is called with aware times, and comparisons of aware times compare instants.

Results:

1. `rejection_none`: the rules that come before approvals, as five independent conditions;
2. `coverage_ok`, `coverage_raises`: what the loop over the approvals collects.
-/

namespace MasterAgent
open Base

/-! ## Shell patterns -/

/-- One element of a pattern. -/
inductive GlobToken where
  | star
  | anyChar
  | set (negated : Bool) (ranges : List (Char × Char))
  | literal (c : Char)
deriving DecidableEq

/-- The ranges between the brackets; a character by itself is a range of one. -/
def globRanges : List Char → List (Char × Char)
  | [] => []
  | a :: '-' :: b :: rest => (a, b) :: globRanges rest
  | a :: rest => (a, a) :: globRanges rest

/-- What is between the brackets and what follows them: a `]` that comes first, also after
`!`, does not close the set. -/
def splitSet (cs : List Char) : Option (Bool × List Char × List Char) :=
  let (negated, body) := match cs with
    | '!' :: rest => (true, rest)
    | _ => (false, cs)
  let (first, rest) := match body with
    | ']' :: rest => ([']'], rest)
    | _ => ([], body)
  match rest.span (· != ']') with
  | (inside, _ :: after) => some (negated, first ++ inside, after)
  | (_, []) => none

/-- `fnmatch.translate`. A bracket that is never closed is a character by itself. -/
def globTokens : Nat → List Char → List GlobToken
  | 0, _ => []
  | _, [] => []
  | fuel + 1, '*' :: rest => .star :: globTokens fuel rest
  | fuel + 1, '?' :: rest => .anyChar :: globTokens fuel rest
  | fuel + 1, '[' :: rest =>
      match splitSet rest with
      | some (negated, inside, after) => .set negated (globRanges inside) :: globTokens fuel after
      | none => .literal '[' :: globTokens fuel rest
  | fuel + 1, c :: rest => .literal c :: globTokens fuel rest

def GlobToken.accepts : GlobToken → Char → Bool
  | star, _ | anyChar, _ => true
  | set negated ranges, c => (ranges.any fun (low, high) => low ≤ c && c ≤ high) != negated
  | literal d, c => c == d

/-- A name matches the elements of a pattern in full. -/
def globMatch : List GlobToken → List Char → Bool
  | [], cs => cs.isEmpty
  | .star :: tokens, [] => globMatch tokens []
  | .star :: tokens, c :: cs => globMatch tokens (c :: cs) || globMatch (.star :: tokens) cs
  | _ :: _, [] => false
  | token :: tokens, c :: cs => token.accepts c && globMatch tokens cs

/-- `fnmatch`, which folds no case on this platform. -/
def fnmatch (name pattern : String) : Bool :=
  globMatch (globTokens (pattern.toList.length + 1) pattern.toList) name.toList

/-- `text.startswith(start)`. -/
def startsWith (text start : String) : Bool := start.toList.isPrefixOf text.toList

mutual
/-- `_collection_items`. The order in which pending values are counted does not matter. -/
def collectionItems : Json → Nat
  | .arr items => items.length + itemsIn items
  | .obj fields => fields.length + membersIn fields
  | _ => 0
def itemsIn : List Json → Nat
  | [] => 0
  | item :: items => collectionItems item + itemsIn items
def membersIn : Fields → Nat
  | [] => 0
  | (_, value) :: fields => collectionItems value + membersIn fields
end

section
variable [Host]

/-! ## Contextual constraints -/

structure ContextualPolicyFields where
  authenticatedPrincipals : List String
  agentIdentities : List String
  tenantIds : List String
  providerAccountIds : List String
  resourceAllowlists : List (String × List String)
  maximumItemsPerAction : Int
  maximumBytesPerAction : Int
  allowedClassifications : List DataClassification
  notBefore : Option Datetime
  notAfter : Option Datetime
deriving DecidableEq

namespace ContextualPolicyFields

/-- The identity sets with the names the errors use. -/
def identitySets (x : ContextualPolicyFields) : List (String × List String) :=
  [("authenticated_principals", x.authenticatedPrincipals),
    ("agent_identities", x.agentIdentities), ("tenant_ids", x.tenantIds),
    ("provider_account_ids", x.providerAccountIds)]

def isTrimmed (value : String) : Bool := value != "" && value == strip value

/-- What `ContextualPolicyConstraints.__post_init__` requires. -/
def checks (x : ContextualPolicyFields) : List Check :=
  x.identitySets.map (fun (name, values) =>
    (values.all isTrimmed, valueError s!"contextual policy {name} is malformed")) ++
  [(1 ≤ x.maximumItemsPerAction && x.maximumItemsPerAction ≤ 65536,
      valueError "contextual policy item budget is outside safe limits"),
    (1 ≤ x.maximumBytesPerAction && x.maximumBytesPerAction ≤ 8 * 1024 * 1024,
      valueError "contextual policy byte budget is outside safe limits"),
    (x.allowedClassifications ≠ [], valueError "contextual policy classifications are empty"),
    (x.notBefore.all isAware, valueError "contextual policy not_before requires a timezone"),
    (x.notAfter.all isAware, valueError "contextual policy not_after requires a timezone"),
    (x.notBefore.all fun start => x.notAfter.all fun stop => instant start < instant stop,
      valueError "contextual policy time window is empty"),
    (x.resourceAllowlists.all fun (pattern, prefixes) =>
        pattern != "" && prefixes != [] && prefixes.all isTrimmed,
      valueError "contextual policy resource allowlists are malformed")]

end ContextualPolicyFields

/-- Canonical, typed run constraints. -/
structure ContextualPolicyConstraints extends ContextualPolicyFields where
  valid : firstError toContextualPolicyFields.checks = none

/-- The capsule a plan binds to a capability. -/
def capsuleBinding (plan : ChangePlan) (action : AgentAction) :
    Option CapabilityCapsuleExecutionBinding :=
  (plan.executionContext.elim [] (·.fields.capsules)).find?
    (·.fields.capabilityId == action.capability)

namespace ContextualPolicyConstraints

/-- The identities of a capsule, in the order of the identity sets. -/
def observed (binding : CapabilityCapsuleExecutionBinding) : List String :=
  [binding.fields.authenticatedPrincipal, binding.fields.agentIdentity, binding.fields.tenantId,
    binding.fields.providerAccountId]

/-- The target is under a prefix that some pattern lists for the capability. -/
def allowsTarget (x : ContextualPolicyConstraints) (action : AgentAction) : Bool :=
  let matched := (x.resourceAllowlists.filter fun (pattern, _) =>
    fnmatch action.capability pattern).flatMap Prod.snd
  x.resourceAllowlists == [] || matched.any (startsWith action.target.uri ·)

/-- What the identity sets ask of the capsule, or why it is refused. -/
def identityRefusal (x : ContextualPolicyConstraints) (plan : ChangePlan) (action : AgentAction) :
    Option String :=
  let sets := x.identitySets.map Prod.snd
  if sets.all (· == []) then none
  else match capsuleBinding plan action with
    | none => some "contextual identity policy requires a capsule binding"
    | some binding =>
        if binding.fields.dataClassification ≠ action.dataClassification then
          some "capsule and action data classifications differ"
        else if (sets.zip (observed binding)).any fun (allowed, value) =>
            allowed != [] && !allowed.contains value then
          some "contextual principal, tenant, or account is not allowed"
        else none

/-- `ContextualPolicyConstraints.validate`: why the action is refused. -/
def validate (x : ContextualPolicyConstraints) (plan : ChangePlan) (action : AgentAction)
    (now : Int) : Option String :=
  if x.notBefore.any (now < instant ·) then
    some "contextual policy time window has not started"
  else if x.notAfter.any (instant · ≤ now) then
    some "contextual policy time window has ended"
  else if ¬x.allowedClassifications.contains action.dataClassification then
    some "contextual policy rejects the data classification"
  else if x.maximumItemsPerAction < collectionItems (.obj action.parameters) then
    some "contextual policy item budget is exceeded"
  else if ¬(measureJsonResources "contextual policy action" x.maximumBytesPerAction.toNat
      (.obj action.parameters)).isOk then
    some "contextual policy byte budget is exceeded: ValidationError"
  else if ¬x.allowsTarget action then
    some "contextual policy rejects the target resource"
  else x.identityRefusal plan action

end ContextualPolicyConstraints

/-! ## The engine -/

structure PolicyConfig where
  autoPermitRisks : List RiskLevel
  requireApprovalRisks : List RiskLevel
  prohibitRisks : List RiskLevel
  prohibitedCapabilities : List String
  writeCapabilityPatterns : List String

structure PolicyDecision where
  permitted : Bool
  approvalRequired : Bool
  reason : String
deriving DecidableEq

structure PolicyEngine where
  config : PolicyConfig
  approvalAuthenticator : Option HmacApprovalAuthenticator
  contextualConstraints : Option ContextualPolicyConstraints

namespace PolicyEngine

omit [Host] in
/-- `_is_write`. -/
def isWrite (config : PolicyConfig) (action : AgentAction) : Bool :=
  config.writeCapabilityPatterns.any (fnmatch action.capability ·) ||
    (action.risk != .readOnly && action.risk != .localGeneration)

/-- The decision of the rules that come before approvals, if one of them rejects. -/
def rejection (engine : PolicyEngine) (plan : ChangePlan) (action : AgentAction) (now : Int) :
    Option PolicyDecision :=
  if (capsuleBinding plan action).any fun binding =>
      binding.fields.risk ≠ action.risk || binding.fields.dataClassification ≠ action.dataClassification then
    some ⟨false, false, "capsule risk or data classification differs from the action"⟩
  else match engine.contextualConstraints.bind (·.validate plan action now) with
    | some reason => some ⟨false, false, reason⟩
    | none =>
        if engine.config.prohibitedCapabilities.any (fnmatch action.capability ·) then
          some ⟨false, false, s!"capability is prohibited: {action.capability}"⟩
        else if engine.config.prohibitRisks.contains action.risk then
          some ⟨false, false, s!"risk tier is prohibited: {action.risk.str}"⟩
        else if isWrite engine.config action ∧
            (action.authoritySource = .retrievedInternalContent ∨
              action.authoritySource = .retrievedExternalContent) then
          some ⟨false, false, "retrieved content is data and cannot authorize a write " ++
            "or external action"⟩
        else none

/-- The approvals that cover the action, under the identity of who gave them. -/
abbrev CoveredBy := AList fun _ : String => Approval

/-- The loop over the approvals. -/
def coverage (ring : HmacApprovalAuthenticator) (plan : ChangePlan) (action : AgentAction)
    (now : Int) : List Approval → CoveredBy → Except Exn CoveredBy
  | [], coveredBy => .ok coveredBy
  | approval :: rest, coveredBy => do
      match ← ring.authenticatedSubject approval with
      | none => coverage ring plan action now rest coveredBy
      | some subject =>
          if approval.covers plan action now then
            coverage ring plan action now rest (coveredBy.insert (casefold subject) approval)
          else coverage ring plan action now rest coveredBy

/-- Whether approvals are asked for. -/
def approvalRequired (config : PolicyConfig) (action : AgentAction) (minimum : Int) : Bool :=
  action.requiresApproval || config.requireApprovalRisks.contains action.risk || 0 < minimum

/-- `PolicyEngine.evaluate`. -/
def evaluate (engine : PolicyEngine) (plan : ChangePlan) (action : AgentAction)
    (approvals : List Approval) (now minimum : Int) : Except Exn PolicyDecision :=
  if minimum < 0 then
    .error (valueError "minimum_distinct_approvers must not be negative")
  else match engine.rejection plan action now with
    | some decision => .ok decision
    | none =>
        if approvalRequired engine.config action minimum then do
          let coveredBy ← match engine.approvalAuthenticator with
            | none => .ok ∅
            | some ring => coverage ring plan action now approvals ∅
          let required := max 1 minimum
          if coveredBy.keys.length < required then
            return ⟨false, true, s!"{required} distinct approval(s) bound to this exact " ++
              "plan and action are required"⟩
          else
            return ⟨true, true,
              s!"{coveredBy.keys.length} valid immutable-plan approval(s) supplied"⟩
        else if engine.config.autoPermitRisks.contains action.risk then
          .ok ⟨true, false, s!"risk tier is auto-permitted: {action.risk.str}"⟩
        else .ok ⟨false, true, "risk tier has no explicit permit rule"⟩

/-- Authenticated approvals under their identifiers. -/
abbrev Selected := AList fun _ : Uuid => Approval × String

/-- The loop of `authenticated_approvals`. -/
def select (ring : HmacApprovalAuthenticator) (plan : ChangePlan) (now : Int) :
    List Approval → Selected → Except Exn Selected
  | [], selected => .ok selected
  | approval :: rest, selected => do
      match ← ring.authenticatedSubject approval with
      | none => select ring plan now rest selected
      | some subject =>
          if plan.actions.any (approval.covers plan · now) then
            select ring plan now rest (selected.insert approval.approvalId (approval, subject))
          else select ring plan now rest selected

/-- `PolicyEngine.authenticated_approvals`. -/
def authenticatedApprovals (engine : PolicyEngine) (plan : ChangePlan) (approvals : List Approval)
    (now : Int) : Except Exn (List (Approval × String)) :=
  match engine.approvalAuthenticator with
  | none => .ok []
  | some ring => do
      let selected ← select ring plan now approvals ∅
      return (selected.entries.insertionSort fun a b => a.1.str ≤ b.1.str).map Sigma.snd

/-- `_has_authenticated_whole_plan_review`. -/
def hasWholePlanReview (engine : PolicyEngine) (plan : ChangePlan) (approvals : List Approval)
    (now : Int) : Except Exn Bool := do
  let authenticated ← engine.authenticatedApprovals plan approvals now
  return authenticated.any fun (approval, _) =>
    plan.actions.all fun action => approval.approvedActionIds.contains action.actionId

end PolicyEngine

end

end MasterAgent
