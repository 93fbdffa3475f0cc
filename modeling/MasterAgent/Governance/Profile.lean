import MasterAgent.Egress.Rules

/-!
# The governance profile

Rules over capability patterns. The rule that governs a capability is the first of the most
specific rules that match it.

Results:

1. `validateAction_eq`, `minimumApprovers_eq`: both answers depend on the governing rule only
   through what it permits and the approvers it asks for;
2. `rule_order_free_iff`: they ignore the order of the rules exactly if the most specific matching
   rules agree on both.
-/

namespace MasterAgent.Governance
open Base Base.Selection

inductive EnvironmentKind where
  | development | nonProduction | production
deriving DecidableEq, Repr

def EnvironmentKind.str : EnvironmentKind → String
  | development => "development"
  | nonProduction => "non_production"
  | production => "production"

inductive ApprovalTier where
  | automatic | single | dual | prohibited
deriving DecidableEq, Repr

def ApprovalTier.str : ApprovalTier → String
  | automatic => "automatic"
  | single => "single"
  | dual => "dual"
  | prohibited => "prohibited"

/-! ## Rules -/

structure GovernanceRuleFields where
  pattern : String
  owner : String
  authentication : String
  dataClassifications : List DataClassification
  approvalTier : ApprovalTier
  environments : List EnvironmentKind
  enabled : Bool
deriving DecidableEq

/-- What `GovernanceRule.__post_init__` requires. -/
def GovernanceRuleFields.checks (x : GovernanceRuleFields) : List Check :=
  [configured (!isBlank x.pattern) "governance rule pattern must not be empty",
    configured (!isBlank x.owner) s!"governance owner must not be empty for {x.pattern}",
    configured (!isBlank x.authentication)
      s!"governance authentication must not be empty for {x.pattern}",
    configured (x.dataClassifications ≠ [])
      s!"governance data classifications are required for {x.pattern}",
    configured (x.environments ≠ []) s!"governance environments are required for {x.pattern}"]

structure GovernanceRule extends GovernanceRuleFields where
  valid : firstError toGovernanceRuleFields.checks = none
deriving DecidableEq

/-- The number of wildcard characters of a pattern. -/
def wildcards (pattern : String) : Nat := pattern.toList.count '*' + pattern.toList.count '?'

/-- `specificity`: the literal length, fewer wildcards, then the length, compared in this order. -/
def GovernanceRule.specificity (rule : GovernanceRule) : List Int :=
  let length : Int := rule.pattern.toList.length
  [length - wildcards rule.pattern, -wildcards rule.pattern, length]

/-! ## Profiles -/

structure GovernanceProfileFields where
  organization : String
  environment : EnvironmentKind
  secretManager : String
  auditSink : String
  externalModelPolicy : String
  rules : List GovernanceRule

/-- What `GovernanceProfile.__post_init__` requires. -/
def GovernanceProfileFields.checks (x : GovernanceProfileFields) : List Check :=
  [("organization", x.organization), ("secret_manager", x.secretManager),
    ("audit_sink", x.auditSink), ("external_model_policy", x.externalModelPolicy)].map
    fun (name, value) => configured (!isBlank value) s!"governance {name} must not be empty"

structure GovernanceProfile extends GovernanceProfileFields where
  valid : firstError toGovernanceProfileFields.checks = none

namespace GovernanceProfile

/-- `rule_for`: the first of the most specific rules that match. -/
def ruleFor (profile : GovernanceProfile) (capability : String) : Option GovernanceRule :=
  (profile.rules.filter fun rule => fnmatch capability rule.pattern).maxOn?
    GovernanceRule.specificity

/-- `validate_action` -/
def validateAction (profile : GovernanceProfile) (action : AgentAction) : Bool × String :=
  match profile.ruleFor action.capability with
  | none => (false, s!"no governance owner/rule covers {action.capability}")
  | some rule =>
      if !rule.enabled then (false, s!"governance rule disables {action.capability}")
      else if ¬rule.environments.contains profile.environment then
        (false, s!"capability {action.capability} is not allowed in {profile.environment.str}")
      else if ¬rule.dataClassifications.contains action.dataClassification then
        (false, s!"data classification {action.dataClassification.str} is not allowed " ++
          s!"for {action.capability}")
      else if rule.approvalTier = .prohibited then
        (false, s!"governance prohibits {action.capability}")
      else if rule.approvalTier = .automatic ∧
          action.risk ≠ .readOnly ∧ action.risk ≠ .localGeneration then
        (false, s!"write capability {action.capability} cannot use automatic " ++
          "governance approval")
      else (true, s!"governed by {rule.owner} ({rule.approvalTier.str})")

/-- `minimum_approvers` -/
def minimumApprovers (profile : GovernanceProfile) (capability : String) : Except Exn Nat :=
  match profile.ruleFor capability with
  | none => .error (configurationError s!"no governance owner/rule covers {capability}")
  | some rule =>
      if !rule.enabled then .error (configurationError s!"governance prohibits {capability}")
      else match rule.approvalTier with
        | .prohibited => .error (configurationError s!"governance prohibits {capability}")
        | .automatic => .ok 0
        | .single => .ok 1
        | .dual => .ok 2

/-- The same profile with its rules in another order. -/
def reordered (profile : GovernanceProfile) (rules : List GovernanceRule) : GovernanceProfile where
  toGovernanceProfileFields := { profile.toGovernanceProfileFields with rules := rules }
  valid := profile.valid

end GovernanceProfile

/-! ## What a rule decides -/

namespace GovernanceRule

/-- The rule lets the action run in the environment. -/
def Permits (rule : GovernanceRule) (environment : EnvironmentKind) (action : AgentAction) : Prop :=
  rule.enabled = true ∧ environment ∈ rule.environments ∧
    action.dataClassification ∈ rule.dataClassifications ∧ rule.approvalTier ≠ .prohibited ∧
    (rule.approvalTier = .automatic →
      action.risk = .readOnly ∨ action.risk = .localGeneration)

instance (rule : GovernanceRule) (environment : EnvironmentKind) (action : AgentAction) :
    Decidable (rule.Permits environment action) := by
  unfold Permits
  infer_instance

/-- The tier of a rule that is in force. -/
def effectiveTier (rule : GovernanceRule) : ApprovalTier :=
  if rule.enabled then rule.approvalTier else .prohibited

end GovernanceRule

/-- The approvers a tier asks for, or the refusal. -/
def ApprovalTier.approvers (capability : String) : ApprovalTier → Except Exn Nat
  | automatic => .ok 0
  | single => .ok 1
  | dual => .ok 2
  | prohibited => .error (configurationError s!"governance prohibits {capability}")

theorem ApprovalTier.approvers_inj {capability : String} {a b : ApprovalTier} :
    a.approvers capability = b.approvers capability ↔ a = b := by
  cases a <;> cases b <;> simp [approvers]

namespace GovernanceProfile

variable (profile : GovernanceProfile)

/-- Acceptance depends on the governing rule through what it permits. -/
theorem validateAction_eq (action : AgentAction) :
    (profile.validateAction action).1 =
      (profile.ruleFor action.capability).elim false
        fun rule => decide (rule.Permits profile.environment action) := by
  unfold validateAction
  cases profile.ruleFor action.capability with
  | none => rfl
  | some rule =>
      simp only [Option.elim_some, GovernanceRule.Permits]
      split_ifs with disabled environment classification prohibited automatic
      all_goals simp_all
      tauto

/-- The number of approvers depends on the governing rule through its tier. -/
theorem minimumApprovers_eq (capability : String) :
    profile.minimumApprovers capability =
      (profile.ruleFor capability).elim
        (.error (configurationError s!"no governance owner/rule covers {capability}"))
        fun rule => rule.effectiveTier.approvers capability := by
  unfold minimumApprovers
  cases profile.ruleFor capability with
  | none => rfl
  | some rule =>
      simp only [Option.elim_some, GovernanceRule.effectiveTier]
      cases rule.enabled with
      | false => rfl
      | true => cases rule.approvalTier <;> rfl

/-! ## The order of the rules -/

/-- The rule is one of the most specific ones that match the capability. -/
def MostSpecific (capability : String) (rule : GovernanceRule) : Prop :=
  Best GovernanceRule.specificity
    (profile.rules.filter fun rule => fnmatch capability rule.pattern) rule

/-- No order of the rules changes whether the action is accepted or how many approvers its
capability needs. -/
def RuleOrderFree (action : AgentAction) : Prop :=
  ∀ rules : List GovernanceRule, rules.Perm profile.rules →
    ((profile.reordered rules).validateAction action).1 = (profile.validateAction action).1 ∧
    (profile.reordered rules).minimumApprovers action.capability =
      profile.minimumApprovers action.capability

/-- What both answers read of the governing rule. -/
def answers (action : AgentAction) (governing : Option GovernanceRule) : Bool × Except Exn Nat :=
  (governing.elim false fun rule => decide (rule.Permits profile.environment action),
    governing.elim
      (.error (configurationError s!"no governance owner/rule covers {action.capability}"))
      fun rule => rule.effectiveTier.approvers action.capability)

/-- The order of the rules is irrelevant exactly if the most specific rules that match agree on
whether they permit the action and on their tier in force. -/
theorem rule_order_free_iff (action : AgentAction) :
    profile.RuleOrderFree action ↔
      ∀ r s, profile.MostSpecific action.capability r → profile.MostSpecific action.capability s →
        (r.Permits profile.environment action ↔ s.Permits profile.environment action) ∧
          r.effectiveTier = s.effectiveTier := by
  have first := @first_order_free_iff _ _ _ GovernanceRule.specificity _
    (profile.answers action) (fun rule => fnmatch action.capability rule.pattern) profile.rules
  have agree : ∀ r s : GovernanceRule,
      profile.answers action (some r) = profile.answers action (some s) ↔
        (r.Permits profile.environment action ↔ s.Permits profile.environment action) ∧
          r.effectiveTier = s.effectiveTier := by
    intro r s
    rw [answers, answers, Prod.mk.injEq, Option.elim_some, Option.elim_some, decide_eq_decide,
      Option.elim_some, Option.elim_some, ApprovalTier.approvers_inj]
  calc profile.RuleOrderFree action
      ↔ ∀ order : List GovernanceRule, order.Perm profile.rules →
          profile.answers action ((profile.reordered order).ruleFor action.capability) =
            profile.answers action (profile.ruleFor action.capability) := by
        refine forall_congr' fun order => imp_congr_right fun _ => ?_
        rw [validateAction_eq, validateAction_eq, minimumApprovers_eq, minimumApprovers_eq,
          answers, answers, Prod.mk.injEq]
        rfl
    _ ↔ _ := first
    _ ↔ _ := forall_congr' fun r => forall_congr' fun s => by rw [agree]; rfl

/-! ### Two rules for one pattern -/

namespace Samples

def wikiRule (tier : ApprovalTier) : GovernanceRule where
  pattern := "wiki.*"
  owner := "docs"
  authentication := "oauth"
  dataClassifications := [.internal]
  approvalTier := tier
  environments := [.production]
  enabled := true
  valid := by cases tier <;> decide

/-- The same pattern needs one approver and is prohibited. -/
def torn : GovernanceProfile where
  organization := "acme"
  environment := .production
  secretManager := "vault"
  auditSink := "sink"
  externalModelPolicy := "none"
  rules := [wikiRule .single, wikiRule .prohibited]
  valid := by decide

theorem wikiRule_matches (tier : ApprovalTier) :
    fnmatch "wiki.update" (wikiRule tier).pattern = true := by
  simp [wikiRule, fnmatch, globTokens, globMatch, GlobToken.accepts]

/-- Of two rules for the pattern, the first one governs. -/
theorem governed_by_first (a b : ApprovalTier) :
    (torn.reordered [wikiRule a, wikiRule b]).ruleFor "wiki.update" = some (wikiRule a) := by
  have matching : ([wikiRule a, wikiRule b].filter fun rule => fnmatch "wiki.update" rule.pattern) =
      [wikiRule a, wikiRule b] := by
    simp only [List.filter_cons, wikiRule_matches, if_true, List.filter_nil]
  show ([wikiRule a, wikiRule b].filter fun rule => fnmatch "wiki.update" rule.pattern).maxOn?
    GovernanceRule.specificity = some (wikiRule a)
  rw [matching]
  refine first_of_head fun s hs => ?_
  rw [List.mem_singleton.mp hs]
  exact le_refl (wikiRule a).specificity

/-- Swapping the two rules refuses the action that was accepted. -/
theorem torn_depends_on_order : ¬torn.RuleOrderFree sampleWrite := by
  intro free
  have swapped := (free [wikiRule .prohibited, wikiRule .single] (.swap _ _ _)).1
  have before : torn.ruleFor sampleWrite.capability = some (wikiRule .single) :=
    governed_by_first .single .prohibited
  have after : (torn.reordered [wikiRule .prohibited, wikiRule .single]).ruleFor
      sampleWrite.capability = some (wikiRule .prohibited) :=
    governed_by_first .prohibited .single
  rw [validateAction_eq, validateAction_eq, before, after] at swapped
  exact absurd swapped (by decide)

end Samples

end GovernanceProfile

end MasterAgent.Governance
