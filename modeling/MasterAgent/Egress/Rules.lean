import MasterAgent.Base.Selection
import MasterAgent.Policy.Engine

/-!
# Provider data rules

The rules of a model context, and the one that decides a request: the only most specific one that
matches it.

Results:

1. `evaluate_perm`: the decision ignores the order of the rules;
2. `evaluate_permits`: only a matching rule that does not deny permits a request;
3. `decides_iff`: a rule decides exactly if it exceeds every other matching rule in specificity;
4. `precedence_iff`: when narrower rules go before broader ones.
-/

namespace MasterAgent
open Base Base.Selection

/-- The character classes of `str` and `re` the egress code tests. -/
class CharTables where
  /-- `str.isprintable` of one character. -/
  printable : Char → Bool
  /-- The class `\w` of a Unicode pattern. -/
  word : Char → Bool
  /-- `str.lower` -/
  lower : String → String

/-- The tables on ASCII. -/
@[reducible]
def asciiTables : CharTables where
  printable c := 32 ≤ c.toNat && c.toNat < 127
  word c := c.isAlphanum || c == '_'
  lower := String.map Char.toLower

inductive ProviderDataRoute where
  | ephemeral | audited
deriving DecidableEq, Repr

def ProviderDataRoute.str : ProviderDataRoute → String
  | ephemeral => "ephemeral"
  | audited => "audited"

inductive ProviderDataHandling where
  | allow | redact | deny
deriving DecidableEq, Repr

/-! ## Rules -/

def MAX_RULE_ITEMS : Nat := 128
def MAX_RULE_TEXT : Nat := 256
def MAX_RUN_ARTIFACT_BYTES : Nat := 64 * 1024 * 1024

/-- A requirement on configuration. -/
def configured (holds : Bool) (message : String) : Check := (holds, configurationError message)

/-- `_validate_text` -/
def validateText [CharTables] (value name : String) : List Check :=
  [configured (value ≠ "" && value == strip value && value.length ≤ MAX_RULE_TEXT)
      s!"{name} must be a bounded normalized string",
    configured (value.toList.all CharTables.printable)
      s!"{name} must contain printable characters"]

/-- A rule. Its sets are listed in the order they are iterated. -/
structure ModelContextRuleFields where
  name : String
  providers : List String
  capabilities : List String
  dataClassifications : List DataClassification
  destinations : List String
  modelTenancies : List String
  routes : List ProviderDataRoute
  handling : ProviderDataHandling
  auditRequired : Bool
  dlpRequired : Bool
  redactedFields : List String
  allowedFields : List String
  maxItems : Int
  maxOutputBytes : Int
deriving DecidableEq

namespace ModelContextRuleFields

/-- What `__post_init__` requires of one of the four text lists. -/
def listChecks [CharTables] (x : ModelContextRuleFields) (label : String) (values : List String) :
    List Check :=
  configured (values ≠ []) s!"model-context rule {x.name} requires {label}" ::
  configured (values.length ≤ MAX_RULE_ITEMS)
    s!"model-context rule {x.name} has too many {label}" ::
  values.flatMap (validateText · s!"model-context rule {x.name} {label}")

/-- The rule lets confidential or restricted data through. -/
def highSensitivity (x : ModelContextRuleFields) : Bool :=
  x.handling ≠ .deny &&
    (x.dataClassifications.contains .confidential || x.dataClassifications.contains .restricted)

/-- What `ModelContextRule.__post_init__` requires. -/
def checks [CharTables] (x : ModelContextRuleFields) : List Check :=
  validateText x.name "model-context rule name" ++
  x.listChecks "providers" x.providers ++
  x.listChecks "capabilities" x.capabilities ++
  x.listChecks "destinations" x.destinations.dedup ++
  x.listChecks "model_tenancies" x.modelTenancies.dedup ++
  [configured (x.dataClassifications ≠ [])
      s!"model-context rule {x.name} requires data classifications",
    configured (x.routes ≠ []) s!"model-context rule {x.name} requires routes",
    configured (!(x.auditRequired && x.routes.contains .ephemeral))
      (s!"model-context rule {x.name} cannot require audit on an " ++ "ephemeral route"),
    configured (x.handling ≠ .redact || x.redactedFields ≠ [] || x.dlpRequired)
      s!"model-context rule {x.name} redaction requires fields or DLP",
    configured (0 < x.maxOutputBytes && x.maxOutputBytes ≤ MAX_RUN_ARTIFACT_BYTES)
      (s!"model-context rule {x.name} max_output_bytes must be between " ++
        s!"1 and {MAX_RUN_ARTIFACT_BYTES}")] ++
  x.redactedFields.flatMap (validateText · s!"model-context rule {x.name} redacted field") ++
  [configured (x.allowedFields ≠ []) s!"model-context rule {x.name} requires allowed_fields",
    configured (x.allowedFields.dedup.length ≤ MAX_RULE_ITEMS)
      s!"model-context rule {x.name} has too many allowed_fields"] ++
  x.allowedFields.flatMap (validateText · s!"model-context rule {x.name} allowed field") ++
  [configured (!(x.allowedFields.contains "*" && x.allowedFields.dedup.length ≠ 1))
      s!"model-context rule {x.name} wildcard allowed_fields must stand alone",
    configured (!(x.highSensitivity && x.routes.contains .ephemeral))
      (s!"model-context rule {x.name} must keep high-sensitivity " ++
        "data on the audited route"),
    configured (!(x.highSensitivity && !x.auditRequired))
      (s!"model-context rule {x.name} must require audit for " ++ "high-sensitivity data"),
    configured (!(x.highSensitivity && x.allowedFields.contains "*"))
      (s!"model-context rule {x.name} must explicitly bound " ++ "high-sensitivity fields"),
    configured (0 < x.maxItems && x.maxItems ≤ MAX_JSON_COLLECTION_ITEMS)
      (s!"model-context rule {x.name} max_items must be between 1 and " ++
        s!"{MAX_JSON_COLLECTION_ITEMS}")]

end ModelContextRuleFields

structure ModelContextRule [CharTables] extends ModelContextRuleFields where
  valid : firstError toModelContextRuleFields.checks = none
deriving DecidableEq

/-- The characters of a pattern that stand for themselves. -/
def literals (pattern : String) : Nat := (pattern.toList.filter fun c => c ≠ '*' ∧ c ≠ '?').length

/-- A pattern without wildcards. -/
def isExact (pattern : String) : Bool := !pattern.toList.contains '*' && !pattern.toList.contains '?'

/-- What a rule is asked about. -/
structure EgressRequest where
  provider : String
  capability : String
  dataClassification : DataClassification
  route : ProviderDataRoute
deriving DecidableEq

namespace ModelContextRule

variable [CharTables] (rule : ModelContextRule)

/-- `specificity`: exact patterns, literal characters, exact destination and tenancy, then fewer
patterns, compared in this order. -/
def specificity : List Int :=
  let patterns := rule.providers ++ rule.capabilities
  [patterns.countP isExact, (patterns.map literals).sum,
    (if rule.destinations.contains "*" then 0 else 1) +
      (if rule.modelTenancies.contains "*" then 0 else 1),
    -patterns.length]

/-- `matches` -/
def covers (request : EgressRequest) (destination modelTenancy : String) : Bool :=
  rule.providers.any (fnmatch request.provider ·) &&
    rule.capabilities.any (fnmatch request.capability ·) &&
    rule.dataClassifications.contains request.dataClassification &&
    (rule.destinations.contains destination || rule.destinations.contains "*") &&
    (rule.modelTenancies.contains modelTenancy || rule.modelTenancies.contains "*") &&
    rule.routes.contains request.route

end ModelContextRule

/-! ## Policies -/

structure ProviderDataEgressPolicyFields [CharTables] where
  destination : String
  modelTenancy : String
  sourceDataEnvironment : String
  dlpAdapter : String
  developmentDefaultClassification : Option DataClassification
  rules : List ModelContextRule

/-- What `ProviderDataEgressPolicy.__post_init__` requires. -/
def ProviderDataEgressPolicyFields.checks [CharTables] (x : ProviderDataEgressPolicyFields) :
    List Check :=
  [("destination", x.destination), ("model_tenancy", x.modelTenancy),
    ("source_data_environment", x.sourceDataEnvironment), ("dlp_adapter", x.dlpAdapter)].flatMap
      (fun (name, value) => validateText value s!"model-context {name}") ++
  [configured (["nonproduction", "production"].contains x.sourceDataEnvironment)
      ("model-context source_data_environment must be nonproduction or " ++ "production"),
    configured (!x.rules.isEmpty) "model-context rules are required",
    configured (x.rules.map (·.name)).Nodup "model-context rule names must be unique"]

structure ProviderDataEgressPolicy [CharTables] extends ProviderDataEgressPolicyFields where
  valid : firstError toProviderDataEgressPolicyFields.checks = none

/-- The outcome of a request. -/
structure ProviderDataPolicyDecision [CharTables] where
  permitted : Bool
  reason : String
  rule : Option ModelContextRule
deriving DecidableEq

/-- `implemented_dlp_adapter`: no adapter is wired into the runtime. -/
def implementedDlpAdapter (_name : String) : Option String := none

namespace ProviderDataEgressPolicy

variable [CharTables] (policy : ProviderDataEgressPolicy)

/-- The rule covers the request under the active destination and tenancy. -/
def covering (request : EgressRequest) (rule : ModelContextRule) : Bool :=
  rule.covers request policy.destination policy.modelTenancy

/-- `evaluate` -/
def evaluate (request : EgressRequest) (auditAvailable : Bool) : ProviderDataPolicyDecision :=
  let candidates := policy.rules.filter (policy.covering request)
  if candidates.isEmpty then
    ⟨false, "no model-context rule approves " ++
      s!"{request.dataClassification.str} data from {request.provider} for " ++
      s!"{policy.destination}/{policy.modelTenancy} on {request.route.str}", none⟩
  else match greatest ModelContextRule.specificity candidates with
    | [rule] =>
        if rule.handling = .deny then
          ⟨false, s!"model-context rule {rule.name} denies provider data", some rule⟩
        else if rule.auditRequired && !auditAvailable then
          ⟨false, s!"model-context rule {rule.name} requires an implemented audit route", some rule⟩
        else if rule.dlpRequired && (implementedDlpAdapter policy.dlpAdapter).isNone then
          ⟨false, s!"model-context rule {rule.name} requires an implemented DLP adapter", some rule⟩
        else
          ⟨true, s!"model-context rule {rule.name} approves provider-data egress", some rule⟩
    | _ => ⟨false, "model-context policy has ambiguous equally specific rules", none⟩

/-! ## Which rule decides -/

/-- The rule decides the request. -/
def Decides (request : EgressRequest) (auditAvailable : Bool) (rule : ModelContextRule) : Prop :=
  (policy.evaluate request auditAvailable).rule = some rule

/-- Every request that `s` matches is matched by `r` too, and not conversely. -/
def Narrower (s r : ModelContextRule) : Prop :=
  (∀ request, policy.covering request s = true → policy.covering request r = true) ∧
    ∃ request, policy.covering request r = true ∧ policy.covering request s = false

theorem rules_nodup : policy.rules.Nodup := by
  have named := firstError_none.mp policy.valid (configured (policy.rules.map (·.name)).Nodup
    "model-context rule names must be unique") (by simp [ProviderDataEgressPolicyFields.checks])
  simp only [configured, decide_eq_true_eq] at named
  exact List.Nodup.of_map _ named

/-- A rule decides exactly if it matches and exceeds every other matching rule. -/
theorem decides_iff {request : EgressRequest} {auditAvailable : Bool} {r : ModelContextRule} :
    policy.Decides request auditAvailable r ↔
      r ∈ policy.rules ∧ policy.covering request r = true ∧
        ∀ s ∈ policy.rules, policy.covering request s = true → s ≠ r →
          s.specificity < r.specificity := by
  have nodup := policy.rules_nodup.filter (policy.covering request)
  have single := @greatest_eq_singleton _ _ _ ModelContextRule.specificity _ nodup r
  simp only [List.mem_filter, and_imp] at single
  rw [← and_assoc, ← single]
  unfold Decides evaluate
  constructor
  · intro decided
    simp only at decided
    split at decided
    · cases decided
    split at decided
    · next rule only =>
        have same : rule = r := by
          split_ifs at decided <;> exact Option.some.inj decided
        rw [only, same]
    · cases decided
  · intro only
    have nonempty : ¬(policy.rules.filter (policy.covering request)).isEmpty = true := by
      intro empty
      rw [List.isEmpty_iff.mp empty] at only
      cases only
    simp only [if_neg nonempty, only]
    split_ifs <;> rfl

/-- The decision is the same for every order of the rules. -/
theorem evaluate_perm {other : ProviderDataEgressPolicy}
    (destination : other.destination = policy.destination)
    (modelTenancy : other.modelTenancy = policy.modelTenancy)
    (dlpAdapter : other.dlpAdapter = policy.dlpAdapter)
    (reordered : other.rules.Perm policy.rules) (request : EgressRequest) (auditAvailable : Bool) :
    other.evaluate request auditAvailable = policy.evaluate request auditAvailable := by
  have covering : other.covering request = policy.covering request := by
    funext rule
    unfold ProviderDataEgressPolicy.covering
    rw [destination, modelTenancy]
  have candidates := reordered.filter (policy.covering request)
  have best := @greatest_perm _ _ _ ModelContextRule.specificity _ _ candidates
  unfold evaluate
  rw [covering, destination, modelTenancy, dlpAdapter]
  simp only [candidates.isEmpty_eq]
  split
  · rfl
  cases mine : greatest ModelContextRule.specificity
      (policy.rules.filter (policy.covering request)) with
  | nil =>
      rw [mine, List.perm_nil] at best
      rw [best]
  | cons first rest =>
      cases rest with
      | nil =>
          rw [mine, List.perm_singleton] at best
          rw [best]
      | cons second rest =>
          rw [mine] at best
          have long := best.length_eq
          split
          · next rule only => rw [only] at long; cases long
          · rfl

/-- Only a matching rule that does not deny permits a request. -/
theorem evaluate_permits {request : EgressRequest} {auditAvailable : Bool}
    (permitted : (policy.evaluate request auditAvailable).permitted = true) :
    ∃ rule ∈ policy.rules, policy.covering request rule = true ∧ rule.handling ≠ .deny := by
  unfold evaluate at permitted
  simp only at permitted
  split at permitted
  · cases permitted
  split at permitted
  · next rule only =>
      have best : rule ∈ greatest ModelContextRule.specificity
          (policy.rules.filter (policy.covering request)) := by
        rw [only]
        exact List.mem_singleton_self rule
      obtain ⟨listed, covers⟩ := List.mem_filter.mp ((greatest_sublist _).subset best)
      refine ⟨rule, listed, covers, fun denies => ?_⟩
      rw [if_pos denies] at permitted
      cases permitted
  · cases permitted

/-- The rule that decides permits the request if it does not deny and its controls are there. -/
theorem permitted_of_decides {request : EgressRequest} {auditAvailable : Bool}
    {r : ModelContextRule} (decides : policy.Decides request auditAvailable r)
    (lets : r.handling ≠ .deny) (audited : r.auditRequired = false ∨ auditAvailable = true)
    (unscreened : r.dlpRequired = false) :
    (policy.evaluate request auditAvailable).permitted = true := by
  unfold Decides evaluate at decides
  unfold evaluate
  simp only at decides ⊢
  split at decides
  · cases decides
  next nonempty =>
  rw [if_neg nonempty]
  split at decides
  · next rule only =>
      have same : rule = r := by
        split_ifs at decides <;> exact Option.some.inj decides
      subst same
      rcases audited with audited | audited <;> simp [lets, audited, unscreened]
  · cases decides

/-- What precedence among rules promises about a request: the order of the rules is irrelevant,
only a rule that does not deny permits, and a rule never decides over a narrower one. -/
structure Precedence (request : EgressRequest) (auditAvailable : Bool) : Prop where
  order_free : ∀ other : ProviderDataEgressPolicy, other.destination = policy.destination →
    other.modelTenancy = policy.modelTenancy → other.dlpAdapter = policy.dlpAdapter →
    other.rules.Perm policy.rules →
    other.evaluate request auditAvailable = policy.evaluate request auditAvailable
  permits : (policy.evaluate request auditAvailable).permitted = true →
    ∃ rule ∈ policy.rules, policy.covering request rule = true ∧ rule.handling ≠ .deny
  narrower_first : ∀ r ∈ policy.rules, ∀ s ∈ policy.rules, policy.covering request r = true →
    policy.covering request s = true → policy.Narrower s r →
    ¬policy.Decides request auditAvailable r

/-- Precedence holds exactly if no rule whose specificity exceeds that of every other matching rule
is broader than one of them. -/
theorem precedence_iff (request : EgressRequest) (auditAvailable : Bool) :
    policy.Precedence request auditAvailable ↔
      ∀ r ∈ policy.rules, ∀ s ∈ policy.rules, policy.covering request r = true →
        policy.covering request s = true → policy.Narrower s r →
        ∃ t ∈ policy.rules, policy.covering request t = true ∧ t ≠ r ∧
          r.specificity ≤ t.specificity := by
  constructor
  · intro precedence r hr s hs r_covers s_covers narrower
    have undecided := precedence.narrower_first r hr s hs r_covers s_covers narrower
    rw [decides_iff] at undecided
    push Not at undecided
    obtain ⟨t, ht, t_covers, other, above⟩ := undecided hr r_covers
    exact ⟨t, ht, t_covers, other, above⟩
  · intro rivalled
    refine ⟨fun other destination modelTenancy dlpAdapter reordered =>
      policy.evaluate_perm destination modelTenancy dlpAdapter reordered request auditAvailable,
      policy.evaluate_permits, fun r hr s hs r_covers s_covers narrower decides => ?_⟩
    obtain ⟨t, ht, t_covers, other, above⟩ := rivalled r hr s hs r_covers s_covers narrower
    exact absurd above (not_le_of_gt ((policy.decides_iff.mp decides).2.2 t ht t_covers other))

end ProviderDataEgressPolicy

/-! ## A broad rule with many exact patterns -/

namespace Rules.Samples

local instance : CharTables := asciiTables

def rule (name : String) (providers capabilities : List String)
    (handling : ProviderDataHandling) : ModelContextRuleFields where
  name := name
  providers := providers
  capabilities := capabilities
  dataClassifications := [.internal]
  destinations := ["*"]
  modelTenancies := ["*"]
  routes := [.audited]
  handling := handling
  auditRequired := false
  dlpRequired := false
  redactedFields := []
  allowedFields := ["*"]
  maxItems := 10
  maxOutputBytes := 1000

/-- Two providers with all their capabilities. -/
def broad : ModelContextRule :=
  ⟨rule "broad" ["jira", "wiki"] ["*"] .allow, by decide +kernel⟩

/-- One family of capabilities of one of them. -/
def narrow : ModelContextRule :=
  ⟨rule "narrow" ["jira"] ["jira.*"] .deny, by decide +kernel⟩

def policy : ProviderDataEgressPolicy where
  destination := "host"
  modelTenancy := "tenant"
  sourceDataEnvironment := "production"
  dlpAdapter := "none"
  developmentDefaultClassification := none
  rules := [broad, narrow]
  valid := by decide +kernel

def request : EgressRequest := ⟨"jira", "jira.get", .internal, .audited⟩

theorem fnmatch_star (name : String) : fnmatch name "*" = true := by
  have all : ∀ cs : List Char, globMatch [.star] cs = true := by
    intro cs
    induction cs with
    | nil => simp [globMatch]
    | cons c cs ih => simp [globMatch, ih]
  simpa [fnmatch, globTokens] using all name.toList

theorem broad_covers_narrow (q : EgressRequest) (covered : policy.covering q narrow = true) :
    policy.covering q broad = true := by
  simp [ProviderDataEgressPolicy.covering, ModelContextRule.covers, narrow, rule] at covered
  simp [ProviderDataEgressPolicy.covering, ModelContextRule.covers, broad, rule, fnmatch_star,
    covered]

theorem narrower : policy.Narrower narrow broad := by
  refine ⟨broad_covers_narrow, ⟨"wiki", "jira.get", .internal, .audited⟩, ?_, ?_⟩
  · simp [ProviderDataEgressPolicy.covering, ModelContextRule.covers, broad, rule, fnmatch,
      globTokens, globMatch, GlobToken.accepts, policy]
  · simp [ProviderDataEgressPolicy.covering, ModelContextRule.covers, narrow, rule,
      fnmatch, globTokens, globMatch, GlobToken.accepts]

theorem narrow_covers : policy.covering request narrow = true := by
  simp [ProviderDataEgressPolicy.covering, ModelContextRule.covers, narrow, rule, request,
    fnmatch, globTokens, globMatch, GlobToken.accepts]

/-- The broad rule allows what the narrower one denies. -/
theorem broad_overrides_narrow : policy.Decides request false broad ∧
    (policy.evaluate request false).permitted = true ∧ narrow.handling = .deny ∧
    ¬policy.Precedence request false := by
  have covers := broad_covers_narrow request narrow_covers
  have decides : policy.Decides request false broad := by
    rw [ProviderDataEgressPolicy.decides_iff]
    refine ⟨by simp [policy], covers, fun s hs _ other => ?_⟩
    have listed : s = broad ∨ s = narrow := by simpa [policy] using hs
    rcases listed with rfl | rfl
    · exact absurd rfl other
    · decide
  refine ⟨decides, ?_, rfl, fun precedence => ?_⟩
  · exact policy.permitted_of_decides decides (by decide) (.inl (by decide)) (by decide)
  · exact precedence.narrower_first broad (by simp [policy]) narrow (by simp [policy]) covers
      narrow_covers narrower decides

end Rules.Samples

end MasterAgent
