import Mathlib.Data.Rat.Cast.Order
import MasterAgent.Performance.Vocabulary

/-!
# Performance evidence

`PerformanceSnapshot`: the evidence of one execution attempt and what its constructor requires.
Durations are exact numbers.

Results:

1. `boundedText_idem`: bounding a bounded identifier changes nothing;
2. `new_ok_iff`: the constructor accepts exactly the fields that pass its checks.
-/

namespace MasterAgent.Performance
open Base StrEnum

/-! ## Bounded identifiers -/

def knownCapabilities : List String :=
  ["bitbucket.branch.push", "bitbucket.build_status.read", "bitbucket.instance.read",
    "bitbucket.public_repository.list", "bitbucket.pull_request.create",
    "bitbucket.pull_request.diffstat", "bitbucket.pull_request.merge",
    "bitbucket.pull_request.read", "bitbucket.pull_request.search", "bitbucket.repository.read",
    "confluence.page.compensate", "confluence.page.create", "confluence.page.create.draft",
    "confluence.page.read", "confluence.page.search", "confluence.page.update",
    "confluence.page.update.draft", "confluence.space.create", "github.checks.read",
    "github.collaborator.access.update", "github.issue.create", "github.public_repository.list",
    "github.pull_request.create", "github.pull_request.read", "github.pull_request.search",
    "github.repository.list", "github.repository.read", "github.repository.settings.update",
    "identity.identifier.resolve", "identity.person.list", "identity.person.resolve",
    "jira.issue.comment.create", "jira.issue.comment.draft", "jira.issue.compensate",
    "jira.issue.read", "jira.issue.search", "jira.issue.transition",
    "jira.issue.transition.draft", "jira.issue.update", "jira.issue.update.draft",
    "jira.server.info", "microsoft.identity.read", "microsoft.identity.search",
    "onenote.notebook.list", "onenote.page.create", "onenote.page.list", "onenote.page.read",
    "onenote.page.update", "onenote.section.list", "outlook.attachment.list",
    "outlook.attachment.text.read", "outlook.email.draft", "outlook.email.send",
    "outlook.mail_folder.list", "outlook.message.read", "outlook.message.search",
    "powerpoint.presentation.generate", "reddit.comment.create", "reddit.comment.draft",
    "reddit.comment.reply", "reddit.comment.reply.draft", "reddit.content.delete",
    "reddit.content.edit", "reddit.content.read", "reddit.inbox.read", "reddit.post.create",
    "reddit.post.draft", "reddit.search", "reddit.subreddit.rules.read",
    "reddit.user.comments.read", "reddit.user.submitted.read", "repository.branch.create",
    "repository.branch.plan", "repository.branch.push", "repository.commit.create",
    "repository.patch.apply", "repository.patch.generate", "sharepoint.drive.children",
    "sharepoint.drive.list", "sharepoint.file.metadata.read", "sharepoint.file.text.read",
    "sharepoint.file.upload", "sharepoint.site.read", "sharepoint.site.search",
    "teams.channel.list", "teams.channel.message.list", "teams.channel.message.read",
    "teams.channel.message.replies.list", "teams.channel.message.reply",
    "teams.channel.message.send", "teams.chat.list", "teams.chat.message.list",
    "teams.chat.message.read", "teams.chat.message.send", "teams.message.draft",
    "teams.team.list"]

/-- One of the known identifiers, or `other`. An object that is no string is `none`. -/
def boundedText (known : List String) (value : Option String) : String :=
  let rendered := value.getD ""
  if rendered ∈ known then rendered else "other"

theorem boundedText_idem (known : List String) (value : Option String) :
    boundedText known (some (boundedText known value)) = boundedText known value := by
  unfold boundedText
  dsimp only [Option.getD_some]
  by_cases member : value.getD "" ∈ known
  · rw [if_pos member, if_pos member]
  · rw [if_neg member]
    split <;> rfl

/-- `bounded_capability` -/
def boundedCapability : Option String → String := boundedText knownCapabilities
/-- `bounded_risk` -/
def boundedRisk : Option String → String := boundedText knownRisks
/-- `bounded_system` -/
def boundedSystem : Option String → String := boundedText knownSystems

/-- `_bounded_runtime_value` -/
def boundedRuntimeValue (rendered : String) : Check :=
  (["macos", "linux", "windows", "unsupported", "posix-macos", "posix-linux",
    "windows-native-partial", "windows-unavailable"].contains rendered,
    valueError "performance runtime identity is invalid")

/-! ### Versions and commits -/

/-- What can be left after one or more digits. -/
def afterDigits : List Char → List (List Char)
  | [] => []
  | c :: cs => if c.isDigit then cs :: afterDigits cs else []

/-- What can be left after a point and one or more digits. -/
def afterGroup : List Char → List (List Char)
  | '.' :: cs => afterDigits cs
  | _ => []

/-- `_VERSION_PATTERN.fullmatch` -/
def isVersionText (text : String) : Bool :=
  let one := (afterDigits text.toList).flatMap afterGroup
  let two := one.flatMap afterGroup
  let three := two.flatMap afterGroup
  (one ++ two ++ three).any fun rest =>
    rest.length ≤ 16 && rest.all fun c => c.isAlphanum || c == '.' || c == '+' || c == '-'

/-- `_bounded_version` -/
def boundedVersion (rendered : String) : String :=
  if isVersionText rendered then rendered else "unbound"

def isCommitText (text : String) : Bool :=
  (text.length == 40 || text.length == 64) && text.toList.all isLowerHex

/-- `_bounded_commit` -/
def boundedCommit [Host] (value : String) : String :=
  let rendered := casefold value
  if rendered = "unbound" then rendered
  else if isCommitText rendered then rendered else "unbound"

/-! ## Durations -/

/-- Durations as exact numbers. `rounded` is the rounding to nine digits, `repr` writes a float,
`float` is the number a float's text denotes, and `parse` the float that a document's numeral is
read as. -/
class Durations where
  rounded : ℚ → ℚ
  repr : ℚ → FloatText
  float : FloatText → ℚ
  parse : String → Option FloatText
  rounded_idem : ∀ q, rounded (rounded q) = rounded q
  rounded_mono : ∀ {p q}, p ≤ q → rounded p ≤ rounded q
  rounded_zero : rounded 0 = 0
  float_repr : ∀ q, float (repr (rounded q)) = rounded q
  parse_repr : ∀ q, parse (repr (rounded q)).text = some (repr (rounded q))

section
variable [Durations]
open Durations

/-- `StageMeasurement` after its constructor. -/
structure StageMeasurement where
  stage : PerformanceStage
  wallSeconds : ℚ
  cpuSeconds : ℚ
  occurrences : Int
  wall_rounded : rounded wallSeconds = wallSeconds
  cpu_rounded : rounded cpuSeconds = cpuSeconds
  counted : 0 ≤ occurrences ∧ occurrences ≤ MAX_COUNT

/-- `_finite_non_negative` of an exact number. -/
def nonNegative (value : ℚ) (name : String) : Except Exn ℚ :=
  if value < 0 then .error (valueError s!"{name} must be finite and non-negative") else .ok value

/-- `StageMeasurement(…)` -/
def StageMeasurement.new (stage : PerformanceStage) (wall cpu : ℚ) (occurrences : Int) :
    Except Exn StageMeasurement := do
  let wall ← nonNegative wall "performance stage wall time"
  let cpu ← nonNegative cpu "performance stage CPU time"
  if counted : 0 ≤ occurrences ∧ occurrences ≤ MAX_COUNT then
    .ok ⟨stage, rounded wall, rounded cpu, occurrences, rounded_idem wall, rounded_idem cpu,
      counted⟩
  else .error (valueError "performance stage occurrences are out of range")

def StageMeasurement.toDict (measurement : StageMeasurement) : Json :=
  .obj [("stage", .str (str measurement.stage)),
    ("wall_seconds", .float (repr (rounded measurement.wallSeconds))),
    ("cpu_seconds", .float (repr (rounded measurement.cpuSeconds))),
    ("occurrences", .int measurement.occurrences)]

end

/-! ## Connector implementations -/

def NATIVE_CONNECTOR_IMPLEMENTATION : String := "native"
def PENDING_CONNECTOR_IMPLEMENTATION : String := "unbound_pending_170"

/-- What the constructor of a dimension requires. -/
def dimensionChecks (system implementation : String) (bound : Bool) : List Check :=
  [(knownSystems.contains system, valueError "connector implementation system is not bounded"),
    ((implementation == NATIVE_CONNECTOR_IMPLEMENTATION && bound) ||
      (implementation == PENDING_CONNECTOR_IMPLEMENTATION && !bound),
      valueError "connector implementation identity is not fixed")]

structure ConnectorImplementationDimension where
  system : String
  implementation : String
  bound : Bool
  valid : firstError (dimensionChecks system implementation bound) = none
deriving DecidableEq

def ConnectorImplementationDimension.new (system implementation : String) (bound : Bool) :
    Except Exn ConnectorImplementationDimension :=
  build (dimensionChecks system implementation bound) (⟨system, implementation, bound, ·⟩)

def ConnectorImplementationDimension.toDict (dimension : ConnectorImplementationDimension) : Json :=
  .obj [("system", .str dimension.system), ("implementation", .str dimension.implementation),
    ("bound", .bool dimension.bound)]

/-! ## Snapshots -/

def PERFORMANCE_SCHEMA : String := "master-agent/performance@1"

structure SnapshotFields [Durations] where
  measurementMode : MeasurementMode
  caseId : PerformanceCase
  platform : String
  runtimeBackend : String
  masterAgentVersion : String
  commitIdentity : String
  capabilities : List String
  riskTiers : List String
  systems : List String
  connectorImplementations : List ConnectorImplementationDimension
  stages : List StageMeasurement
  counters : PerformanceCounter → Int
  transportCallsByPhase : TransportPhase → Int
  retriesByReason : RetryReason → Int
  outcomes : PerformanceOutcome → Int
  providerActivity : KnownSystem → ProviderActivity → Int
  schema : String

/-- `_require_ordered_bounded_values` -/
def orderedBoundedChecks (values : List String) (mapper : Option String → String) (name : String) :
    List Check :=
  [(values.map (fun value => mapper (some value)) == values,
      valueError s!"{name} contain unbounded values"),
    (values == sortedSet values, valueError s!"{name} are not unique and ordered")]

/-- `_freeze_enum_counts` of a complete table. -/
def countChecks {E : Type} [StrEnum E] (counts : E → Int) : List Check :=
  (members : List E).map fun e => (decide (0 ≤ counts e ∧ counts e ≤ MAX_COUNT),
    valueError "performance count is outside its bounded range")

/-- The counts of one activity over the systems. -/
def activityTotal (rows : KnownSystem → ProviderActivity → Int) (activity : ProviderActivity) : Int :=
  total fun system => rows system activity

/-- The transport calls of every phase but the attestation. -/
def phaseProviderCalls (calls : TransportPhase → Int) : Int :=
  (((members : List TransportPhase).filter (· ≠ .principalAttestation)).map calls).sum

section
variable [Durations]

namespace SnapshotFields

/-- `expected_counts` -/
def expectedCounts (x : SnapshotFields) : List (PerformanceCounter × Int) :=
  [(.selectedSystems, x.systems.length),
    (.selectedConnectorImplementations, x.connectorImplementations.length),
    (.credentialResolutions, activityTotal x.providerActivity .credentialResolutions),
    (.connectorInitializations, activityTotal x.providerActivity .connectorInitializations),
    (.principalAttestations, activityTotal x.providerActivity .principalAttestations),
    (.providerTransportCalls, activityTotal x.providerActivity .providerTransportCalls),
    (.verificationCalls, activityTotal x.providerActivity .verificationCalls),
    (.retries, total x.retriesByReason)]

/-- `_validate_derived_counts` -/
def derivedChecks (x : SnapshotFields) : List Check :=
  x.expectedCounts.map (fun (counter, expected) => (x.counters counter == expected,
    valueError ("performance counter is inconsistent: " ++ str counter))) ++
  [(x.counters .providerTransportCalls == phaseProviderCalls x.transportCallsByPhase,
    valueError "performance provider transport phases are inconsistent")]

/-- What `__post_init__` requires, in its order. -/
def checks (x : SnapshotFields) : List Check :=
  [(x.schema == PERFORMANCE_SCHEMA, valueError "unsupported performance schema"),
    boundedRuntimeValue x.platform, boundedRuntimeValue x.runtimeBackend] ++
  orderedBoundedChecks x.capabilities boundedCapability "performance capabilities" ++
  orderedBoundedChecks x.riskTiers boundedRisk "performance risk tiers" ++
  orderedBoundedChecks x.systems boundedSystem "performance systems" ++
  [(x.connectorImplementations.map (·.system) ==
        sortedSet (x.connectorImplementations.map (·.system)),
      valueError "performance connector implementations are not unique and ordered"),
    ((x.connectorImplementations.map (·.system)).all x.systems.contains,
      valueError "performance connector implementations are not selected systems"),
    (x.stages.map (·.stage) == members,
      valueError "performance stages are not complete and ordered")] ++
  countChecks x.counters ++ countChecks x.transportCallsByPhase ++
  countChecks x.retriesByReason ++ countChecks x.outcomes ++
  (members : List KnownSystem).flatMap (fun system => countChecks (x.providerActivity system)) ++
  x.derivedChecks

/-- Identifiers of the version and the commit are normalized. -/
def normalize [Host] (x : SnapshotFields) : SnapshotFields :=
  { x with
    masterAgentVersion := boundedVersion x.masterAgentVersion
    commitIdentity := boundedCommit x.commitIdentity }

/-- What the normalization leaves. -/
def Normal (x : SnapshotFields) : Prop :=
  (x.masterAgentVersion = "unbound" ∨ isVersionText x.masterAgentVersion = true) ∧
    (x.commitIdentity = "unbound" ∨ isCommitText x.commitIdentity = true)

theorem normalize_normal [Host] (x : SnapshotFields) : x.normalize.Normal := by
  constructor
  · show boundedVersion _ = _ ∨ isVersionText (boundedVersion _) = true
    unfold boundedVersion
    split
    · next version => exact .inr version
    · exact .inl rfl
  · show boundedCommit _ = _ ∨ isCommitText (boundedCommit _) = true
    unfold boundedCommit
    dsimp only
    split
    · next unbound => exact .inl unbound
    split
    · next commit => exact .inr commit
    · exact .inl rfl

end SnapshotFields

structure PerformanceSnapshot where
  fields : SnapshotFields
  normal : fields.Normal
  valid : firstError fields.checks = none

/-- `PerformanceSnapshot(…)` -/
def PerformanceSnapshot.new [Host] (x : SnapshotFields) : Except Exn PerformanceSnapshot :=
  build x.normalize.checks (⟨x.normalize, x.normalize_normal, ·⟩)

/-- The checks do not read what is normalized. -/
theorem checks_normalize [Host] (x : SnapshotFields) : x.normalize.checks = x.checks := rfl

/-- The constructor accepts exactly the fields that pass its checks. -/
theorem new_ok_iff [Host] {x : SnapshotFields} :
    (∃ snapshot, PerformanceSnapshot.new x = .ok snapshot) ↔ ∀ c ∈ x.checks, c.1 = true := by
  rw [← checks_normalize, ← firstError_none]
  constructor
  · rintro ⟨snapshot, built⟩
    exact (of_build_ok built).1
  · intro valid
    exact ⟨_, build_ok valid⟩

end

end MasterAgent.Performance
