import Mathlib.Algebra.Order.BigOperators.Group.List
import MasterAgent.Base.JsonLoads
import MasterAgent.Models.Checks

/-!
# Performance vocabularies

The evidence is made of fixed identifiers and counts. An enumeration lists its members in the
order of their definition, and a table of counts has a count for every member.

Results:

1. `total_update`: more events of one kind are as many more in total;
2. `le_total`: no count exceeds the total.
-/

namespace MasterAgent.Performance
open Base

def MAX_COUNT : Int := 1000000

/-! ## Sums of counts -/

theorem sum_update {E : Type} [DecidableEq E] (e : E) (n : Int) (counts : E → Int) :
    ∀ {listed : List E}, listed.Nodup →
      (listed.map (Function.update counts e (counts e + n))).sum =
        (listed.map counts).sum + if e ∈ listed then n else 0
  | [], _ => rfl
  | d :: rest, distinct => by
      obtain ⟨apart, tail⟩ := List.nodup_cons.mp distinct
      have ih := sum_update e n counts tail
      rw [List.map_cons, List.sum_cons, List.map_cons, List.sum_cons, ih]
      by_cases same : d = e
      · subst same
        rw [Function.update_self, if_neg apart, if_pos List.mem_cons_self]
        omega
      · rw [Function.update_of_ne same]
        by_cases later : e ∈ rest
        · rw [if_pos later, if_pos (List.mem_cons_of_mem d later)]
          omega
        · rw [if_neg later, if_neg fun listed => (List.mem_cons.mp listed).elim
            (fun eq => same eq.symm) later]
          omega

theorem le_sum {E : Type} {counts : E → Int} (nonneg : ∀ e, 0 ≤ counts e) {e : E} :
    ∀ {listed : List E}, e ∈ listed → counts e ≤ (listed.map counts).sum
  | d :: rest, listed => by
      rw [List.map_cons, List.sum_cons]
      have others : 0 ≤ (rest.map counts).sum := by
        refine List.sum_nonneg ?_
        intro n member
        obtain ⟨f, -, rfl⟩ := List.mem_map.mp member
        exact nonneg f
      rcases List.mem_cons.mp listed with rfl | later
      · omega
      · have := le_sum nonneg later
        have := nonneg d
        omega

/-! ## Enumerations -/

/-- A `StrEnum` with its members in order. -/
class StrEnum (E : Type) where
  members : List E
  str : E → String
  complete : ∀ e, e ∈ members
  distinct : (members.map str).Nodup

namespace StrEnum
variable {E : Type} [StrEnum E]

/-- `E(text)` -/
def parse? (text : String) : Option E := (members : List E).find? fun e => str e == text

theorem members_nodup : (members : List E).Nodup := List.Nodup.of_map _ distinct

/-- The sum of the counts of a table. -/
def total (counts : E → Int) : Int := ((members : List E).map counts).sum

/-- More events of one kind are as many more in total. -/
theorem total_update [DecidableEq E] (e : E) (n : Int) (counts : E → Int) :
    total (Function.update counts e (counts e + n)) = total counts + n := by
  rw [total, sum_update e n counts members_nodup, if_pos (complete e), total]

/-- No count exceeds the total. -/
theorem le_total {counts : E → Int} (nonneg : ∀ e, 0 ≤ counts e) (e : E) :
    counts e ≤ total counts := le_sum nonneg (complete e)

end StrEnum

open StrEnum

inductive MeasurementMode where
  | deterministic | localRuntime | managedRuntime
deriving DecidableEq

instance : StrEnum MeasurementMode where
  members := [.deterministic, .localRuntime, .managedRuntime]
  str
    | .deterministic => "deterministic"
    | .localRuntime => "local_runtime"
    | .managedRuntime => "managed_runtime"
  complete e := by cases e <;> decide
  distinct := by decide

inductive PerformanceCase where
  | runtime | isolatedRead | reversibleWrite | consequentialCommunication | highRiskDenial
  | t1Ewir001 | controlledFalseSuccess | controlledDuplicateEffect
deriving DecidableEq

instance : StrEnum PerformanceCase where
  members := [.runtime, .isolatedRead, .reversibleWrite, .consequentialCommunication,
    .highRiskDenial, .t1Ewir001, .controlledFalseSuccess, .controlledDuplicateEffect]
  str
    | .runtime => "runtime"
    | .isolatedRead => "isolated_read"
    | .reversibleWrite => "reversible_write"
    | .consequentialCommunication => "consequential_communication"
    | .highRiskDenial => "high_risk_denial"
    | .t1Ewir001 => "T1-EWIR-001"
    | .controlledFalseSuccess => "controlled_false_success"
    | .controlledDuplicateEffect => "controlled_duplicate_effect"
  complete e := by cases e <;> decide
  distinct := by decide

inductive PerformanceStage where
  | requestParseRoute | selection | governanceValidation | policyEvaluation | approval
  | credentialResolution | principalAttestation | connectorInitialization | providerExecution
  | providerNetwork | verification | verificationNetwork | idempotencyReconciliation
  | compensation | auditRetention | sanitization | render | endToEndTotal
deriving DecidableEq

instance : StrEnum PerformanceStage where
  members := [.requestParseRoute, .selection, .governanceValidation, .policyEvaluation, .approval,
    .credentialResolution, .principalAttestation, .connectorInitialization, .providerExecution,
    .providerNetwork, .verification, .verificationNetwork, .idempotencyReconciliation,
    .compensation, .auditRetention, .sanitization, .render, .endToEndTotal]
  str
    | .requestParseRoute => "request_parse_route"
    | .selection => "capability_risk_system_implementation_selection"
    | .governanceValidation => "governance_catalog_source_egress_validation"
    | .policyEvaluation => "policy_evaluation"
    | .approval => "approval_preparation_resumption"
    | .credentialResolution => "credential_resolution"
    | .principalAttestation => "principal_attestation"
    | .connectorInitialization => "connector_initialization"
    | .providerExecution => "provider_execution"
    | .providerNetwork => "provider_network_wait"
    | .verification => "verification"
    | .verificationNetwork => "verification_network_wait"
    | .idempotencyReconciliation => "idempotency_reconciliation"
    | .compensation => "compensation"
    | .auditRetention => "audit_retention"
    | .sanitization => "sanitization"
    | .render => "render"
    | .endToEndTotal => "end_to_end_total"
  complete e := by cases e <;> decide
  distinct := by decide +kernel

inductive TransportPhase where
  | execution | verification | principalAttestation | reconciliation | compensation
deriving DecidableEq

instance : StrEnum TransportPhase where
  members := [.execution, .verification, .principalAttestation, .reconciliation, .compensation]
  str
    | .execution => "execution"
    | .verification => "verification"
    | .principalAttestation => "principal_attestation"
    | .reconciliation => "reconciliation"
    | .compensation => "compensation"
  complete e := by cases e <;> decide
  distinct := by decide

inductive PerformanceCounter where
  | selectedSystems | selectedConnectorImplementations | connectorInitializations
  | credentialResolutions | principalAttestations | providerTransportCalls | verificationCalls
  | retries | modelAdvisoryCalls | governanceInteractions | approvalInteractions
deriving DecidableEq

instance : StrEnum PerformanceCounter where
  members := [.selectedSystems, .selectedConnectorImplementations, .connectorInitializations,
    .credentialResolutions, .principalAttestations, .providerTransportCalls, .verificationCalls,
    .retries, .modelAdvisoryCalls, .governanceInteractions, .approvalInteractions]
  str
    | .selectedSystems => "selected_systems"
    | .selectedConnectorImplementations => "selected_connector_implementations"
    | .connectorInitializations => "connector_initializations"
    | .credentialResolutions => "credential_resolutions"
    | .principalAttestations => "principal_attestations"
    | .providerTransportCalls => "provider_transport_calls"
    | .verificationCalls => "verification_calls"
    | .retries => "retries"
    | .modelAdvisoryCalls => "model_advisory_calls"
    | .governanceInteractions => "governance_interactions"
    | .approvalInteractions => "approval_interactions"
  complete e := by cases e <;> decide
  distinct := by decide +kernel

inductive RetryReason where
  | http429 | http502 | http503 | http504 | networkTimeout | networkDns | transportFailure
deriving DecidableEq

instance : StrEnum RetryReason where
  members := [.http429, .http502, .http503, .http504, .networkTimeout, .networkDns,
    .transportFailure]
  str
    | .http429 => "http_429"
    | .http502 => "http_502"
    | .http503 => "http_503"
    | .http504 => "http_504"
    | .networkTimeout => "network_timeout"
    | .networkDns => "network_dns"
    | .transportFailure => "transport_failure"
  complete e := by cases e <;> decide
  distinct := by decide

inductive PerformanceOutcome where
  | verified | failedPreEffect | compensated | partially | indeterminate
  | controlledFalseSuccess | duplicateEffect
deriving DecidableEq

instance : StrEnum PerformanceOutcome where
  members := [.verified, .failedPreEffect, .compensated, .partially, .indeterminate,
    .controlledFalseSuccess, .duplicateEffect]
  str
    | .verified => "verified"
    | .failedPreEffect => "failed_pre_effect"
    | .compensated => "compensated"
    | .partially => "partial"
    | .indeterminate => "indeterminate"
    | .controlledFalseSuccess => "controlled_false_success"
    | .duplicateEffect => "duplicate_effect"
  complete e := by cases e <;> decide
  distinct := by decide

inductive ProviderActivity where
  | credentialResolutions | connectorInitializations | principalAttestations
  | providerTransportCalls | verificationCalls
deriving DecidableEq

instance : StrEnum ProviderActivity where
  members := [.credentialResolutions, .connectorInitializations, .principalAttestations,
    .providerTransportCalls, .verificationCalls]
  str
    | .credentialResolutions => "credential_resolutions"
    | .connectorInitializations => "connector_initializations"
    | .principalAttestations => "principal_attestations"
    | .providerTransportCalls => "provider_transport_calls"
    | .verificationCalls => "verification_calls"
  complete e := by cases e <;> decide
  distinct := by decide

/-- `_KNOWN_SYSTEMS` -/
inductive KnownSystem where
  | bitbucket | confluence | github | identity | jira | microsoft | onenote | outlook | reddit
  | repository | sharepoint | teams | other
deriving DecidableEq

instance : StrEnum KnownSystem where
  members := [.bitbucket, .confluence, .github, .identity, .jira, .microsoft, .onenote, .outlook,
    .reddit, .repository, .sharepoint, .teams, .other]
  str
    | .bitbucket => "bitbucket"
    | .confluence => "confluence"
    | .github => "github"
    | .identity => "identity"
    | .jira => "jira"
    | .microsoft => "microsoft"
    | .onenote => "onenote"
    | .outlook => "outlook"
    | .reddit => "reddit"
    | .repository => "repository"
    | .sharepoint => "sharepoint"
    | .teams => "teams"
    | .other => "other"
  complete e := by cases e <;> decide
  distinct := by decide +kernel

/-- `_KNOWN_SYSTEMS` as texts. -/
def knownSystems : List String := (members : List KnownSystem).map str

def knownRisks : List String :=
  ["read_only", "local_generation", "reversible_write", "external_communication", "high_impact",
    "destructive"]

end MasterAgent.Performance
