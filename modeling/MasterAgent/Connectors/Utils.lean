import MasterAgent.Base.Client
import MasterAgent.Models.Results
import MasterAgent.Policy.Engine

/-!
# What the connectors share

Reading of parameters and responses, the check of the approved version, and results.
-/

namespace MasterAgent.Connectors
open Base

/-- `bool(value)` -/
def truthy : Json → Bool
  | .null => false
  | .bool b => b
  | .int n => n != 0
  | .float f => f.text != "0.0" && f.text != "-0.0"
  | .str s => !s.isEmpty
  | .arr items => !items.isEmpty
  | .obj fields => !fields.isEmpty

/-- `first or second` -/
def orElse (first second : Json) : Json := if truthy first then first else second

theorem orElse_str {s : String} {other : Json} (nonempty : s.isEmpty = false) :
    orElse (.str s) other = .str s := by
  refine if_pos ?_
  show (!s.isEmpty) = true
  rw [nonempty]
  rfl

/-- `data.get(key)` -/
def getValue (data : Json) (key : String) : Json := (data.get? key).getD .null

section
variable [Host]

/-- `string_parameter` of a required parameter. -/
def stringParameter (parameters : Fields) (key : String) : Except Exn String :=
  match present (.obj parameters) key with
  | none => .error (connectorError ("missing required parameter: " ++ key))
  | some value =>
    if (strip (pyStr value)).isEmpty then
      .error (connectorError ("parameter must not be empty: " ++ key))
    else .ok (strip (pyStr value))

/-- `enforce_expected_version` -/
def enforceExpectedVersion (action : AgentAction) (observed : Json) : Except Exn Unit :=
  match action.target.expectedVersion with
  | none => .ok ()
  | some expected =>
    if isNull observed || pyStr observed != expected then
      .error (versionConflictError ("version conflict for " ++ action.target.uri ++
        ": expected " ++ expected ++ ", observed " ++ pyStr observed))
    else .ok ()

/-- A version that passed is the approved one. -/
theorem enforceExpectedVersion_ok {action : AgentAction} {observed : Json}
    (passed : enforceExpectedVersion action observed = .ok ()) {version : String}
    (expected : action.target.expectedVersion = some version) : version = pyStr observed := by
  unfold enforceExpectedVersion at passed
  rw [expected] at passed
  by_contra differs
  have raised : (isNull observed || pyStr observed != version) = true :=
    Bool.or_eq_true_iff.mpr (.inr (bne_iff_ne.mpr (Ne.symm differs)))
  dsimp only at passed
  rw [if_pos raised] at passed
  cases passed

/-- An `ExecutionResult` with its digests. -/
def succeeded (action : AgentAction) (before after : Fields) (reference message : String)
    (compensation : Option CompensationDescriptor) : ExecutionResult :=
  ⟨action.actionId, .succeeded, some before, some after, some reference, message, compensation,
    resultStateDigest (some before), resultStateDigest (some after)⟩

end

end MasterAgent.Connectors
