import MasterAgent.Models.Systems

/-!
# Actions

A proposed operation with its target and parameters. Parameters are the members of a JSON
object: freezing them (`freeze_json_mapping`) changes no value. Results: the codec gives every
action back (`AgentAction.fromDict_toDict`), and the effect digest is taken of the payload
`effectPayload`.
-/

namespace MasterAgent
open Base

inductive AuthoritySource where
  | directUser | registeredWorkflow | organizationPolicy | retrievedInternalContent
  | retrievedExternalContent
deriving DecidableEq, Repr

namespace AuthoritySource

def str : AuthoritySource → String
  | directUser => "direct_user"
  | registeredWorkflow => "registered_workflow"
  | organizationPolicy => "organization_policy"
  | retrievedInternalContent => "retrieved_internal_content"
  | retrievedExternalContent => "retrieved_external_content"

def parse : String → Except Exn AuthoritySource :=
  parseEnum [directUser, registeredWorkflow, organizationPolicy, retrievedInternalContent,
    retrievedExternalContent] str "AuthoritySource"

@[simp]
theorem parse_str (a : AuthoritySource) : parse a.str = .ok a := by cases a <;> rfl

end AuthoritySource

inductive DataClassification where
  | pub | internal | confidential | restricted
deriving DecidableEq, Repr

namespace DataClassification

def str : DataClassification → String
  | pub => "public"
  | internal => "internal"
  | confidential => "confidential"
  | restricted => "restricted"

def parse : String → Except Exn DataClassification :=
  parseEnum [pub, internal, confidential, restricted] str "DataClassification"

@[simp]
theorem parse_str (c : DataClassification) : parse c.str = .ok c := by cases c <;> rfl

end DataClassification

/-! ## Resources -/

/-- What `ResourceRef.__post_init__` requires. -/
def resourceRefChecks (system resourceType resourceId : String)
    (expectedVersion : Option String) : List Check :=
  [(system, "system"), (resourceType, "resource_type"), (resourceId, "resource_id")].flatMap
    (fun (value, name) =>
      [require (!isBlank value) s!"{name} must not be empty",
        validateBoundedString value name,
        rejectControlCharacters value name]) ++
    match expectedVersion with
    | none => []
    | some version => [validateBoundedString version "expected_version"]

structure ResourceRef where
  system : String
  resourceType : String
  resourceId : String
  expectedVersion : Option String
  valid : firstError (resourceRefChecks system resourceType resourceId expectedVersion) = none
deriving DecidableEq

namespace ResourceRef

def make (system resourceType resourceId : String) (expectedVersion : Option String) :
    Except Exn ResourceRef :=
  build (resourceRefChecks system resourceType resourceId expectedVersion) fun valid =>
    ⟨system, resourceType, resourceId, expectedVersion, valid⟩

/-- `ResourceRef.uri`. -/
def uri (r : ResourceRef) : String := r.system ++ ":" ++ r.resourceId

/-- The target's members of an action payload. -/
def toDict (r : ResourceRef) : Json :=
  .mkObj [("system", .str r.system), ("resource_type", .str r.resourceType),
    ("resource_id", .str r.resourceId), ("expected_version", optStr r.expectedVersion)]

/-- The target an action payload describes. -/
def fromDict [Host] (data : Json) : Except Exn ResourceRef := do
  let system ← itemStr data "system"
  let resourceType ← itemStr data "resource_type"
  let resourceId ← itemStr data "resource_id"
  make system resourceType resourceId (getOptStr data "expected_version")

theorem fromDict_toDict [Host] (r : ResourceRef) : fromDict r.toDict = .ok r := by
  simp only [fromDict, toDict, itemStr, item, getOptStr, present, map_optStr, Json.get?_mkObj,
    Json.lookup_cons, String.reduceEq, reduceIte, Except.map, pyStr_str, ok_bind]
  exact build_ok r.valid

end ResourceRef

/-! ## Actions -/

structure AgentActionFields where
  capability : String
  target : ResourceRef
  parameters : Fields
  risk : RiskLevel
  authoritySource : AuthoritySource
  requiresApproval : Bool
  idempotencyKey : String
  justification : String
  dataClassification : DataClassification
  dependencies : List Uuid
  actionId : Uuid
deriving DecidableEq

/-- What `AgentAction.__post_init__` requires. -/
def AgentActionFields.checks (x : AgentActionFields) : List Check :=
  [require (x.capability.toList.contains '.' && !isBlank x.capability)
      "capability must be a non-empty domain-specific dotted name",
    rejectControlCharacters x.capability "capability",
    validateBoundedString x.capability "capability",
    require (!isBlank x.idempotencyKey) "idempotency_key must not be empty",
    require (!isBlank x.justification) "justification must not be empty",
    validateBoundedString x.idempotencyKey "idempotency_key",
    validateBoundedString x.justification "justification",
    require (x.dependencies.length ≤ MAX_ACTION_DEPENDENCIES)
      s!"action dependencies exceed the {MAX_ACTION_DEPENDENCIES}-item limit",
    require (x.actionId ∉ x.dependencies) "an action cannot depend on itself"] ++
    fits "action parameters" MAX_ACTION_PARAMETER_BYTES (.obj x.parameters)

structure AgentAction extends AgentActionFields where
  valid : firstError toAgentActionFields.checks = none
deriving DecidableEq

namespace AgentAction

def make (x : AgentActionFields) : Except Exn AgentAction :=
  build x.checks fun valid => ⟨x, valid⟩

def toDict (x : AgentAction) : Json :=
  .mkObj [("action_id", .str x.actionId.str),
    ("capability", .str x.capability),
    ("target", x.target.toDict),
    ("parameters", .obj x.parameters),
    ("risk", .str x.risk.str),
    ("data_classification", .str x.dataClassification.str),
    ("authority_source", .str x.authoritySource.str),
    ("requires_approval", .bool x.requiresApproval),
    ("idempotency_key", .str x.idempotencyKey),
    ("justification", .str x.justification),
    ("dependencies", textArray (x.dependencies.map Uuid.str))]

/-- What an idempotency key is bound to. -/
def effectPayload (x : AgentAction) : Json :=
  .mkObj [("capability", .str x.capability),
    ("target", x.target.toDict),
    ("parameters", .obj x.parameters),
    ("risk", .str x.risk.str),
    ("data_classification", .str x.dataClassification.str),
    ("authority_source", .str x.authoritySource.str),
    ("requires_approval", .bool x.requiresApproval)]

/-- `AgentAction.effect_fingerprint`. -/
def effectFingerprint [Host] (x : AgentAction) : String := stableSha256 x.effectPayload

/-- The dependencies of an action payload. -/
def decodeDependencies (data : Json) : Except Exn (List Json) :=
  match (data.get? "dependencies").getD (.arr []) with
  | .arr items => .ok items
  | _ => .error (validationError "dependencies must be a list")

def fromDict [Host] (data : Json) : Except Exn AgentAction := do
  let targetData ← expectMapping data "target"
  let rawDependencies ← decodeDependencies data
  let risk ← RiskLevel.parse (← itemStr data "risk")
  if risk = .readOnly ∧ data.get? "data_classification" = none then
    .error (validationError "serialized read actions require an explicit data_classification")
  else
    let capability ← itemStr data "capability"
    let target ← ResourceRef.fromDict targetData
    let parameters ← expectMapping data "parameters"
    let dataClassification ← DataClassification.parse
      (getStr data "data_classification" DataClassification.internal.str)
    let authoritySource ← AuthoritySource.parse (← itemStr data "authority_source")
    let requiresApproval ← strictBool (data.get? "requires_approval") "requires_approval"
    let idempotencyKey ← itemStr data "idempotency_key"
    let justification ← itemStr data "justification"
    let dependencies ← rawDependencies.mapM fun dependency => parseUuid (pyStr dependency)
    let actionId ← parseUuid (← itemStr data "action_id")
    make {
      parameters := match parameters with
        | .obj fields => fields
        | _ => []
      capability, target, risk, dataClassification, authoritySource, requiresApproval,
      idempotencyKey, justification, dependencies, actionId }

theorem parse_dependencies [Host] (xs : List Uuid) :
    ((xs.map Uuid.str).map Json.str).mapM (fun dependency => parseUuid (pyStr dependency)) =
      .ok xs := by
  rw [List.map_map]
  exact mapM_decode (by simp) xs

theorem fromDict_toDict [Host] (x : AgentAction) : fromDict x.toDict = .ok x := by
  have object : isObject x.target.toDict = true := rfl
  simp only [fromDict, toDict, itemStr, item, getStr, expectMapping, decodeDependencies,
    textArray, strictBool, Json.get?_mkObj, Json.lookup_cons, String.reduceEq, reduceIte,
    Except.map, pyStr_str, ok_bind, Option.getD_some, Option.elim_some, RiskLevel.parse_str,
    AuthoritySource.parse_str, DataClassification.parse_str, parseUuid_str, reduceCtorEq,
    and_false, object, isObject_obj, x.target.fromDict_toDict, parse_dependencies]
  exact build_ok x.valid

end AgentAction

end MasterAgent
