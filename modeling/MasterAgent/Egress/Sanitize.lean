import MasterAgent.Egress.Names
import MasterAgent.Models.Limits

/-!
# Sanitizing provider results

The rewriting passes over a verified provider result and the output contract applied to what they
leave. A mapping lists its items in the order of insertion; its keys are distinct texts. A lone
surrogate does not occur in a text.
-/

namespace MasterAgent
open Base

/-- A finding of the scanner. -/
structure SecurityFinding where
  category : String
  excerpt : String
  severity : String

/-- `PromptInjectionGuard().scan` -/
class InjectionGuard where
  scan : String → List SecurityFinding

/-- The parts of `urllib.parse` a minimized reference is built with. -/
class Links where
  /-- `urlsplit(text).port` -/
  port : String → Except Exn (Option Nat)
  /-- `urlunsplit((scheme, host, path, "", ""))` -/
  unsplit : String → String → String → String

/-- `mapping[key] = value`: an item keeps its place, a new one comes last. -/
def assign (key : String) (value : Json) : Fields → Fields
  | [] => [(key, value)]
  | (k, v) :: rest => if k = key then (k, value) :: rest else (k, v) :: assign key value rest

mutual
/-- The value with the items of every mapping in key order. -/
def keySorted : Json → Json
  | .arr items => .arr (keySortedItems items)
  | .obj fields => .mkObj (keySortedFields fields)
  | value => value
def keySortedItems : List Json → List Json
  | [] => []
  | item :: items => keySorted item :: keySortedItems items
def keySortedFields : Fields → Fields
  | [] => []
  | (key, value) :: fields => (key, keySorted value) :: keySortedFields fields
end

section
variable [Host] [CharTables]

/-- `_digest`, and `content_digest`: the digest of the rendering with sorted keys. -/
def egressDigest (value : Json) : String := Host.sha256 (keySorted value).dumps

/-! ## Hiding values -/

mutual
/-- A pass that replaces what is stored under the keys with a property. -/
def hideUnder (hidden : String → Bool) : Json → Json
  | .arr items => .arr (hideUnderItems hidden items)
  | .obj fields => .obj (hideUnderFields hidden fields)
  | value => value
def hideUnderItems (hidden : String → Bool) : List Json → List Json
  | [] => []
  | item :: items => hideUnder hidden item :: hideUnderItems hidden items
def hideUnderFields (hidden : String → Bool) : Fields → Fields
  | [] => []
  | (key, value) :: fields =>
      (key, if hidden key then .str "<redacted>" else hideUnder hidden value) ::
        hideUnderFields hidden fields
end

/-- `redact_secrets` -/
def redactSecrets (value : Json) : Json := hideUnder isSecretKey value

/-- `_redact_provider_secret_variants` -/
def redactProviderSecretVariants (value : Json) : Json := hideUnder isSecretVariant value

/-- `_redact_configured_fields` -/
def redactConfiguredFields (fields : List String) (value : Json) : Json :=
  hideUnder (fun key => fields.contains (fieldIdentity key)) value

/-! ## Findings and references of the provider -/

/-- The first text item of a finding under a key with the identity. -/
def findingText (identity : String) (finding : Fields) : Option String :=
  (finding.filterMap fun (key, value) => match value with
    | .str text => if fieldIdentity key = identity then some text else none
    | _ => none).head?

/-- `_finding_metadata` -/
def findingMetadata (finding : Fields) : Fields :=
  let kept := finding.filter fun (key, _) => !(["excerpt", "path"].contains (fieldIdentity key))
  let located := match findingText "path" finding with
    | some path => assign "path_sha256" (.str (egressDigest (.str path))) kept
    | none => kept
  match findingText "excerpt" finding with
  | some excerpt =>
      assign "excerpt_length" (.int excerpt.length)
        (assign "excerpt_sha256" (.str (egressDigest (.str excerpt))) located)
  | none => located

/-- The findings of a list, without their texts. -/
def findingsMetadata (findings : List Json) : List Json :=
  findings.filterMap fun finding => match finding with
    | .obj fields => some (.obj (findingMetadata fields))
    | _ => none

mutual
/-- `_minimize_prompt_injection_findings` -/
def minimizePromptInjectionFindings : Json → Json
  | .arr items => .arr (minimizeFindingsItems items)
  | .obj fields => .obj (minimizeFindingsFields fields)
  | value => value
def minimizeFindingsItems : List Json → List Json
  | [] => []
  | item :: items => minimizePromptInjectionFindings item :: minimizeFindingsItems items
def minimizeFindingsFields : Fields → Fields
  | [] => []
  | (key, value) :: fields =>
      (key, if fieldIdentity key = "promptinjectionfindings" then
          match value with
          | .arr findings => .arr (findingsMetadata findings)
          | _ => minimizePromptInjectionFindings value
        else minimizePromptInjectionFindings value) :: minimizeFindingsFields fields
end

/-- `_safe_reference` of a text. -/
def safeReference [Links] (value : String) (minimizePath : Bool) : Except Exn String := do
  let _ ← boundedStringBytes value "provider-data egress reference"
  match Host.urlsplit value, Links.port value with
  | .ok parsed, .ok port =>
      match parsed.hostname with
      | some hostname =>
          if parsed.scheme = "http" ∨ parsed.scheme = "https" then
            let host := (CharTables.lower hostname).toList.reverse.dropWhile (· == '.')
            let host := String.ofList host.reverse
            let host := if host.toList.contains ':' then "[" ++ host ++ "]" else host
            let host := match port with
              | some port => s!"{host}:{port}"
              | none => host
            let path := if minimizePath then s!"/_redacted/{egressDigest (.str parsed.path)}"
              else parsed.path
            return Links.unsplit parsed.scheme host path
          else return s!"reference:sha256:{egressDigest (.str value)}"
      | none => return s!"reference:sha256:{egressDigest (.str value)}"
  | _, _ => return s!"reference:sha256:{egressDigest (.str value)}"

/-- The key names a reference. -/
def isReferenceKey (key : String) : Bool :=
  let normalized := normalizeFieldName key
  let identity := withoutUnderscores normalized
  ["connectorreference", "href", "link", "reference", "sourceurl", "sourceurls", "url"].contains
      identity ||
    "_url".toList.isSuffixOf normalized.toList ||
    (4 < identity.length && "url".toList.isSuffixOf identity.toList)

variable [Links]

mutual
/-- `_minimize_references` -/
def minimizeReferences (minimizePath : Bool) (keyName : String) : Json → Except Exn Json
  | .arr items => do return .arr (← minimizeItems minimizePath keyName items)
  | .obj fields => do return .obj (← minimizeFields minimizePath fields)
  | .str text => do
      if isReferenceKey keyName then return .str (← safeReference text minimizePath)
      else return .str text
  | value => .ok value
def minimizeItems (minimizePath : Bool) (keyName : String) : List Json → Except Exn (List Json)
  | [] => .ok []
  | item :: items => do
      let item ← minimizeReferences minimizePath keyName item
      return item :: (← minimizeItems minimizePath keyName items)
def minimizeFields (minimizePath : Bool) : Fields → Except Exn Fields
  | [] => .ok []
  | (key, value) :: fields => do
      let value ← minimizeReferences minimizePath key value
      return (key, value) :: (← minimizeFields minimizePath fields)
end

/-! ## The binding -/

/-- What the authorization of a read fixes about its result. -/
structure ProviderDataEgressBindingFields where
  handling : ProviderDataHandling
  requestedFields : List String
  outputSchema : String
  outputResources : List (String × String)
  outputMetadataFields : List String
  requestedItemLimit : Option Int
  maxOutputBytes : Nat
  redactedFields : List String
  policyAllowedFields : List String

namespace ProviderDataEgressBindingFields

/-- The lists whose texts are checked, with the labels of their checks. -/
def textLists (x : ProviderDataEgressBindingFields) : List (String × List String) :=
  [("requested_fields", x.requestedFields),
    ("output_resource_fields", x.outputResources.map Prod.fst),
    ("output_metadata_fields", x.outputMetadataFields),
    ("redacted_fields", x.redactedFields), ("policy_allowed_fields", x.policyAllowedFields)]

/-- `_validate_binding_text` -/
def bindingText (value name : String) : List Check :=
  (validateText value name).map fun (holds, e) => (holds, validationError e.str)

/-- What `ProviderDataEgressBinding.__post_init__` requires of these fields. -/
def checks (x : ProviderDataEgressBindingFields) : List Check :=
  bindingText x.outputSchema "provider-data egress output_schema" ++
  [require (0 < x.maxOutputBytes && x.maxOutputBytes ≤ MAX_RUN_ARTIFACT_BYTES)
      "provider-data egress max_output_bytes is outside the supported range",
    require (x.requestedItemLimit.all (0 < ·))
      "provider-data egress requested_item_limit must be positive"] ++
  x.textLists.flatMap (fun (label, values) =>
    require (values.length ≤ MAX_RULE_ITEMS) s!"provider-data egress has too many {label}" ::
      values.flatMap (bindingText · s!"provider-data egress {label}")) ++
  x.outputResources.map (fun (_, descriptor) =>
    require (["object", "object_list", "value"].contains descriptor)
      "provider-data egress output resource type is unsupported") ++
  [require (x.outputResources.map Prod.fst).Nodup
      "provider-data egress output resources must be unique",
    require (!(x.outputResources.any fun (name, _) => x.outputMetadataFields.contains name))
      "provider-data egress output resource and metadata fields overlap",
    require (!((x.outputResources.map Prod.fst ++ x.outputMetadataFields).any isReserved))
      "provider-data egress output fields use reserved names"]

end ProviderDataEgressBindingFields

structure ProviderDataEgressBinding extends ProviderDataEgressBindingFields where
  valid : firstError toProviderDataEgressBindingFields.checks = none

/-! ## The output contract -/

omit [Host] [CharTables] [Links] in
/-- `_is_json_scalar` -/
def isJsonScalar : Json → Bool
  | .arr _ | .obj _ => false
  | _ => true

omit [Host] [CharTables] [Links] in
def isText : Json → Bool
  | .str _ => true
  | _ => false

omit [Host] [CharTables] [Links] in
/-- `_copy_output_metadata` -/
def copyOutputMetadata (key : String) (value : Json) (limit : Option Int) : Except Exn Json :=
  match key, value with
  | "source_urls", .arr items =>
      if !(items.all fun item => isNull item || isText item) then
        .error (validationError "provider-data egress source_urls metadata must be strings")
      else
        let sourceUrls := items.filter isText
        if limit.any fun (most : Int) => most + 1 < sourceUrls.length then
          .error (validationError
            "provider-data egress source_urls exceed the requested item limit")
        else .ok (.arr sourceUrls)
  | "source_urls", _ =>
      .error (validationError "provider-data egress source_urls metadata must be strings")
  | "retention", .obj fields =>
      if !(fields.all fun (name, _) =>
          ["content_kind", "evidence_type", "persistence_requires_explicit_output"].contains
            name) then
        .error (validationError "provider-data egress retention metadata has an invalid shape")
      else match fields.find? fun (name, item) => match item with
          | .bool _ => name ≠ "persistence_requires_explicit_output"
          | .str _ => name = "persistence_requires_explicit_output"
          | _ => true with
        | some (name, _) =>
            if name = "persistence_requires_explicit_output" then
              .error (validationError
                "provider-data egress retention persistence flag must be boolean")
            else .error (validationError
              "provider-data egress retention metadata must be strings")
        | none => .ok (.obj fields)
  | "retention", _ =>
      .error (validationError "provider-data egress retention metadata must be an object")
  | "repository", .obj fields =>
      if !(fields.all fun (name, item) => ["name", "owner", "slug"].contains name && isText item)
      then
        .error (validationError "provider-data egress repository context has an invalid shape")
      else .ok (.obj fields)
  | "repository", _ =>
      .error (validationError "provider-data egress repository context must be an object")
  | _, value =>
      if isJsonScalar value then .ok value
      else .error (validationError "provider-data egress envelope metadata must be a JSON scalar")

def CITATION_FIELDS : List String :=
  ["citation_id", "marker", "parent_resource_id", "resource_id", "resource_type", "retrieved_at",
    "system", "title", "url", "version"]

omit [Host] [CharTables] [Links] in
/-- The members of the mappings of a list, if it holds nothing else. -/
def onlyMappings : List Json → Option (List Fields)
  | [] => some []
  | .obj fields :: items => (onlyMappings items).map (fields :: ·)
  | _ => none

omit [Host] [CharTables] [Links] in
/-- `_sanitize_citations` -/
def sanitizeCitations (value : Json) (limit : Option Int) : Except Exn (List Json) :=
  match value with
  | .null => .ok []
  | .arr items =>
      match onlyMappings items with
      | none => .error (validationError "provider-data egress citations have an invalid shape")
      | some citations =>
          if limit.any fun (most : Int) => most < items.length then
            .error (validationError
              "provider-data egress citations exceed the requested item limit")
          else if citations.all fun citation => citation.all fun (key, item) =>
              CITATION_FIELDS.contains key && isJsonScalar item then .ok items
          else .error (validationError
            "provider-data egress citation has fields outside its fixed schema")
  | _ => .error (validationError "provider-data egress citations have an invalid shape")

mutual
/-- `_omit_reserved_resource_fields` -/
def omitReserved : Json → Json
  | .arr items => .arr (omitReservedItems items)
  | .obj fields => .obj (omitReservedFields fields)
  | value => value
def omitReservedItems : List Json → List Json
  | [] => []
  | item :: items => omitReserved item :: omitReservedItems items
def omitReservedFields : Fields → Fields
  | [] => []
  | (key, value) :: fields =>
      if isReserved key then omitReservedFields fields
      else (key, omitReserved value) :: omitReservedFields fields
end

/-- The items of a mapping under requested names. -/
def requestedItems (allowed : List String) (fields : Fields) : Fields :=
  fields.filter fun item => allowed.contains (normalizeFieldName item.1)

omit [Links] in
theorem requestedItems_cons {allowed : List String} {key : String} {value : Json}
    {fields : Fields} : requestedItems allowed ((key, value) :: fields) =
      if normalizeFieldName key ∈ allowed then (key, value) :: requestedItems allowed fields
      else requestedItems allowed fields := by
  simp [requestedItems, List.filter_cons]

/-- `_project_resource_object`, or the whole record when no fields were requested. -/
def projectEntry (requested : List String) (fields : Fields) : Fields :=
  if requested = [] then omitReservedFields fields
  else omitReservedFields (requestedItems (normalizedRequestedFields requested) fields)

/-- The projection of one resource; `none` when a scalar was not requested. -/
def projectResource (requested : List String) (key descriptor : String) (item : Json) :
    Except Exn (Option Json) :=
  match descriptor, item with
  | "object", .obj fields => .ok (some (.obj (projectEntry requested fields)))
  | "object", _ =>
      .error (validationError "provider-data egress object resource has an invalid shape")
  | "object_list", .arr items =>
      match onlyMappings items with
      | some entries => .ok (some (.arr (entries.map fun fields =>
          .obj (projectEntry requested fields))))
      | none =>
          .error (validationError "provider-data egress collection resource has an invalid shape")
  | "object_list", _ =>
      .error (validationError "provider-data egress collection resource has an invalid shape")
  | "value", item =>
      if !isJsonScalar item then
        .error (validationError "provider-data egress value resource must be a JSON scalar")
      else if requested = [] ∨ normalizeFieldName key ∈ normalizedRequestedFields requested then
        .ok (some item)
      else .ok none
  | _, _ => .error (validationError "provider-data egress output resource type is unsupported")

omit [Links] in
theorem projectResource_object {requested : List String} {key : String} {item : Json}
    {part : Option Json} (ran : projectResource requested key "object" item = .ok part) :
    ∃ fields, item = .obj fields ∧ part = some (.obj (projectEntry requested fields)) := by
  cases item with
  | obj fields => exact ⟨fields, rfl, (Except.ok.inj ran).symm⟩
  | _ => cases ran

omit [Links] in
theorem projectResource_list {requested : List String} {key : String} {item : Json}
    {part : Option Json} (ran : projectResource requested key "object_list" item = .ok part) :
    ∃ items entries, item = .arr items ∧ onlyMappings items = some entries ∧
      part = some (.arr (entries.map fun fields => .obj (projectEntry requested fields))) := by
  cases item with
  | arr items =>
      simp only [projectResource] at ran
      split at ran
      · next entries read => exact ⟨items, entries, rfl, read, (Except.ok.inj ran).symm⟩
      · cases ran
  | _ => cases ran

omit [Links] in
theorem projectResource_value {requested : List String} {key : String} {item : Json}
    {part : Option Json} (ran : projectResource requested key "value" item = .ok part) :
    part = if requested = [] ∨ normalizeFieldName key ∈ normalizedRequestedFields requested
      then some item else none := by
  simp only [projectResource] at ran
  split at ran
  · cases ran
  split at ran
  · next wanted => rw [if_pos wanted, Except.ok.inj ran]
  · next unwanted => rw [if_neg unwanted, Except.ok.inj ran]

omit [Links] in
theorem projectResource_descriptor {requested : List String} {key descriptor : String}
    {item : Json} {part : Option Json}
    (ran : projectResource requested key descriptor item = .ok part) :
    descriptor = "object" ∨ descriptor = "object_list" ∨ descriptor = "value" := by
  unfold projectResource at ran
  split at ran
  · exact .inl rfl
  · exact .inl rfl
  · exact .inr (.inl rfl)
  · exact .inr (.inl rfl)
  · exact .inr (.inr rfl)
  · cases ran

/-- The loop over the bound resources. -/
def projectResources (requested : List String) (value : Fields) :
    List (String × String) → Fields → Except Exn Fields
  | [], projected => .ok projected
  | (key, descriptor) :: resources, projected =>
      match value.lookup key with
      | none => .error (validationError
          "provider-data egress result is missing a bound resource field")
      | some item => do
          match ← projectResource requested key descriptor item with
          | some part => projectResources requested value resources (assign key part projected)
          | none => projectResources requested value resources projected

omit [Host] [CharTables] [Links] in
/-- The loop over the bound metadata fields. -/
def copyMetadata (limit : Option Int) (value : Fields) :
    List String → Fields → Except Exn Fields
  | [], projected => .ok projected
  | key :: keys, projected =>
      match value.lookup key with
      | none => copyMetadata limit value keys projected
      | some item => do
          let copied ← copyOutputMetadata key item limit
          copyMetadata limit value keys (assign key copied projected)

/-! ### The scan -/

omit [Host] [CharTables] [Links] in
/-- What the scan still may inspect, and the findings with their paths. -/
structure ScanState where
  remaining : Nat
  findings : List (String × SecurityFinding)

variable [InjectionGuard]

mutual
/-- The visit of `scan_untrusted_value`. -/
def scanNode (path : String) (s : ScanState) : Json → ScanState
  | .str text =>
      if s.remaining = 0 then s
      else
        let candidate := String.ofList (text.toList.take s.remaining)
        { remaining := s.remaining - candidate.length
          findings := s.findings ++ (InjectionGuard.scan candidate).map (path, ·) }
  | .obj fields => scanFields path s fields
  | .arr items => scanItems path 0 s items
  | _ => s
def scanItems (path : String) (index : Nat) (s : ScanState) : List Json → ScanState
  | [] => s
  | item :: items =>
      scanItems path (index + 1) (scanNode s!"{path}[{index}]" s item) items
def scanFields (path : String) (s : ScanState) : Fields → ScanState
  | [] => s
  | (key, value) :: fields => scanFields path (scanNode s!"{path}.{key}" s value) fields
end

/-- `scan_untrusted_value` -/
def scanUntrustedValue (value : Json) : List (String × SecurityFinding) :=
  (scanNode "$" ⟨200000, []⟩ value).findings

/-- A finding without its texts. -/
def findingSummary (located : String × SecurityFinding) : Json :=
  .obj [("category", .str located.2.category), ("severity", .str located.2.severity),
    ("path_sha256", .str (egressDigest (.str located.1))),
    ("excerpt_sha256", .str (egressDigest (.str located.2.excerpt))),
    ("excerpt_length", .int located.2.excerpt.length)]

/-- What the contract adds once the projection is complete. -/
def addEvidence (projected : Fields) : Fields :=
  assign "security" (.obj [("content_is_untrusted", .bool true),
      ("prompt_injection_findings",
        .arr ((scanUntrustedValue (.obj projected)).map findingSummary))])
    (assign "evidence" (.obj [("content_sha256", .str (egressDigest (.obj projected)))]) projected)

/-- The citations of a result for which no fields were requested. -/
def assignCitations (binding : ProviderDataEgressBinding) (value projected : Fields) :
    Except Exn Fields :=
  if binding.requestedFields = [] then do
    let citations ← sanitizeCitations ((value.lookup "citations").getD .null)
      binding.requestedItemLimit
    if citations.isEmpty then return projected
    else
      let ids := citations.filterMap fun citation => citation.get? "citation_id"
      return assign "citation_ids" (.arr ids) (assign "citations" (.arr citations) projected)
  else .ok projected

/-- `_apply_output_contract` -/
def applyOutputContract (value : Fields) (binding : ProviderDataEgressBinding) :
    Except Exn Fields := do
  if value.lookup "schema" ≠ some (.str binding.outputSchema) then
    .error (validationError
      "provider-data egress result does not match its bound output schema")
  else if !(value.all fun (key, _) => ("schema" :: binding.outputResources.map Prod.fst ++
      binding.outputMetadataFields ++ READ_RESULT_RESERVED_FIELDS).contains key) then
    .error (validationError
      "provider-data egress result has fields outside its bound output contract")
  else
    let projected ← copyMetadata binding.requestedItemLimit value binding.outputMetadataFields
      [("schema", .str binding.outputSchema)]
    let projected ← assignCitations binding value projected
    let projected ← projectResources binding.requestedFields value binding.outputResources projected
    let _ ← measureJsonResources "provider-data egress projected result" binding.maxOutputBytes
      (.obj projected)
    return addEvidence projected

omit [Host] [CharTables] [Links] [InjectionGuard] in
/-- `_enforce_item_limit` -/
def enforceItemLimit (value : Fields) (limit : Option Int) (resources : List (String × String)) :
    Except Exn Unit :=
  match limit with
  | none => .ok ()
  | some limit =>
      let counted (key : String) : Bool := match value.lookup key with
        | some (.int count) => limit < count
        | _ => false
      let listed := fun (resource : String × String) => resource.2 == "object_list" &&
        match value.lookup resource.1 with
        | some (.arr items) => limit < items.length
        | _ => false
      if counted "count" || counted "returned" || resources.any listed then
        .error (validationError "provider-data egress result exceeds the requested item limit")
      else .ok ()

/-- The passes of `sanitize_provider_mapping` before the output contract. -/
def rewrite (value : Fields) (binding : ProviderDataEgressBinding) : Except Exn Fields :=
  let redacted := redactProviderSecretVariants (redactSecrets (.obj value))
  let redacted := redactConfiguredFields (binding.redactedFields.map fieldIdentity) redacted
  match minimizePromptInjectionFindings redacted with
  | .obj fields => minimizeFields (binding.handling = .redact) fields
  | _ => .error (validationError "provider-data egress result must be an object")

/-- `sanitize_provider_mapping` -/
def sanitizeProviderMapping (value : Fields) (binding : ProviderDataEgressBinding) :
    Except Exn Fields := do
  let redacted ← rewrite value binding
  let normalized ← applyOutputContract redacted binding
  enforceItemLimit normalized binding.requestedItemLimit binding.outputResources
  let _ ← measureJsonResources "provider-data egress result" binding.maxOutputBytes
    (.obj normalized)
  if (keySorted (.obj normalized)).dumps.utf8ByteSize > binding.maxOutputBytes then
    .error (validationError "provider-data egress result exceeds the serialized byte limit")
  else return normalized

end

end MasterAgent
