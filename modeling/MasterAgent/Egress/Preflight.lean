import MasterAgent.Egress.Influence

/-!
# The field projection and the policy's fields

The preflight of a read admits its requested fields by folded case; the projection of the result
selects items by normal form.

Results:

1. `mem_resourceKeys`: the keys of the projected resources are those of the prepared result that
   are requested and not reserved;
2. `projection_within_policy_iff`: when every key of the projected resources stands for a field the
   policy allows.
-/

namespace MasterAgent.Egress
open Base

/-- The read contract of a capability. -/
structure CapabilityDefinition where
  name : String
  readResultSchema : String
  readResultResources : List (String × String)
  readResultMetadata : List String

section
variable [Host] [CharTables]

/-- The `fields` parameter as a tuple of names. -/
def rawFields (parameters : Fields) : Except Exn (List String) :=
  match parameters.lookup "fields" with
  | none | some .null => .ok []
  | some (.str field) => .ok [field]
  | some (.obj fields) => .ok (sortBy id (fields.map Prod.fst))
  | some (.arr items) =>
      match asStrings items with
      | some fields => .ok (sortedSet fields)
      | none => .error (configurationError
          "provider-data requested fields must be a string, string list, or object")
  | some _ => .error (configurationError
      "provider-data requested fields must be a string, string list, or object")

/-- `_requested_field_binding`: the requested fields of an action whose capability has a read
contract. -/
def requestedFieldBinding (action : AgentAction) (definition : CapabilityDefinition) :
    Except Exn (List String) := do
  let fields ← rawFields action.parameters
  match firstError (fields.flatMap (validateText · "provider-data requested field")) with
  | some e => .error e
  | none =>
      if fields.filter isReserved ≠ [] then
        .error (configurationError ("provider-data requested fields use reserved result names: " ++
          ", ".intercalate (sortBy id (fields.filter isReserved))))
      else if definition.readResultSchema = "" ∨ definition.readResultResources = [] then
        .error (configurationError (s!"provider read capability {definition.name} requires a " ++
          "versioned read result contract"))
      else .ok fields

theorem requestedFieldBinding_unreserved {action : AgentAction} {definition : CapabilityDefinition}
    {requested : List String} (ran : requestedFieldBinding action definition = .ok requested) :
    ∀ field ∈ requested, isReserved field = false := by
  unfold requestedFieldBinding at ran
  obtain ⟨raw, _, ran⟩ := of_bind_ok ran
  cases texts : firstError (raw.flatMap (validateText · "provider-data requested field")) with
  | some e =>
      simp only [texts] at ran
      cases ran
  | none =>
      simp only [texts] at ran
      split_ifs at ran with reserved contract
      cases ran
      rw [ne_eq, not_not, List.filter_eq_nil_iff] at reserved
      exact fun field h => Bool.eq_false_iff.mpr (reserved field h)

/-- What the preflight decides about a read. -/
structure Preflight where
  rule : ModelContextRule
  requestedFields : List String
  itemLimit : Int
  outputSchema : String
  outputResources : List (String × String)
  outputMetadataFields : List String
deriving DecidableEq

/-- The item limit of a read under a rule. -/
def itemLimit (rule : ModelContextRule) (parameters : Fields)
    (outputResources : List (String × String)) : Except Exn Int :=
  match parameters.lookup "limit" with
  | none | some .null =>
      if outputResources.any (·.2 = "object_list") then
        .error (configurationError "provider-data collection reads require an explicit item limit")
      else .ok rule.maxItems
  | some (.int limit) =>
      if limit ≤ 0 then
        .error (configurationError "provider-data item limit must be a positive integer")
      else if rule.maxItems < limit then
        .error (configurationError (s!"model-context rule {rule.name} limits provider results to " ++
          s!"{rule.maxItems} items"))
      else .ok limit
  | some _ => .error (configurationError "provider-data item limit must be a positive integer")

/-- `_provider_data_shape_preflight` -/
def providerDataShapePreflight (policy : ProviderDataEgressPolicy) (action : AgentAction)
    (definition : CapabilityDefinition) (route : ProviderDataRoute) (auditAvailable : Bool) :
    Except Exn Preflight :=
  let decision := policy.evaluate
    ⟨action.target.system, action.capability, action.dataClassification, route⟩ auditAvailable
  match decision.permitted, decision.rule with
  | true, some rule => do
      let requested ← requestedFieldBinding action definition
      let resources := sortBy Prod.fst definition.readResultResources
      let disallowed := requested.filter fun field =>
        !rule.allowedFields.contains "*" &&
          !(rule.allowedFields.map casefold).contains (casefold field)
      if requested = [] ∧ !rule.allowedFields.contains "*" then
        .error (configurationError (s!"model-context rule {rule.name} requires an explicit field " ++
          "projection"))
      else if disallowed ≠ [] then
        .error (configurationError (s!"model-context rule {rule.name} does not allow requested " ++
          "fields: " ++ ", ".intercalate (sortBy id disallowed)))
      else
        let limit ← itemLimit rule action.parameters resources
        return {
          rule := rule
          requestedFields := requested
          itemLimit := limit
          outputSchema := definition.readResultSchema
          outputResources := resources
          outputMetadataFields := definition.readResultMetadata }
  | _, _ => .error (configurationError decision.reason)

/-- The binding `bind_provider_data_egress` builds from a preflight. -/
def Preflight.binding (p : Preflight) : ProviderDataEgressBindingFields where
  handling := p.rule.handling
  requestedFields := p.requestedFields
  outputSchema := p.outputSchema
  outputResources := p.outputResources
  outputMetadataFields := p.outputMetadataFields
  requestedItemLimit := some p.itemLimit
  maxOutputBytes := p.rule.maxOutputBytes.toNat
  redactedFields := p.rule.redactedFields
  policyAllowedFields := p.rule.allowedFields

/-- What an accepted preflight has checked about the requested fields. -/
theorem preflight_checked {policy : ProviderDataEgressPolicy} {action : AgentAction}
    {definition : CapabilityDefinition} {route : ProviderDataRoute} {auditAvailable : Bool}
    {p : Preflight}
    (accepted : providerDataShapePreflight policy action definition route auditAvailable = .ok p)
    (bounded : "*" ∉ p.rule.allowedFields) :
    p.requestedFields ≠ [] ∧ ∀ field ∈ p.requestedFields, isReserved field = false ∧
      ∃ allowed ∈ p.rule.allowedFields, casefold allowed = casefold field := by
  unfold providerDataShapePreflight at accepted
  simp only at accepted
  split at accepted
  · next rule _ _ =>
      obtain ⟨requested, fields, accepted⟩ := of_bind_ok accepted
      split at accepted
      · cases accepted
      next named =>
      split at accepted
      · cases accepted
      next admitted =>
      obtain ⟨limit, _, accepted⟩ := of_bind_ok accepted
      cases accepted
      refine ⟨fun empty => named ⟨empty, by simpa using bounded⟩, fun field h =>
        ⟨requestedFieldBinding_unreserved fields field h, ?_⟩⟩
      have kept := List.filter_eq_nil_iff.mp (not_not.mp admitted) field h
      have folded : casefold field ∈ rule.allowedFields.map casefold := by
        simpa [bounded] using kept
      exact List.mem_map.mp folded
  · cases accepted

/-! ## Keys of the bound resources -/

/-- The keys of a record. -/
def recordKeys : Json → List String
  | .obj fields => fields.map Prod.fst
  | _ => []

/-- The top-level keys of a resource; the name of a scalar resource. -/
def partKeys (key descriptor : String) (item : Json) : List String :=
  match descriptor, item with
  | "object", item => recordKeys item
  | "object_list", .arr items => items.flatMap recordKeys
  | "value", _ => [key]
  | _, _ => []

/-- The top-level keys of every bound resource of a result. -/
def resourceKeys (resources : List (String × String)) (value : Fields) : List String :=
  resources.flatMap fun (key, descriptor) =>
    (value.lookup key).elim [] (partKeys key descriptor)

omit [Host] [CharTables] in
theorem mem_resourceKeys_iff {resources : List (String × String)} {value : Fields}
    {name : String} : name ∈ resourceKeys resources value ↔
      ∃ resource ∈ resources, name ∈ (value.lookup resource.1).elim []
        (partKeys resource.1 resource.2) := by
  simp [resourceKeys]

theorem keys_omitReserved {fields : Fields} : (omitReservedFields fields).map Prod.fst =
    (fields.map Prod.fst).filter fun key => !isReserved key := by
  induction fields with
  | nil => rfl
  | cons field fields later =>
      obtain ⟨key, value⟩ := field
      unfold omitReservedFields
      by_cases reserved : isReserved key = true <;> simp [reserved, later]

theorem mem_keys_projectEntry {requested : List String} (some_requested : requested ≠ [])
    {fields : Fields} {name : String} :
    name ∈ (projectEntry requested fields).map Prod.fst ↔
      name ∈ fields.map Prod.fst ∧ normalizeFieldName name ∈ normalizedRequestedFields requested ∧
        isReserved name = false := by
  rw [projectEntry, if_neg some_requested, keys_omitReserved, requestedItems]
  simp only [List.mem_filter, List.mem_map, List.contains_iff_mem, Bool.not_eq_true']
  constructor
  · rintro ⟨⟨item, ⟨listed, named⟩, rfl⟩, unreserved⟩
    exact ⟨⟨item, listed, rfl⟩, named, unreserved⟩
  · rintro ⟨⟨item, listed, rfl⟩, named, unreserved⟩
    exact ⟨⟨item, ⟨listed, named⟩, rfl⟩, unreserved⟩

/-- The projection of a resource keeps the keys that are requested and not reserved. -/
theorem mem_partKeys_projected {requested : List String} (some_requested : requested ≠ [])
    {key descriptor : String} (unreserved : isReserved key = false) {item : Json}
    {part : Option Json} (ran : projectResource requested key descriptor item = .ok part)
    {name : String} :
    name ∈ part.elim [] (partKeys key descriptor) ↔
      name ∈ partKeys key descriptor item ∧
        normalizeFieldName name ∈ normalizedRequestedFields requested ∧
        isReserved name = false := by
  rcases projectResource_descriptor ran with rfl | rfl | rfl
  · obtain ⟨fields, rfl, rfl⟩ := projectResource_object ran
    exact mem_keys_projectEntry some_requested
  · obtain ⟨items, entries, rfl, read, rfl⟩ := projectResource_list ran
    have records : ∀ {items : List Json} {entries : List Fields}, onlyMappings items = some entries →
        items = entries.map Json.obj := by
      intro items
      induction items with
      | nil =>
          intro entries read
          cases read
          rfl
      | cons item items ih =>
          intro entries read
          obtain ⟨fields, rest, rfl, later, rfl⟩ := mappings_cons read
          rw [List.map_cons, ← ih later]
    rw [records read]
    simp only [Option.elim_some, partKeys, List.mem_flatMap, List.mem_map]
    constructor
    · rintro ⟨_, ⟨fields, listed, rfl⟩, named⟩
      obtain ⟨kept, wanted, free⟩ := (mem_keys_projectEntry some_requested).mp named
      exact ⟨⟨.obj fields, ⟨fields, listed, rfl⟩, kept⟩, wanted, free⟩
    · rintro ⟨⟨_, ⟨fields, listed, rfl⟩, kept⟩, wanted, free⟩
      exact ⟨_, ⟨fields, listed, rfl⟩,
        (mem_keys_projectEntry some_requested).mpr ⟨kept, wanted, free⟩⟩
  · rw [projectResource_value ran]
    simp only [some_requested, false_or]
    by_cases wanted : normalizeFieldName key ∈ normalizedRequestedFields requested
    · simp only [wanted, if_true, Option.elim_some, partKeys, List.mem_singleton]
      constructor
      · rintro rfl
        exact ⟨rfl, wanted, unreserved⟩
      · exact fun named => named.1
    · simp only [wanted, if_false, Option.elim_none, partKeys, List.mem_singleton,
        List.not_mem_nil, false_iff]
      rintro ⟨rfl, named, _⟩
      exact wanted named

variable [Links]

theorem keys_minimizeFields {minimizePath : Bool} : ∀ {fields out : Fields},
    minimizeFields minimizePath fields = .ok out → out.map Prod.fst = fields.map Prod.fst
  | [], _, ran => by
      cases ran
      rfl
  | (key, value) :: fields, out, ran => by
      obtain ⟨written, rest, _, tail, rfl⟩ := minimizeFields_cons ran
      rw [List.map_cons, List.map_cons, keys_minimizeFields tail]

/-- Minimizing references keeps the keys of records. -/
theorem recordKeys_minimized {minimizePath : Bool} {key : String} {value out : Json}
    (ran : minimizeReferences minimizePath key value = .ok out) :
    recordKeys out = recordKeys value := by
  cases value with
  | obj fields =>
      obtain ⟨written, inner, rfl⟩ := minimizeReferences_obj ran
      exact keys_minimizeFields inner
  | arr items =>
      rw [minimizeReferences] at ran
      obtain ⟨written, _, ran⟩ := of_bind_ok ran
      cases ran
      rfl
  | str text =>
      rw [minimizeReferences] at ran
      split at ran
      · obtain ⟨written, _, ran⟩ := of_bind_ok ran
        cases ran
        rfl
      · cases ran
        rfl
  | _ => cases ran; rfl

theorem recordKeys_minimizeItems {minimizePath : Bool} {key : String} : ∀ {items out : List Json},
    minimizeItems minimizePath key items = .ok out →
      out.flatMap recordKeys = items.flatMap recordKeys
  | [], _, ran => by
      cases ran
      rfl
  | item :: items, out, ran => by
      obtain ⟨written, rest, head, tail, rfl⟩ := minimizeItems_cons ran
      rw [List.flatMap_cons, List.flatMap_cons, recordKeys_minimized head,
        recordKeys_minimizeItems tail]

theorem partKeys_minimized {minimizePath : Bool} {key descriptor : String} {value out : Json}
    (ran : minimizeReferences minimizePath key value = .ok out) :
    partKeys key descriptor out = partKeys key descriptor value := by
  have lists : ∀ items, value = .arr items → ∃ written, out = .arr written ∧
      written.flatMap recordKeys = items.flatMap recordKeys := by
    rintro items rfl
    rw [minimizeReferences] at ran
    obtain ⟨written, inner, ran⟩ := of_bind_ok ran
    exact ⟨written, (Except.ok.inj ran).symm, recordKeys_minimizeItems inner⟩
  have others : ∀ written, out = .arr written → ∃ items, value = .arr items := by
    rintro written rfl
    cases value with
    | arr items => exact ⟨items, rfl⟩
    | obj fields =>
        obtain ⟨_, _, wrong⟩ := minimizeReferences_obj ran
        cases wrong
    | str text =>
        rw [minimizeReferences] at ran
        split at ran
        · obtain ⟨_, _, wrong⟩ := of_bind_ok ran
          cases wrong
        · cases ran
    | _ => cases ran
  by_cases record : descriptor = "object"
  · subst record
    exact recordKeys_minimized ran
  by_cases scalar : descriptor = "value"
  · subst scalar
    rfl
  by_cases collection : descriptor = "object_list"
  · subst collection
    by_cases list : ∃ items, value = .arr items
    · obtain ⟨items, rfl⟩ := list
      obtain ⟨written, rfl, same⟩ := lists items rfl
      exact same
    · have neither : ∀ items, out ≠ .arr items := fun items same => list (others items same)
      have empty : ∀ item : Json, (∀ items, item ≠ .arr items) →
          partKeys key "object_list" item = [] := by
        intro item other
        cases item with
        | arr items => exact absurd rfl (other items)
        | _ => rfl
      rw [empty out neither, empty value fun items same => list ⟨items, same⟩]
  · have none : ∀ item : Json, partKeys key descriptor item = [] := by
      intro item
      unfold partKeys
      split <;> first | rfl | contradiction
    rw [none, none]

/-! ## Keys of a sanitized result -/

omit [Host] [CharTables] [Links] in
theorem lookup_assign {key k : String} {value : Json} {fields : Fields} :
    (assign key value fields).lookup k = if k = key then some value else fields.lookup k := by
  induction fields with
  | nil => simp [assign, Json.lookup_cons]
  | cons field fields later =>
      obtain ⟨l, v⟩ := field
      unfold assign
      by_cases here : l = key
      · subst here
        simp only [if_true, Json.lookup_cons]
        split <;> rfl
      · simp only [here, if_false, Json.lookup_cons, later]
        by_cases there : k = l
        · subst there
          simp [here]
        · simp [there]

omit [Host] [CharTables] [Links] in
theorem copyMetadata_lookup {limit : Option Int} {value : Fields} {key : String} :
    ∀ {keys : List String} {projected out : Fields},
      copyMetadata limit value keys projected = .ok out → key ∉ keys →
        out.lookup key = projected.lookup key
  | [], _, _, ran, _ => by
      cases ran
      rfl
  | k :: keys, projected, out, ran, other => by
      rw [copyMetadata] at ran
      have later : ∀ {projected : Fields}, copyMetadata limit value keys projected = .ok out →
          out.lookup key = projected.lookup key :=
        fun rest => copyMetadata_lookup rest fun listed => other (List.mem_cons_of_mem k listed)
      cases found : value.lookup k with
      | none =>
          rw [found] at ran
          exact later ran
      | some item =>
          rw [found] at ran
          obtain ⟨copied, _, ran⟩ := of_bind_ok ran
          have apart : key ≠ k := by
            rintro rfl
            exact other List.mem_cons_self
          rw [later ran, lookup_assign, if_neg apart]

omit [Links] in
/-- Every bound resource is projected under its own name. -/
theorem projectResources_lookup {requested : List String} {value : Fields} :
    ∀ {resources : List (String × String)} {projected out : Fields},
      (resources.map Prod.fst).Nodup →
      projectResources requested value resources projected = .ok out →
      (∀ resource ∈ resources, ∃ item part, value.lookup resource.1 = some item ∧
        projectResource requested resource.1 resource.2 item = .ok part ∧
        out.lookup resource.1 = part.or (projected.lookup resource.1)) ∧
      ∀ key, key ∉ resources.map Prod.fst → out.lookup key = projected.lookup key
  | [], _, _, _, ran => by
      cases ran
      refine ⟨fun resource h => ?_, fun _ _ => rfl⟩
      cases h
  | (key, descriptor) :: resources, projected, out, nodup, ran => by
      rw [List.map_cons, List.nodup_cons] at nodup
      rw [projectResources] at ran
      cases found : value.lookup key with
      | none => rw [found] at ran; cases ran
      | some item =>
          rw [found] at ran
          obtain ⟨part, projects, ran⟩ := of_bind_ok ran
          -- what the rest of the loop starts from
          have start : ∃ next, projectResources requested value resources next = .ok out ∧
              next.lookup key = part.or (projected.lookup key) ∧
              ∀ k, k ≠ key → next.lookup k = projected.lookup k := by
            cases part with
            | none => exact ⟨projected, ran, rfl, fun _ _ => rfl⟩
            | some written =>
                refine ⟨assign key written projected, ran, ?_, fun k other => ?_⟩
                · rw [lookup_assign, if_pos rfl]
                  rfl
                · rw [lookup_assign, if_neg other]
          obtain ⟨next, rest, here, elsewhere⟩ := start
          obtain ⟨each, others⟩ := projectResources_lookup nodup.2 rest
          refine ⟨fun resource h => ?_, fun k other => ?_⟩
          · rcases List.mem_cons.mp h with rfl | h
            · exact ⟨item, part, found, projects, (others key nodup.1).trans here⟩
            · obtain ⟨item, part, found, projects, written⟩ := each resource h
              refine ⟨item, part, found, projects, ?_⟩
              have apart : resource.1 ≠ key := fun same =>
                nodup.1 (same ▸ (List.mem_map_of_mem h : resource.1 ∈ resources.map Prod.fst))
              rw [written, elsewhere resource.1 apart]
          · rw [List.map_cons, List.mem_cons, not_or] at other
            rw [others k other.2, elsewhere k other.1]

omit [Links] in
/-- What the constructor of a binding has checked about the names of its resources. -/
theorem binding_names (binding : ProviderDataEgressBinding) :
    (binding.outputResources.map Prod.fst).Nodup ∧
      (∀ resource ∈ binding.outputResources, resource.1 ∉ binding.outputMetadataFields) ∧
      ∀ resource ∈ binding.outputResources, isReserved resource.1 = false := by
  have checked := firstError_none.mp binding.valid
  have nodup := checked (require (binding.outputResources.map Prod.fst).Nodup
    "provider-data egress output resources must be unique")
    (by simp [ProviderDataEgressBindingFields.checks])
  have apart := checked (require (!(binding.outputResources.any fun (name, _) =>
      binding.outputMetadataFields.contains name))
    "provider-data egress output resource and metadata fields overlap")
    (by simp [ProviderDataEgressBindingFields.checks])
  have free := checked (require (!((binding.outputResources.map Prod.fst ++
      binding.outputMetadataFields).any isReserved))
    "provider-data egress output fields use reserved names")
    (by simp [ProviderDataEgressBindingFields.checks])
  simp only [require, decide_eq_true_eq, Bool.not_eq_true', List.any_eq_false,
    List.contains_iff_mem, List.mem_append] at nodup apart free
  refine ⟨nodup, fun resource h => apart resource h, fun resource h => ?_⟩
  exact Bool.eq_false_iff.mpr (free resource.1 (.inl (List.mem_map_of_mem (f := Prod.fst) h)))

variable [InjectionGuard]

/-- The keys of the resources of a sanitized result: those the passes leave that are requested and
not reserved. -/
theorem mem_resourceKeys (ascii : LowerAscii) {binding : ProviderDataEgressBinding}
    (some_requested : binding.requestedFields ≠ []) {v out : Fields}
    (accepted : sanitizeProviderMapping v binding = .ok out) {name : String} :
    name ∈ resourceKeys binding.outputResources out ↔
      name ∈ resourceKeys binding.outputResources (prepared (hiddenKey binding) v) ∧
        normalizeFieldName name ∈ normalizedRequestedFields binding.requestedFields ∧
        isReserved name = false := by
  obtain ⟨nodup, apart, free⟩ := binding_names binding
  have named (key : String) (listed : key ∈ READ_RESULT_RESERVED_FIELDS)
      (lower : key.toList.all isLowerAscii = true) :
      ∀ resource ∈ binding.outputResources, resource.1 ≠ key := by
    rintro resource h rfl
    have reserved := isReserved_listed ascii (List.all_eq_true.mp lower) listed
    rw [free resource h] at reserved
    cases reserved
  unfold sanitizeProviderMapping at accepted
  obtain ⟨v', rewritten, accepted⟩ := of_bind_ok accepted
  obtain ⟨normalized, contract, accepted⟩ := of_bind_ok accepted
  obtain ⟨_, _, accepted⟩ := of_bind_ok accepted
  obtain ⟨_, _, accepted⟩ := of_bind_ok accepted
  split at accepted
  · cases accepted
  cases accepted
  unfold applyOutputContract at contract
  split at contract
  · cases contract
  split at contract
  · cases contract
  obtain ⟨metadata, copied, contract⟩ := of_bind_ok contract
  rw [assignCitations, if_neg some_requested, ok_bind] at contract
  obtain ⟨projected, projects, contract⟩ := of_bind_ok contract
  obtain ⟨_, _, contract⟩ := of_bind_ok contract
  cases contract
  obtain ⟨each, -⟩ := projectResources_lookup nodup projects
  -- one bound resource of the result
  have resource_keys : ∀ resource ∈ binding.outputResources,
      (name ∈ ((addEvidence projected).lookup resource.1).elim []
          (partKeys resource.1 resource.2) ↔
        name ∈ ((prepared (hiddenKey binding) v).lookup resource.1).elim []
            (partKeys resource.1 resource.2) ∧
          normalizeFieldName name ∈ normalizedRequestedFields binding.requestedFields ∧
          isReserved name = false) := by
    intro resource h
    obtain ⟨item, part, found, projects, written⟩ := each resource h
    have fresh : metadata.lookup resource.1 = none := by
      rw [copyMetadata_lookup copied (apart resource h), Json.lookup_cons,
        if_neg (named "schema" (by decide) (by decide) resource h)]
      rfl
    have shown : (addEvidence projected).lookup resource.1 = part := by
      unfold addEvidence
      rw [lookup_assign, if_neg (named "security" (by decide) (by decide) resource h),
        lookup_assign, if_neg (named "evidence" (by decide) (by decide) resource h), written,
        fresh, Option.or_none]
    rw [rewrite_eq] at rewritten
    rcases lookup_minimizeFields resource.1 rewritten with
      ⟨_, missing⟩ | ⟨before, after, there, out, step⟩
    · rw [found] at missing
      cases missing
    · rw [found] at out
      cases out
      rw [shown, there, Option.elim_some, ← partKeys_minimized step]
      exact mem_partKeys_projected some_requested (free resource h) projects
  rw [mem_resourceKeys_iff, mem_resourceKeys_iff]
  constructor
  · rintro ⟨resource, h, key⟩
    obtain ⟨before, wanted, unreserved⟩ := (resource_keys resource h).mp key
    exact ⟨⟨resource, h, before⟩, wanted, unreserved⟩
  · rintro ⟨⟨resource, h, before⟩, wanted, unreserved⟩
    exact ⟨resource, h, (resource_keys resource h).mpr ⟨before, wanted, unreserved⟩⟩

/-- Under a rule with bounded fields, every key of the projected resources stands for an allowed
field or one of its aliases exactly if every requested field that names a key of the prepared
result has the normal form of an allowed field or is one of the aliases. -/
theorem projection_within_policy_iff (ascii : LowerAscii) {policy : ProviderDataEgressPolicy}
    {action : AgentAction} {definition : CapabilityDefinition} {route : ProviderDataRoute}
    {auditAvailable : Bool} {p : Preflight}
    (preflight : providerDataShapePreflight policy action definition route auditAvailable = .ok p)
    (bounded : "*" ∉ p.rule.allowedFields) {binding : ProviderDataEgressBinding}
    (bound : binding.toProviderDataEgressBindingFields = p.binding) {v out : Fields}
    (accepted : sanitizeProviderMapping v binding = .ok out) :
    (∀ name ∈ resourceKeys binding.outputResources out,
      normalizeFieldName name ∈ normalizedRequestedFields p.rule.allowedFields) ↔
    ∀ field ∈ p.requestedFields,
      (∃ name ∈ resourceKeys binding.outputResources (prepared (hiddenKey binding) v),
        normalizeFieldName name = normalizeFieldName field) →
      normalizeFieldName field ∈ normalizedRequestedFields p.rule.allowedFields := by
  obtain ⟨some_requested, checked⟩ := preflight_checked preflight bounded
  have requested : binding.requestedFields = p.requestedFields := by
    rw [bound]
    rfl
  have keys : ∀ name, name ∈ resourceKeys binding.outputResources out ↔
      name ∈ resourceKeys binding.outputResources (prepared (hiddenKey binding) v) ∧
        normalizeFieldName name ∈ normalizedRequestedFields p.requestedFields ∧
        isReserved name = false := by
    intro name
    rw [← requested] at some_requested ⊢
    exact mem_resourceKeys ascii some_requested accepted
  constructor
  · rintro within field h ⟨name, offered, same⟩
    rw [← same]
    refine within name ((keys name).mpr ⟨offered, ?_, ?_⟩)
    · exact mem_normalizedRequestedFields.mpr ⟨field, h, .inl same⟩
    · rw [isReserved_congr same]
      exact (checked field h).1
  · intro spelled name h
    obtain ⟨offered, wanted, -⟩ := (keys name).mp h
    obtain ⟨field, listed, stands⟩ := mem_normalizedRequestedFields.mp wanted
    rcases stands with same | listed_alias
    · rw [same]
      exact spelled field listed ⟨name, offered, same⟩
    · obtain ⟨-, allowed, permitted, folded⟩ := checked field listed
      exact mem_normalizedRequestedFields.mpr ⟨allowed, permitted, .inr (folded ▸ listed_alias)⟩

end

/-! ## Two spellings of a field -/

namespace Preflight.Samples

local instance : Host := asciiHost id
local instance : CharTables := asciiTables
local instance : Links := ⟨fun _ => .ok none, fun scheme host path => scheme ++ "://" ++ host ++ path⟩
local instance : InjectionGuard := ⟨fun _ => []⟩

/-- The rule allows one field. -/
def rule : ModelContextRule where
  name := "wiki"
  providers := ["wiki"]
  capabilities := ["wiki.get"]
  dataClassifications := [.internal]
  destinations := ["host"]
  modelTenancies := ["tenant"]
  routes := [.audited]
  handling := .allow
  auditRequired := false
  dlpRequired := false
  redactedFields := []
  allowedFields := ["statusName"]
  maxItems := 10
  maxOutputBytes := 10000
  valid := by decide +kernel

def policy : ProviderDataEgressPolicy where
  destination := "host"
  modelTenancy := "tenant"
  sourceDataEnvironment := "production"
  dlpAdapter := "none"
  developmentDefaultClassification := none
  rules := [rule]
  valid := by decide +kernel

def definition : CapabilityDefinition := ⟨"wiki.get", "s", [("page", "object")], []⟩

def lower : AgentAction :=
  ⟨{ sampleWrite.toAgentActionFields with
      capability := "wiki.get", risk := .readOnly
      parameters := [("fields", .str "statusname")] }, by decide +kernel⟩

def camel : AgentAction :=
  ⟨{ sampleWrite.toAgentActionFields with
      capability := "wiki.get", risk := .readOnly
      parameters := [("fields", .str "statusName")] }, by decide +kernel⟩

/-- What the preflight of a read of one field returns. -/
def admitted (field : String) : Preflight := ⟨rule, [field], 10, "s", [("page", "object")], []⟩

theorem decided (request : EgressRequest)
    (asked : request = ⟨"wiki", "wiki.get", .internal, .audited⟩) :
    policy.Decides request false rule ∧ (policy.evaluate request false).permitted = true := by
  have covers : policy.covering request rule = true := by
    simp [asked, ProviderDataEgressPolicy.covering, ModelContextRule.covers, rule, policy, fnmatch,
      globTokens, globMatch, GlobToken.accepts]
  have decides : policy.Decides request false rule := by
    refine policy.decides_iff.mpr ⟨List.mem_singleton_self rule, covers, fun s hs _ other => ?_⟩
    exact absurd (List.mem_singleton.mp hs) other
  exact ⟨decides, policy.permitted_of_decides decides (by decide) (.inl rfl) rfl⟩

theorem preflight_lower :
    providerDataShapePreflight policy lower definition .audited false =
      .ok (admitted "statusname") := by
  obtain ⟨decides, permitted⟩ := decided _ rfl
  unfold ProviderDataEgressPolicy.Decides at decides
  unfold providerDataShapePreflight
  simp only [show lower.target.system = "wiki" from rfl, show lower.capability = "wiki.get" from rfl,
    show lower.dataClassification = .internal from rfl, permitted, decides]
  decide +kernel

theorem preflight_camel :
    providerDataShapePreflight policy camel definition .audited false =
      .ok (admitted "statusName") := by
  obtain ⟨decides, permitted⟩ := decided _ rfl
  unfold ProviderDataEgressPolicy.Decides at decides
  unfold providerDataShapePreflight
  simp only [show camel.target.system = "wiki" from rfl, show camel.capability = "wiki.get" from rfl,
    show camel.dataClassification = .internal from rfl, permitted, decides]
  decide +kernel

/-- The binding for the field. -/
def lowerBinding : ProviderDataEgressBinding :=
  ⟨(admitted "statusname").binding, by decide +kernel⟩

def camelBinding : ProviderDataEgressBinding :=
  ⟨(admitted "statusName").binding, by decide +kernel⟩

/-- A page with one field. -/
def page (field : String) : Fields :=
  [("schema", .str "s"), ("page", .obj [(field, .str "open")])]

theorem pages_accepted :
    (sanitizeProviderMapping (page "statusname") lowerBinding).isOk = true ∧
    (sanitizeProviderMapping (page "statusName") camelBinding).isOk = true := by decide +kernel

/-- The lower-case spelling is admitted, and the field returned under it is none the rule allows. -/
theorem lower_spelling_escapes : ∃ out,
    providerDataShapePreflight policy lower definition .audited false =
      .ok (admitted "statusname") ∧
    sanitizeProviderMapping (page "statusname") lowerBinding = .ok out ∧
    ∃ name ∈ resourceKeys lowerBinding.outputResources out,
      normalizeFieldName name ∉ normalizedRequestedFields rule.allowedFields := by
  obtain ⟨out, accepted⟩ := ok_of_isOk pages_accepted.1
  have escapes : (sanitizeProviderMapping (page "statusname") lowerBinding).toOption.any
      (fun out => (resourceKeys lowerBinding.outputResources out).any fun name =>
        !(normalizedRequestedFields rule.allowedFields).contains (normalizeFieldName name)) =
      true := by decide +kernel
  rw [accepted] at escapes
  refine ⟨out, preflight_lower, accepted, ?_⟩
  simpa [Except.toOption] using escapes

/-- Spelled as the rule spells it, the field is within the policy. -/
theorem camel_spelling_within : ∃ out,
    sanitizeProviderMapping (page "statusName") camelBinding = .ok out ∧
    ∀ name ∈ resourceKeys camelBinding.outputResources out,
      normalizeFieldName name ∈ normalizedRequestedFields rule.allowedFields := by
  obtain ⟨out, accepted⟩ := ok_of_isOk pages_accepted.2
  refine ⟨out, accepted, (projection_within_policy_iff (asciiLower id) preflight_camel (by decide)
    rfl accepted).mpr fun field h _ => ?_⟩
  rw [List.mem_singleton.mp h]
  decide +kernel

end Preflight.Samples

end MasterAgent.Egress
