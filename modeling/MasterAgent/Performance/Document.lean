import MasterAgent.Performance.Snapshot

/-!
# The document of the evidence

`to_dict`, `serialize` and `from_dict` of a snapshot. A dictionary keeps the order of its
insertion, and the written text has its keys sorted.

Results:

1. `loads_serialize`: the written text is read as the document with its keys sorted;
2. `of_fromDict_ok`: what the decoder accepts lists the systems in the order of `_KNOWN_SYSTEMS`;
3. `reloaded_serialize`: so the decoder refuses every text that was written.
-/

namespace MasterAgent.Performance
open Base StrEnum

section
variable [Durations]
open Durations

/-! ## Writing -/

/-- `wall_seconds` of a stage. -/
def wallOf (x : SnapshotFields) (stage : PerformanceStage) : ℚ :=
  ((x.stages.find? (·.stage == stage)).map (·.wallSeconds)).getD 0

def cpuOf (x : SnapshotFields) (stage : PerformanceStage) : ℚ :=
  ((x.stages.find? (·.stage == stage)).map (·.cpuSeconds)).getD 0

/-- `summary` -/
def summary (x : SnapshotFields) : List (String × ℚ) :=
  let total := wallOf x .endToEndTotal
  let localGovernance := (([.requestParseRoute, .selection, .governanceValidation,
    .policyEvaluation, .approval, .idempotencyReconciliation] : List PerformanceStage).map
      (wallOf x)).sum
  [("total_wall_seconds", rounded total),
    ("total_cpu_seconds", rounded (cpuOf x .endToEndTotal)),
    ("local_governance_wall_seconds", rounded localGovernance),
    ("connector_initialization_wall_seconds", rounded (wallOf x .connectorInitialization)),
    ("credential_resolution_wall_seconds", rounded (wallOf x .credentialResolution)),
    ("provider_execution_wall_seconds", rounded (wallOf x .providerExecution)),
    ("verification_wall_seconds", rounded (wallOf x .verification)),
    ("audit_retention_wall_seconds", rounded (wallOf x .auditRetention)),
    ("render_wall_seconds", rounded (wallOf x .render)),
    ("provider_network_wall_seconds", rounded (wallOf x .providerNetwork)),
    ("verification_network_wall_seconds", rounded (wallOf x .verificationNetwork)),
    ("local_governance_percentage",
      rounded (if total ≤ 0 then 0 else localGovernance / total * 100))]

/-- `baseline_eligible` -/
def baselineEligible (x : SnapshotFields) : Bool := x.measurementMode == .managedRuntime

/-- A table of counts under the texts of its keys. -/
def countsDict {E : Type} [StrEnum E] (counts : E → Int) : Json :=
  .obj ((members : List E).map fun e => (str e, .int (counts e)))

/-- The rows of the systems, in the order of `_KNOWN_SYSTEMS`. -/
def activityRows (rows : KnownSystem → ProviderActivity → Int) : Fields :=
  (members : List KnownSystem).map fun system => (str system, countsDict (rows system))

def textItems (values : List String) : Json := .arr (values.map .str)

/-- `to_dict` -/
def SnapshotFields.toDict (x : SnapshotFields) : Fields :=
  [("schema", .str x.schema),
    ("measurement_mode", .str (str x.measurementMode)),
    ("baseline_eligible", .bool (baselineEligible x)),
    ("case_id", .str (str x.caseId)),
    ("runtime", .obj [("platform", .str x.platform), ("backend", .str x.runtimeBackend),
      ("master_agent_version", .str x.masterAgentVersion),
      ("commit_identity", .str x.commitIdentity)]),
    ("dimensions", .obj [("capabilities", textItems x.capabilities),
      ("risk_tiers", textItems x.riskTiers), ("systems", textItems x.systems),
      ("connector_implementations", .arr (x.connectorImplementations.map (·.toDict)))]),
    ("stages", .arr (x.stages.map (·.toDict))),
    ("summary", .obj ((summary x).map fun (name, value) => (name, .float (repr value)))),
    ("counters", countsDict x.counters),
    ("transport_calls_by_phase", countsDict x.transportCallsByPhase),
    ("retries_by_reason", countsDict x.retriesByReason),
    ("outcomes", countsDict x.outcomes),
    ("provider_activity", .obj (activityRows x.providerActivity))]

def PerformanceSnapshot.toDict (snapshot : PerformanceSnapshot) : Fields := snapshot.fields.toDict

/-- `serialize` -/
def PerformanceSnapshot.serialize (snapshot : PerformanceSnapshot) : String :=
  (Json.obj snapshot.toDict).dumpsSorted

/-! ## Reading -/

/-- `_require_mapping` of a document's value, whose keys are texts. -/
def requireMapping (value : Json) (name : String) : Except Exn Fields :=
  match value with
  | .obj fields => .ok fields
  | _ => .error (typeError s!"{name} must be an object")

/-- `_require_list` -/
def requireList (value : Json) (name : String) : Except Exn (List Json) :=
  match value with
  | .arr items => .ok items
  | _ => .error (typeError s!"{name} must be a list")

/-- `set(fields) == set(expected)` -/
def sameKeys (fields : Fields) (expected : List String) : Bool :=
  (fields.map Prod.fst).all expected.contains && expected.all (fields.map Prod.fst).contains

/-- `fields.get(key)` -/
def getMember (fields : Fields) (key : String) : Json := (fields.lookup key).getD .null

/-- `_finite_non_negative` of a document's value. -/
def finiteNonNegative (value : Json) (name : String) : Except Exn ℚ :=
  match value with
  | .int n => nonNegative n name
  | .float f => nonNegative (float f) name
  | _ => .error (typeError s!"{name} must be numeric")

/-- The count under one key. -/
def parseCount (fields : Fields) (key name : String) : Except Exn Int :=
  match getMember fields key with
  | .int n =>
      if 0 ≤ n ∧ n ≤ MAX_COUNT then .ok n
      else .error (valueError s!"{name} values are outside the bounded range")
  | _ => .error (typeError s!"{name} values must be integers")

/-- `_parse_enum_counts` -/
def parseEnumCounts {E : Type} [StrEnum E] (value : Json) (name : String) :
    Except Exn (E → Int) := do
  let fields ← requireMapping value name
  if sameKeys fields ((members : List E).map str) = false then
    .error (valueError s!"{name} keys are invalid")
  else do
    (members : List E).forM fun e => (parseCount fields (str e) name).map fun _ => ()
    .ok fun e => ((parseCount fields (str e) name).toOption).getD 0

/-- `E(str(value))` -/
def parseMember {E : Type} [StrEnum E] [Host] (value : Json) (className : String) : Except Exn E :=
  match parse? (pyStr value) with
  | some e => .ok e
  | none => .error (valueError ("'" ++ pyStr value ++ "' is not a valid " ++ className))

/-- `_parse_stage` -/
def parseStage [Host] (value : Json) : Except Exn StageMeasurement := do
  let fields ← requireMapping value "performance stage"
  if sameKeys fields ["stage", "wall_seconds", "cpu_seconds", "occurrences"] = false then
    .error (valueError "performance stage fields are invalid")
  else do
    let wall ← finiteNonNegative (getMember fields "wall_seconds") "performance wall time"
    let cpu ← finiteNonNegative (getMember fields "cpu_seconds") "performance CPU time"
    match getMember fields "occurrences" with
    | .int occurrences =>
        if 0 ≤ occurrences ∧ occurrences ≤ MAX_COUNT then do
          let stage ← parseMember (getMember fields "stage") "PerformanceStage"
          StageMeasurement.new stage wall cpu occurrences
        else .error (valueError "performance stage occurrences are out of range")
    | _ => .error (typeError "performance stage occurrences must be an integer")

/-- The text of a value that is a string. -/
def textOf : Json → Option String
  | .str s => some s
  | _ => none

/-- `_parse_connector_implementation` -/
def parseConnectorImplementation [Host] (value : Json) :
    Except Exn ConnectorImplementationDimension := do
  let fields ← requireMapping value "performance connector implementation"
  if sameKeys fields ["system", "implementation", "bound"] = false then
    .error (valueError "performance connector implementation fields are invalid")
  else match getMember fields "bound" with
    | .bool bound =>
        ConnectorImplementationDimension.new (boundedSystem (textOf (getMember fields "system")))
          (pyStr (getMember fields "implementation")) bound
    | _ => .error (typeError "performance connector implementation bound must be boolean")

/-- `_parse_bounded_strings` -/
def parseBoundedStrings (value : Json) (mapper : Option String → String) (name : String) :
    Except Exn (List String) := do
  let items ← requireList value name
  let normalized := items.map fun item => mapper (textOf item)
  if normalized = sortedSet normalized then .ok normalized
  else .error (valueError s!"{name} are not unique and ordered")

/-- A value of the document as a number. -/
def numberOf : Json → Option ℚ
  | .int n => some n
  | .bool b => some (if b then 1 else 0)
  | .float f => some (float f)
  | _ => none

/-- `value == summary` -/
def sameSummary (value : Json) (expected : List (String × ℚ)) : Bool :=
  match value with
  | .obj fields => sameKeys fields (expected.map Prod.fst) &&
      expected.all fun (name, number) => numberOf (getMember fields name) == some number
  | _ => false

def snapshotKeys : List String :=
  ["schema", "measurement_mode", "baseline_eligible", "case_id", "runtime", "dimensions",
    "stages", "summary", "counters", "transport_calls_by_phase", "retries_by_reason",
    "outcomes", "provider_activity"]

/-- The rows of `provider_activity`, which have to stand in the order of `_KNOWN_SYSTEMS`. -/
def parseActivity (value : Json) : Except Exn (KnownSystem → ProviderActivity → Int) := do
  let raw ← requireMapping value "performance provider activity"
  if raw.map Prod.fst ≠ knownSystems then
    .error (valueError "performance provider activity systems are invalid")
  else do
    let row (system : KnownSystem) : Except Exn (ProviderActivity → Int) :=
      parseEnumCounts (getMember raw (str system)) ("performance provider activity " ++ str system)
    (members : List KnownSystem).forM fun system => (row system).map fun _ => ()
    .ok fun system => ((row system).toOption).getD fun _ => 0

/-- `from_dict` -/
def PerformanceSnapshot.fromDict [Host] (data : Fields) : Except Exn PerformanceSnapshot :=
  if sameKeys data snapshotKeys = false then
    .error (valueError "performance snapshot fields are invalid")
  else do
    let runtime ← requireMapping (getMember data "runtime") "performance runtime"
    let dimensions ← requireMapping (getMember data "dimensions") "performance dimensions"
    let rawStages ← requireList (getMember data "stages") "performance stages"
    let stages ← rawStages.mapM parseStage
    let counters ← parseEnumCounts (getMember data "counters") "performance counters"
    let phases ← parseEnumCounts (getMember data "transport_calls_by_phase")
      "performance transport phases"
    let retries ← parseEnumCounts (getMember data "retries_by_reason") "performance retries"
    let outcomes ← parseEnumCounts (getMember data "outcomes") "performance outcomes"
    let providerActivity ← parseActivity (getMember data "provider_activity")
    let rawImplementations ← requireList (getMember dimensions "connector_implementations")
      "performance connector implementations"
    let implementations ← rawImplementations.mapM parseConnectorImplementation
    let mode ← parseMember (getMember data "measurement_mode") "MeasurementMode"
    let caseId ← parseMember (getMember data "case_id") "PerformanceCase"
    let platform := pyStr (getMember runtime "platform")
    let backend := pyStr (getMember runtime "backend")
    match firstError [boundedRuntimeValue platform, boundedRuntimeValue backend] with
    | some raised => .error raised
    | none => do
        let capabilities ← parseBoundedStrings (getMember dimensions "capabilities")
          boundedCapability "performance capabilities"
        let riskTiers ← parseBoundedStrings (getMember dimensions "risk_tiers") boundedRisk
          "performance risk tiers"
        let systems ← parseBoundedStrings (getMember dimensions "systems") boundedSystem
          "performance systems"
        let snapshot ← PerformanceSnapshot.new
          { measurementMode := mode
            caseId := caseId
            platform := platform
            runtimeBackend := backend
            masterAgentVersion := boundedVersion (pyStr (getMember runtime "master_agent_version"))
            commitIdentity := boundedCommit (pyStr (getMember runtime "commit_identity"))
            capabilities := capabilities
            riskTiers := riskTiers
            systems := systems
            connectorImplementations := implementations
            stages := stages
            counters := counters
            transportCallsByPhase := phases
            retriesByReason := retries
            outcomes := outcomes
            providerActivity := providerActivity
            schema := pyStr (getMember data "schema") }
        if getMember data "baseline_eligible" ≠ .bool (baselineEligible snapshot.fields) then
          .error (valueError "performance baseline eligibility is inconsistent")
        else if sameSummary (getMember data "summary") (summary snapshot.fields) = false then
          .error (valueError "performance summary is inconsistent")
        else .ok snapshot

/-- `PerformanceSnapshot.from_dict(json.loads(text))`; `none` when the text is no document with
members. -/
def PerformanceSnapshot.reloaded [Host] (text : String) : Option (Except Exn PerformanceSnapshot) :=
  match Json.loads (Json.dictReader parse) text with
  | some (.obj data) => some (fromDict data)
  | _ => none

/-! ## What is written can be read -/

omit [Durations] in
theorem count_bounded {E : Type} [StrEnum E] {counts : E → Int}
    (checked : ∀ c ∈ countChecks counts, c.1 = true) (e : E) :
    0 ≤ counts e ∧ counts e ≤ MAX_COUNT :=
  of_decide_eq_true (checked _ (List.mem_map_of_mem (complete e)))

/-- The counts of a snapshot are in their range. -/
structure CountsBounded (x : SnapshotFields) : Prop where
  counters : ∀ e, 0 ≤ x.counters e ∧ x.counters e ≤ MAX_COUNT
  phases : ∀ e, 0 ≤ x.transportCallsByPhase e ∧ x.transportCallsByPhase e ≤ MAX_COUNT
  retries : ∀ e, 0 ≤ x.retriesByReason e ∧ x.retriesByReason e ≤ MAX_COUNT
  outcomes : ∀ e, 0 ≤ x.outcomes e ∧ x.outcomes e ≤ MAX_COUNT
  activity : ∀ system e, 0 ≤ x.providerActivity system e ∧ x.providerActivity system e ≤ MAX_COUNT

theorem snapshot_bounded (snapshot : PerformanceSnapshot) : CountsBounded snapshot.fields := by
  have checked := firstError_none.mp snapshot.valid
  unfold SnapshotFields.checks at checked
  simp only [List.forall_mem_append, List.forall_mem_flatMap] at checked
  obtain ⟨⟨⟨⟨⟨⟨-, counters⟩, phases⟩, retries⟩, outcomes⟩, activity⟩, -⟩ := checked
  exact
    { counters := count_bounded counters
      phases := count_bounded phases
      retries := count_bounded retries
      outcomes := count_bounded outcomes
      activity := fun system => count_bounded (activity system (complete system)) }

section
variable {reader : Json.Reader}

omit [Durations] in
theorem readable_count {n : Int} (bounded : 0 ≤ n ∧ n ≤ MAX_COUNT) : Json.Readable reader (.int n) :=
  Json.intChars_short bounded.1 (lt_of_le_of_lt bounded.2 (by decide))

omit [Durations] in
theorem readable_countsDict {E : Type} [StrEnum E] {counts : E → Int}
    (bounded : ∀ e, 0 ≤ counts e ∧ counts e ≤ MAX_COUNT) :
    Json.Readable reader (countsDict counts) := by
  refine Json.readableMembers_iff.mpr ?_
  intro field listed
  obtain ⟨e, -, rfl⟩ := List.mem_map.mp listed
  exact readable_count (bounded e)

omit [Durations] in
theorem readable_textItems {values : List String} : Json.Readable reader (textItems values) := by
  refine Json.readableItems_iff.mpr ?_
  intro value listed
  obtain ⟨text, -, rfl⟩ := List.mem_map.mp listed
  trivial

end

theorem readable_rounded (q : ℚ) :
    Json.Readable (Json.dictReader parse) (.float (repr (rounded q))) := parse_repr q

theorem readable_stage (measurement : StageMeasurement) :
    Json.Readable (Json.dictReader parse) measurement.toDict :=
  ⟨trivial, readable_rounded _, readable_rounded _, readable_count measurement.counted, trivial⟩

theorem readable_summary (x : SnapshotFields) : Json.Readable (Json.dictReader parse)
    (.obj ((summary x).map fun (name, value) => (name, .float (repr value)))) := by
  refine Json.readableMembers_iff.mpr ?_
  intro field listed
  obtain ⟨⟨name, value⟩, member, rfl⟩ := List.mem_map.mp listed
  have rounding : ∃ q, value = rounded q := by
    unfold summary at member
    simp only [List.mem_cons, Prod.mk.injEq, List.not_mem_nil, or_false] at member
    rcases member with h | h | h | h | h | h | h | h | h | h | h | h <;> exact ⟨_, h.2⟩
  obtain ⟨q, rfl⟩ := rounding
  exact readable_rounded q

theorem readable_toDict (snapshot : PerformanceSnapshot) :
    Json.Readable (Json.dictReader parse) (.obj snapshot.toDict) := by
  have bounded := snapshot_bounded snapshot
  have stages : Json.Readable (Json.dictReader parse)
      (.arr (snapshot.fields.stages.map (·.toDict))) := by
    refine Json.readableItems_iff.mpr ?_
    intro item listed
    obtain ⟨measurement, -, rfl⟩ := List.mem_map.mp listed
    exact readable_stage measurement
  have implementations : Json.Readable (Json.dictReader parse)
      (.arr (snapshot.fields.connectorImplementations.map (·.toDict))) := by
    refine Json.readableItems_iff.mpr ?_
    intro item listed
    obtain ⟨dimension, -, rfl⟩ := List.mem_map.mp listed
    exact ⟨trivial, trivial, trivial, trivial⟩
  have rows : Json.Readable (Json.dictReader parse)
      (.obj (activityRows snapshot.fields.providerActivity)) := by
    refine Json.readableMembers_iff.mpr ?_
    intro field listed
    obtain ⟨system, -, rfl⟩ := List.mem_map.mp listed
    exact readable_countsDict (bounded.activity system)
  exact ⟨trivial, trivial, trivial, trivial, ⟨trivial, trivial, trivial, trivial, trivial⟩,
    ⟨readable_textItems, readable_textItems, readable_textItems, implementations, trivial⟩, stages,
    readable_summary _, readable_countsDict bounded.counters, readable_countsDict bounded.phases,
    readable_countsDict bounded.retries, readable_countsDict bounded.outcomes, rows, trivial⟩

/-- The written text is read as the document with its keys sorted. -/
theorem loads_serialize (snapshot : PerformanceSnapshot) :
    Json.loads (Json.dictReader parse) snapshot.serialize =
      some (Json.obj snapshot.toDict).sortKeys :=
  Json.loads_dumpsSorted (Json.dictReader_keepsOrder parse) (readable_toDict snapshot)

/-! ## The order of the systems -/

omit [Durations] in
theorem of_parseActivity_ok {value : Json} {rows : KnownSystem → ProviderActivity → Int}
    (read : parseActivity value = .ok rows) :
    ∃ raw, value = .obj raw ∧ raw.map Prod.fst = knownSystems := by
  obtain ⟨raw, mapping, read⟩ := of_bind_ok read
  have object : value = .obj raw := by
    unfold requireMapping at mapping
    split at mapping
    · cases mapping
      rfl
    · cases mapping
  refine ⟨raw, object, ?_⟩
  by_contra disordered
  rw [if_pos disordered] at read
  cases read

/-- What the decoder accepts lists the systems in the order of `_KNOWN_SYSTEMS`. -/
theorem of_fromDict_ok [Host] {data : Fields} {snapshot : PerformanceSnapshot}
    (accepted : PerformanceSnapshot.fromDict data = .ok snapshot) :
    ∃ raw, getMember data "provider_activity" = .obj raw ∧ raw.map Prod.fst = knownSystems := by
  unfold PerformanceSnapshot.fromDict at accepted
  split at accepted
  · cases accepted
  obtain ⟨_, -, accepted⟩ := of_bind_ok accepted
  obtain ⟨_, -, accepted⟩ := of_bind_ok accepted
  obtain ⟨_, -, accepted⟩ := of_bind_ok accepted
  obtain ⟨_, -, accepted⟩ := of_bind_ok accepted
  obtain ⟨_, -, accepted⟩ := of_bind_ok accepted
  obtain ⟨_, -, accepted⟩ := of_bind_ok accepted
  obtain ⟨_, -, accepted⟩ := of_bind_ok accepted
  obtain ⟨_, -, accepted⟩ := of_bind_ok accepted
  obtain ⟨rows, activity, -⟩ := of_bind_ok accepted
  exact of_parseActivity_ok activity

omit [Durations] in
/-- `other` is listed last, where the order of the texts has it before `outlook`. -/
theorem knownSystems_unsorted : ¬knownSystems.Pairwise (· < ·) := by decide +kernel

/-- So the decoder refuses every text that was written. -/
theorem reloaded_serialize [Host] (snapshot : PerformanceSnapshot) :
    ∃ raised, PerformanceSnapshot.reloaded snapshot.serialize = some (.error raised) := by
  unfold PerformanceSnapshot.reloaded
  rw [loads_serialize]
  show ∃ raised, some (PerformanceSnapshot.fromDict _) = some (.error raised)
  cases read : PerformanceSnapshot.fromDict (Json.mkFields (Json.sortKeysMembers snapshot.toDict)) with
  | error raised => exact ⟨raised, rfl⟩
  | ok other =>
      obtain ⟨raw, member, ordered⟩ := of_fromDict_ok read
      have found : getMember (Json.mkFields (Json.sortKeysMembers snapshot.toDict))
          "provider_activity" =
            .obj (Json.mkFields (Json.sortKeysMembers (activityRows snapshot.fields.providerActivity))) := by
        have lookup := @Json.get?_sortKeys "provider_activity" snapshot.toDict
        unfold getMember
        rw [show (Json.mkFields (Json.sortKeysMembers snapshot.toDict)).lookup "provider_activity" = _
          from lookup]
        rfl
      have rows := member.symm.trans found
      injection rows with rows
      exact absurd (ordered ▸ rows ▸ Json.sorted_mkFields _) knownSystems_unsorted

end

end MasterAgent.Performance
