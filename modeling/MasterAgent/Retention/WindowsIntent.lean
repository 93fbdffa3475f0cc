import MasterAgent.Models.Bindings
import MasterAgent.Retention.Readback

/-!
# Intents of the Windows maintenance

Before it removes a pair or moves a file into quarantine, the Windows maintenance writes down what
it is about to do. The marker is one line of JSON, and its decoder checks everything again.

Results:

1. `loads_format`: the marker reads back as the document of the intent;
2. `parse_format_iff`: a coherent intent reads back as itself exactly when no source is deeper than
   the decoder's limit.
-/

namespace MasterAgent.Retention
open Base

/-! ## Identities -/

structure AtomicStateIdentityFields where
  objectIdentity : PlatformObjectIdentity
  contentSha256 : String
  size : Int
deriving DecidableEq

/-- What `AtomicStateIdentity.__post_init__` requires. -/
def AtomicStateIdentityFields.checks (x : AtomicStateIdentityFields) : List Check :=
  [requireValue (x.objectIdentity.fields.kind == .file) "atomic state identity must describe a file",
    requireValue (lowerHex (some x.contentSha256) 64 64) "atomic state content digest is invalid",
    requireValue (decide (0 ≤ x.size)) "atomic state size is invalid"]

structure AtomicStateIdentity where
  fields : AtomicStateIdentityFields
  valid : firstError fields.checks = none
deriving DecidableEq

/-- The native identity is one of Windows. -/
def AtomicStateIdentity.isWindows (identity : AtomicStateIdentity) : Bool :=
  identity.fields.objectIdentity.fields.platform == "windows"

/-- `_windows_retention_identity_to_dict` -/
def windowsRetentionIdentityToDict (value : AtomicStateIdentity) : Json :=
  .mkObj [("content_sha256", .str value.fields.contentSha256),
    ("object_identity", value.fields.objectIdentity.toDict), ("size", .int value.fields.size)]

/-! ## Intents -/

/-- `_WindowsRetentionTransactionRecord` -/
structure TransactionRecord where
  relativeParts : Parts
  identity : AtomicStateIdentity
deriving DecidableEq

inductive RetentionOperation where
  | removePair | quarantine
deriving DecidableEq

def RetentionOperation.str : RetentionOperation → String
  | removePair => "remove_pair"
  | quarantine => "quarantine"

/-- `_WindowsRetentionTransaction` -/
structure WindowsRetentionTransaction where
  operation : RetentionOperation
  sources : List TransactionRecord
  destinationParts : Option Parts
  expiresAt : Option String
  selectedAt : String
deriving DecidableEq

def WINDOWS_RETENTION_TRANSACTION_NAME : String := ".master-agent-retention.transaction"
def WINDOWS_RETENTION_TRANSACTION_SCHEMA : String := "master-agent/windows-retention-transaction@1"
def MAX_WINDOWS_RETENTION_TRANSACTION_BYTES : Nat := 64 * 1024
def MAX_REPAIR_DEPTH : Nat := 64

/-! ## Writing -/

def partsToList (parts : Parts) : Json := .arr (parts.map .str)

def TransactionRecord.toDict (record : TransactionRecord) : Json :=
  .mkObj [("identity", windowsRetentionIdentityToDict record.identity),
    ("relative_parts", partsToList record.relativeParts)]

def WindowsRetentionTransaction.document (value : WindowsRetentionTransaction) : Json :=
  .mkObj [("destination_parts", value.destinationParts.elim .null partsToList),
    ("expires_at", optStr value.expiresAt), ("operation", .str value.operation.str),
    ("schema", .str WINDOWS_RETENTION_TRANSACTION_SCHEMA), ("selected_at", .str value.selectedAt),
    ("sources", .arr (value.sources.map TransactionRecord.toDict))]

/-- `_format_windows_retention_transaction`. The text is ASCII, a byte a character. -/
def formatWindowsRetentionTransaction (value : WindowsRetentionTransaction) : Except Exn String :=
  let payload := String.ofList (Json.render Json.compactAscii 0 value.document ++ [Char.ofNat 10])
  if payload.length > MAX_WINDOWS_RETENTION_TRANSACTION_BYTES then
    .error (configurationError "Windows retention transaction exceeds its limit")
  else .ok payload

/-! ## Reading -/

/-- A part of a path that names one child. -/
def isComponent (part : String) : Bool :=
  !part.isEmpty && part != "." && part != ".." && part.toList.all fun c =>
    c != Json.backslash && c != '/' && c != ':' && c.toNat != 0

/-- `_parse_windows_transaction_parts` -/
def parseWindowsTransactionParts (value : Json) : Except Exn Parts :=
  let invalid := configurationError "Windows retention path binding is invalid"
  match value with
  | .arr values =>
    match asStrings values with
    | some parts =>
      if parts.isEmpty || parts.length > MAX_REPAIR_DEPTH || !parts.all isComponent then
        .error invalid
      else .ok parts
    | none => .error invalid
  | _ => .error invalid

section
variable [Host]

/-- `_parse_windows_retention_identity` -/
def parseWindowsRetentionIdentity (value : Json) : Except Exn AtomicStateIdentity := do
  let malformed := configurationError "Windows retention identity is malformed"
  demand (MasterAgent.hasKeys value ["content_sha256", "object_identity", "size"]) malformed
  let rawObject ← item value "object_identity"
  demand (isObject rawObject) malformed
  -- `except (TypeError, ValueError)` around the two constructors
  match PlatformObjectIdentity.fromDict rawObject, value.get? "content_sha256", value.get? "size" with
  | .ok objectIdentity, some (.str contentSha256), some (.int size) =>
    let fields : AtomicStateIdentityFields := ⟨objectIdentity, contentSha256, size⟩
    match build fields.checks fun valid => (⟨fields, valid⟩ : AtomicStateIdentity) with
    | .ok identity =>
      if identity.isWindows then .ok identity
      else .error (configurationError "Windows retention identity platform is invalid")
    | .error _ => .error malformed
  | _, _, _ => .error malformed

def malformed : Exn := configurationError "Windows retention transaction is malformed"

def parseRecord (rawSource : Json) : Except Exn TransactionRecord := do
  demand (MasterAgent.hasKeys rawSource ["identity", "relative_parts"]) malformed
  let relativeParts ← parseWindowsTransactionParts (← item rawSource "relative_parts")
  let identity ← parseWindowsRetentionIdentity (← item rawSource "identity")
  return ⟨relativeParts, identity⟩

/-- What the two operations ask of their fields. -/
def checkOperation (operation : String) (sources : List TransactionRecord)
    (destinationParts : Option Parts) (expiresAt : Option String) :
    Except Exn RetentionOperation :=
  if operation = "remove_pair" then
    match sources, destinationParts, expiresAt with
    | [first, second], none, some expires => do
      demand (first.relativeParts.dropLast == second.relativeParts.dropLast)
        (configurationError "Windows pair transaction is inconsistent")
      let _ ← validatedManifestTimestamp (.str expires)
      return .removePair
    | _, _, _ => .error (configurationError "Windows pair transaction is inconsistent")
  else if operation = "quarantine" then
    match sources, destinationParts, expiresAt with
    | [_], some [directory, _], none => do
      demand (casefold directory == casefold RETENTION_QUARANTINE_NAME)
        (configurationError "Windows quarantine transaction is inconsistent")
      return .quarantine
    | _, _, _ => .error (configurationError "Windows quarantine transaction is inconsistent")
  else .error (configurationError "Windows retention operation is invalid")

def textOf : Json → Except Exn String
  | .str text => .ok text
  | _ => .error malformed

def optionalText : Json → Except Exn (Option String)
  | .null => .ok none
  | .str text => .ok (some text)
  | _ => .error malformed

def optionalParts : Json → Except Exn (Option Parts)
  | .null => .ok none
  | value => (parseWindowsTransactionParts value).map some

def listOf : Json → Except Exn (List Json)
  | .arr values => .ok values
  | _ => .error malformed

/-- The decoder behind the text. -/
def parseDocument (raw : Json) : Except Exn WindowsRetentionTransaction := do
  demand (MasterAgent.hasKeys raw ["destination_parts", "expires_at", "operation", "schema",
    "selected_at", "sources"]) malformed
  demand ((← item raw "schema") == .str WINDOWS_RETENTION_TRANSACTION_SCHEMA)
    (configurationError "Windows retention transaction schema is invalid")
  let operation ← textOf (← item raw "operation")
  let selectedAt ← textOf (← item raw "selected_at")
  let _ ← validatedManifestTimestamp (.str selectedAt)
  let sources ← (← listOf (← item raw "sources")).mapM parseRecord
  let destinationParts ← optionalParts (← item raw "destination_parts")
  let expiresAt ← optionalText (← item raw "expires_at")
  let operation ← checkOperation operation sources destinationParts expiresAt
  demand (decide (sources.map (·.relativeParts)).Nodup)
    (configurationError "Windows retention transaction sources conflict")
  return ⟨operation, sources, destinationParts, expiresAt, selectedAt⟩

/-- `_parse_windows_retention_transaction` -/
def parseWindowsRetentionTransaction [JsonDecoder] (payload : String) :
    Except Exn WindowsRetentionTransaction := do
  demand (!payload.isEmpty && decide (payload.length ≤ MAX_WINDOWS_RETENTION_TRANSACTION_BYTES) &&
    endsWith payload "\n") (configurationError "Windows retention transaction is torn")
  match JsonDecoder.loads payload with
  | none => .error (valueError "Windows retention transaction is not valid JSON")
  | some raw => parseDocument raw

end

/-! ## Documents -/

theorem canonical_texts (texts : List String) : Json.Canonical (.arr (texts.map .str)) := by
  refine Json.canonicalItems_iff.mpr fun item member => ?_
  obtain ⟨text, -, rfl⟩ := List.mem_map.mp member
  exact trivial

/-- The members of an object are canonical one by one. -/
theorem canonical_optText (text : Option String) : Json.Canonical (optStr text) := by
  cases text <;> exact trivial

theorem canonical_windowsIdentity {x : PlatformObjectIdentity}
    (windows : x.fields.platform = "windows") : Json.Canonical x.toDict := by
  have posix : ¬x.fields.platform = "posix" := by simp [windows]
  have payload : Json.Canonical (PlatformObjectIdentity.windowsPayload x.fields) := by
    refine Json.canonical_mkObj ?_
    simp only [List.forall_mem_cons, List.not_mem_nil, false_imp_iff, implies_true, and_true]
    exact ⟨canonical_optText _, canonical_optText _, canonical_optText _, canonical_optText _,
      canonical_optText _⟩
  unfold PlatformObjectIdentity.toDict
  rw [if_neg posix]
  refine Json.canonical_mkObj ?_
  simp only [List.cons_append, List.nil_append, List.forall_mem_cons, List.not_mem_nil,
    false_imp_iff, implies_true, and_true]
  exact ⟨trivial, trivial, trivial, payload⟩

/-- A file of this size has a size that is read back. -/
def AtomicStateIdentity.Bounded (identity : AtomicStateIdentity) : Prop :=
  identity.isWindows = true ∧ identity.fields.size ≤ MAX_REPAIR_FILE_BYTES

theorem size_digits {n : Int} (nonneg : 0 ≤ n) (small : n ≤ MAX_REPAIR_FILE_BYTES) :
    (Json.intChars n).length ≤ 4300 := by
  have limit : MAX_REPAIR_FILE_BYTES < 10 ^ 18 := by decide
  exact Json.intChars_short nonneg (lt_of_le_of_lt small (by exact_mod_cast limit))

theorem size_nonneg (identity : AtomicStateIdentity) : 0 ≤ identity.fields.size := by
  have checked := firstError_none.mp identity.valid _
    (List.mem_cons_of_mem _ (List.mem_cons_of_mem _ List.mem_cons_self))
  exact of_decide_eq_true checked

theorem canonical_identity {identity : AtomicStateIdentity} (bounded : identity.Bounded) :
    Json.Canonical (windowsRetentionIdentityToDict identity) := by
  refine Json.canonical_mkObj ?_
  simp only [List.forall_mem_cons, List.not_mem_nil, false_imp_iff, implies_true, and_true]
  exact ⟨trivial, canonical_windowsIdentity (beq_iff_eq.mp bounded.1),
    size_digits (size_nonneg identity) bounded.2⟩

theorem canonical_record {record : TransactionRecord} (bounded : record.identity.Bounded) :
    Json.Canonical record.toDict := by
  refine Json.canonical_mkObj ?_
  simp only [List.forall_mem_cons, List.not_mem_nil, false_imp_iff, implies_true, and_true]
  exact ⟨canonical_identity bounded, canonical_texts _⟩

theorem canonical_document {value : WindowsRetentionTransaction}
    (bounded : ∀ source ∈ value.sources, source.identity.Bounded) :
    Json.Canonical value.document := by
  have destination : Json.Canonical (value.destinationParts.elim .null partsToList) := by
    cases value.destinationParts with
    | none => exact trivial
    | some parts => exact canonical_texts parts
  have sources : Json.Canonical (.arr (value.sources.map TransactionRecord.toDict)) := by
    refine Json.canonicalItems_iff.mpr fun item member => ?_
    obtain ⟨source, listed, rfl⟩ := List.mem_map.mp member
    exact canonical_record (bounded source listed)
  refine Json.canonical_mkObj ?_
  simp only [List.forall_mem_cons, List.not_mem_nil, false_imp_iff, implies_true, and_true]
  exact ⟨destination, canonical_optText _, trivial, trivial, trivial, sources⟩

/-- The marker reads back as the document of the intent. -/
theorem loads_format [FloatReader] {value : WindowsRetentionTransaction} {payload : String}
    (bounded : ∀ source ∈ value.sources, source.identity.Bounded)
    (written : formatWindowsRetentionTransaction value = .ok payload) :
    JsonDecoder.loads payload = some value.document ∧
      payload.length ≤ MAX_WINDOWS_RETENTION_TRANSACTION_BYTES ∧ endsWith payload "\n" = true := by
  unfold formatWindowsRetentionTransaction at written
  dsimp only at written
  split at written
  · cases written
  · next short =>
    obtain rfl := Except.ok.inj written
    refine ⟨?_, Nat.not_lt.mp short, ?_⟩
    · exact Json.loads_render (forall_chars (by decide))
        (Json.readBack_canonical (fun _ => uniqueJsonObject_sorted) (canonical_document bounded))
    · have whole : (String.ofList (Json.render Json.compactAscii 0 value.document ++
          [Char.ofNat 10])).toList =
            Json.render Json.compactAscii 0 value.document ++ [Char.ofNat 10] :=
        String.toList_ofList
      unfold endsWith
      rw [List.isSuffixOf_iff_suffix, whole]
      exact List.suffix_append _ _

/-! ## The decoder reads what was written -/

theorem parseParts_iff {parts : Parts} (nonempty : parts ≠ []) (named : parts.all isComponent) :
    parseWindowsTransactionParts (partsToList parts) = .ok parts ↔
      parts.length ≤ MAX_REPAIR_DEPTH := by
  unfold parseWindowsTransactionParts partsToList
  dsimp only
  rw [asStrings_map]
  dsimp only
  have some : parts.isEmpty = false := by simpa using nonempty
  rw [some, named, Bool.false_or, Bool.not_true, Bool.or_false]
  by_cases deep : parts.length > MAX_REPAIR_DEPTH
  · rw [if_pos (decide_eq_true deep)]
    exact iff_of_false nofun (Nat.not_le.mpr deep)
  · rw [if_neg (by simpa using deep)]
    exact iff_of_true rfl (Nat.not_lt.mp deep)

theorem demand_true {raised : Exn} : demand true raised = .ok () := rfl

section
variable [Host]

theorem parseIdentity_toDict {identity : AtomicStateIdentity} (windows : identity.isWindows = true) :
    parseWindowsRetentionIdentity (windowsRetentionIdentityToDict identity) = .ok identity := by
  have keys : MasterAgent.hasKeys (windowsRetentionIdentityToDict identity)
      ["content_sha256", "object_identity", "size"] = true := hasKeys_mkObj fun k => Iff.rfl
  have object : item (windowsRetentionIdentityToDict identity) "object_identity" =
      .ok identity.fields.objectIdentity.toDict := by
    simp [item, windowsRetentionIdentityToDict, Json.lookup_cons]
  have sha : (windowsRetentionIdentityToDict identity).get? "content_sha256" =
      some (.str identity.fields.contentSha256) := by
    simp [windowsRetentionIdentityToDict]
  have size : (windowsRetentionIdentityToDict identity).get? "size" =
      some (.int identity.fields.size) := by
    simp [windowsRetentionIdentityToDict, Json.lookup_cons]
  have isObj : isObject identity.fields.objectIdentity.toDict = true := rfl
  unfold parseWindowsRetentionIdentity
  simp only [keys, object, isObj, demand_true, ok_bind, PlatformObjectIdentity.fromDict_toDict, sha,
    size]
  rw [build_ok identity.valid]
  exact if_pos windows

theorem parseRecord_toDict {record : TransactionRecord} (windows : record.identity.isWindows = true) :
    parseRecord record.toDict =
      (parseWindowsTransactionParts (partsToList record.relativeParts)).map
        fun parts => ⟨parts, record.identity⟩ := by
  have keys : MasterAgent.hasKeys record.toDict ["identity", "relative_parts"] = true :=
    hasKeys_mkObj fun k => Iff.rfl
  have parts : item record.toDict "relative_parts" = .ok (partsToList record.relativeParts) := by
    simp [item, TransactionRecord.toDict, Json.lookup_cons]
  have identity : item record.toDict "identity" =
      .ok (windowsRetentionIdentityToDict record.identity) := by
    simp [item, TransactionRecord.toDict]
  unfold parseRecord
  simp only [keys, parts, identity, demand_true, ok_bind, parseIdentity_toDict windows]
  cases parseWindowsTransactionParts (partsToList record.relativeParts) <;> rfl

/-- The sources read back exactly when none of them is too deep. -/
theorem parseRecords_iff {sources : List TransactionRecord}
    (valid : ∀ source ∈ sources, source.identity.isWindows = true ∧ source.relativeParts ≠ [] ∧
      source.relativeParts.all isComponent = true) :
    (sources.map TransactionRecord.toDict).mapM parseRecord = .ok sources ↔
      ∀ source ∈ sources, source.relativeParts.length ≤ MAX_REPAIR_DEPTH := by
  induction sources with
  | nil => exact iff_of_true rfl fun _ listed => absurd listed List.not_mem_nil
  | cons source sources ih =>
    obtain ⟨⟨windows, nonempty, named⟩, others⟩ := List.forall_mem_cons.mp valid
    rw [List.forall_mem_cons, ← parseParts_iff nonempty named, ← ih others]
    rw [List.map_cons, List.mapM_cons, parseRecord_toDict windows]
    generalize (sources.map TransactionRecord.toDict).mapM parseRecord = rest
    generalize parseWindowsTransactionParts (partsToList source.relativeParts) = parts
    obtain ⟨sourceParts, sourceIdentity⟩ := source
    cases parts with
    | error raised => exact iff_of_false nofun nofun
    | ok read =>
      cases rest with
      | error raised => exact iff_of_false nofun nofun
      | ok records =>
        have both : Except.ok ((⟨read, sourceIdentity⟩ : TransactionRecord) :: records) =
            (Except.ok (⟨sourceParts, sourceIdentity⟩ :: sources) : Except Exn _) ↔
              read = sourceParts ∧ records = sources := by
          simp only [Except.ok.injEq, List.cons.injEq, TransactionRecord.mk.injEq, and_true]
        rw [Except.ok.injEq, Except.ok.injEq]
        exact both

/-- What the maintenance makes sure of before it writes an intent, the depth of its sources
apart. -/
structure WindowsRetentionTransaction.Coherent (value : WindowsRetentionTransaction) : Prop where
  shape : checkOperation value.operation.str value.sources value.destinationParts
    value.expiresAt = .ok value.operation
  apart : (value.sources.map (·.relativeParts)).Nodup
  selected : ∃ instant, validatedManifestTimestamp (.str value.selectedAt) = .ok instant
  bounded : ∀ source ∈ value.sources, source.identity.Bounded
  named : ∀ source ∈ value.sources, source.relativeParts ≠ [] ∧
    source.relativeParts.all isComponent = true
  destination : ∀ parts, value.destinationParts = some parts → parts ≠ [] ∧
    parts.all isComponent = true ∧ parts.length ≤ MAX_REPAIR_DEPTH

theorem optionalParts_of_coherent {value : WindowsRetentionTransaction} (coherent : value.Coherent) :
    optionalParts (value.destinationParts.elim .null partsToList) = .ok value.destinationParts := by
  cases parts : value.destinationParts with
  | none => rfl
  | some destination =>
    obtain ⟨nonempty, named, shallow⟩ := coherent.destination destination parts
    show (parseWindowsTransactionParts (partsToList destination)).map some = _
    rw [(parseParts_iff nonempty named).mpr shallow]
    rfl

omit [Host] in
theorem optionalText_optStr (text : Option String) : optionalText (optStr text) = .ok text := by
  cases text <;> rfl

theorem parseDocument_iff {value : WindowsRetentionTransaction} (coherent : value.Coherent) :
    parseDocument value.document = .ok value ↔
      ∀ source ∈ value.sources, source.relativeParts.length ≤ MAX_REPAIR_DEPTH := by
  have keys : MasterAgent.hasKeys value.document ["destination_parts", "expires_at", "operation",
      "schema", "selected_at", "sources"] = true := hasKeys_mkObj fun k => Iff.rfl
  have schema : item value.document "schema" =
      .ok (.str WINDOWS_RETENTION_TRANSACTION_SCHEMA) := by
    simp [item, WindowsRetentionTransaction.document, Json.lookup_cons]
  have operation : item value.document "operation" = .ok (.str value.operation.str) := by
    simp [item, WindowsRetentionTransaction.document, Json.lookup_cons]
  have selectedAt : item value.document "selected_at" = .ok (.str value.selectedAt) := by
    simp [item, WindowsRetentionTransaction.document, Json.lookup_cons]
  have sources : item value.document "sources" =
      .ok (.arr (value.sources.map TransactionRecord.toDict)) := by
    simp [item, WindowsRetentionTransaction.document, Json.lookup_cons]
  have destination : item value.document "destination_parts" =
      .ok (value.destinationParts.elim .null partsToList) := by
    simp [item, WindowsRetentionTransaction.document]
  have expires : item value.document "expires_at" = .ok (optStr value.expiresAt) := by
    simp [item, WindowsRetentionTransaction.document, Json.lookup_cons]
  obtain ⟨instant, stamped⟩ := coherent.selected
  have valid : ∀ source ∈ value.sources, source.identity.isWindows = true ∧
      source.relativeParts ≠ [] ∧ source.relativeParts.all isComponent = true :=
    fun source listed => ⟨(coherent.bounded source listed).1, coherent.named source listed⟩
  rw [← parseRecords_iff valid]
  unfold parseDocument
  simp only [keys, demand_true, ok_bind, schema, beq_self_eq_true, operation, selectedAt, textOf,
    stamped, sources, listOf, destination, expires, optionalParts_of_coherent coherent,
    optionalText_optStr]
  cases read : (value.sources.map TransactionRecord.toDict).mapM parseRecord with
  | error raised => exact iff_of_false (by rintro ⟨⟩) (by rintro ⟨⟩)
  | ok records =>
    rw [ok_bind, Except.ok.injEq]
    constructor
    · intro parsed
      obtain ⟨checked, -, parsed⟩ := of_bind_ok parsed
      obtain ⟨_, -, parsed⟩ := of_bind_ok parsed
      exact congrArg WindowsRetentionTransaction.sources (Except.ok.inj parsed)
    · rintro rfl
      rw [coherent.shape, ok_bind, decide_eq_true coherent.apart, demand_true, ok_bind]
      rfl

/-- A coherent intent reads back as itself exactly when no source is too deep. -/
theorem parse_format_iff [FloatReader] {value : WindowsRetentionTransaction} {payload : String}
    (coherent : value.Coherent) (written : formatWindowsRetentionTransaction value = .ok payload) :
    parseWindowsRetentionTransaction payload = .ok value ↔
      ∀ source ∈ value.sources, source.relativeParts.length ≤ MAX_REPAIR_DEPTH := by
  obtain ⟨loads, short, line⟩ := loads_format coherent.bounded written
  have nonempty : payload.isEmpty = false := by
    by_contra empty
    have blank : payload = "" := by simpa using empty
    rw [blank] at line
    exact absurd line (by decide)
  unfold parseWindowsRetentionTransaction
  rw [nonempty, decide_eq_true short, line, Bool.not_false, Bool.and_true, Bool.and_true,
    demand_true, ok_bind, loads]
  exact parseDocument_iff coherent

end

end MasterAgent.Retention
