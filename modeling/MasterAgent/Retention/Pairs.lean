import MasterAgent.Retention.Manifest

/-!
# Retained pairs: purge and repair

The two validators of a scanned evidence tree: `_plan_retained_pairs_at`, which decides what a
purge may delete, and `_classify_orphaned_records_at`, which decides what a repair quarantines.
The tree holds private regular files, and no other writer is in it.
-/

namespace MasterAgent.Retention
open Base

/-- The components of a path below the evidence root. -/
abbrev Parts := List String

/-- `_RetainedFileRecord`. Of the identity only the device matters here. -/
structure RetainedFileRecord where
  relativeParts : Parts
  device : Nat
  isSymlink : Bool
  size : Nat
deriving DecidableEq

def RetainedFileRecord.name (record : RetainedFileRecord) : String :=
  record.relativeParts.getLastD ""

/-- `relative_parts[:-1]` -/
def RetainedFileRecord.parent (record : RetainedFileRecord) : Parts :=
  record.relativeParts.dropLast

def RetainedFileRecord.isSidecar (record : RetainedFileRecord) : Bool :=
  endsWith record.name ".retention.json"

/-- What a scan without errors returns: each file below the root once, all of them regular, with
the text each file's bytes decode to (`none` when they are not UTF-8). -/
structure ScannedTree where
  rootDevice : Nat
  records : List RetainedFileRecord
  contents : Parts → Option String
  distinct : (records.map RetainedFileRecord.relativeParts).Nodup
  named : ∀ record ∈ records, record.relativeParts ≠ []
  regular : ∀ record ∈ records, record.isSymlink = false

structure RetainedEvidencePair where
  evidence : RetainedFileRecord
  sidecar : RetainedFileRecord
  expiresAt : Int
deriving DecidableEq

def MAX_REPAIR_FILE_BYTES : Nat := 64 * 1024 * 1024

def osError (message : String) : Exn := ⟨.osError, "OSError", message⟩

/-- The exceptions both validators catch: `OSError`, `TypeError` and `ValueError` with their
subclasses. -/
def caught (raised : Exn) : Bool :=
  raised.kind == .osError || raised.kind.isTypeError || raised.kind == .valueError

/-- `try: … except (OSError, TypeError, ValueError, …)` -/
def catching {A : Type} (body : Except Exn A) : Except Exn (Except Exn A) :=
  match body with
  | .ok value => .ok (.ok value)
  | .error raised => if caught raised then .ok (.error raised) else .error raised

/-- `if not holds: raise raised` -/
def demand (holds : Bool) (raised : Exn) : Except Exn Unit :=
  if holds then .ok () else .error raised

namespace ScannedTree

variable (tree : ScannedTree)

/-- `sorted(…, key=lambda record: record.relative_parts)` of the sidecars. -/
def sidecars : List RetainedFileRecord :=
  (tree.records.filter (·.isSidecar)).insertionSort fun a b => a.relativeParts ≤ b.relativeParts

/-- `by_relative.get(parts)` -/
def byRelative (parts : Parts) : Option RetainedFileRecord :=
  tree.records.find? (·.relativeParts = parts)

/-- `_read_record_bytes_at` of an unchanged private file, decoded as UTF-8. -/
def readText (record : RetainedFileRecord) : Except Exn String :=
  if record.isSymlink || record.size > MAX_REPAIR_FILE_BYTES then
    .error (osError "retained evidence file is unsafe or too large")
  else match tree.contents record.relativeParts with
    | some text => .ok text
    | none => .error ⟨.valueError, "UnicodeDecodeError", "invalid start byte"⟩

section
variable [Host] [JsonDecoder]

/-- `_load_json_bytes` of a record's bytes, as a mapping. -/
def readManifest (sidecar : RetainedFileRecord) : Except Exn Fields := do
  let text ← tree.readText sidecar
  match JsonDecoder.loads text with
  | none => .error (valueError "retention sidecar is not valid JSON")
  | some (.obj raw) => .ok raw
  | some _ => .error (structuredDataTypeError "retention sidecar must be a JSON object")

/-- `_verify_retained_record_at` -/
def verifyRetainedRecord (record : RetainedFileRecord) (manifest : Fields) : Except Exn Unit := do
  let expected ← expectedDigest manifest
  let text ← tree.readText record
  let mismatch := valueError "retention content digest does not match evidence"
  if contentDigest (.str text) == expected then .ok ()
  else match JsonDecoder.loads text with
    | none => .error mismatch
    | some value => if contentDigest value == expected then .ok () else .error mismatch

/-! ## Purge -/

/-- `by_relative.get(…)`, which must not be `None`. -/
def requireEvidence (parts : Parts) : Except Exn RetainedFileRecord :=
  match tree.byRelative parts with
  | none => .error (valueError "retention evidence file is missing")
  | some evidence => .ok evidence

/-- The body of the loop of `_plan_retained_pairs_at`. -/
def planPair (paired : List Parts) (sidecar : RetainedFileRecord) :
    Except Exn RetainedEvidencePair := do
  demand (sidecar.device == tree.rootDevice)
    (osError "retention sidecar cannot use the root transaction")
  let raw ← tree.readManifest sidecar
  let (evidenceName, expiresAt) ← validateRetentionManifest raw sidecar.name
  let evidence ← tree.requireEvidence (sidecar.parent ++ [evidenceName])
  demand (evidence.device == tree.rootDevice)
    (osError "retention evidence cannot use the root transaction")
  demand (!paired.contains evidence.relativeParts)
    (valueError "retention evidence has conflicting sidecars")
  tree.verifyRetainedRecord evidence raw
  return ⟨evidence, sidecar, expiresAt⟩

/-- `"/".join(parts)` -/
def display (parts : Parts) : String := "/".intercalate parts

structure Plan where
  pairs : List RetainedEvidencePair
  errors : List String

/-- The loop over the sidecars. `paired_evidence` is read off the pairs. -/
def planPairs : List RetainedFileRecord → Plan → Except Exn Plan
  | [], plan => .ok plan
  | sidecar :: rest, plan => do
    let paired := plan.pairs.map (·.evidence.relativeParts)
    match ← catching (tree.planPair paired sidecar) with
    | .ok pair => planPairs rest { plan with pairs := plan.pairs ++ [pair] }
    | .error raised =>
      planPairs rest { plan with errors := plan.errors ++
        [display sidecar.relativeParts ++ ": invalid retained pair: " ++ raised.className] }

/-- `_plan_retained_pairs_at`: the pairs, the validation errors and the number of sidecars. -/
def planRetainedPairs (maxManifests : Nat) : Except Exn (Plan × Nat) := do
  let sidecars := tree.sidecars
  let errors := if sidecars.length > maxManifests then
    ["retention scan exceeded the " ++ toString maxManifests ++ "-manifest limit"] else []
  let plan ← tree.planPairs (sidecars.take maxManifests) ⟨[], errors⟩
  return (plan, sidecars.length)

/-! ## Repair -/

/-- What a repair finds about one sidecar. -/
inductive Finding where
  /-- The evidence is missing. -/
  | alone
  | mismatch (evidence : RetainedFileRecord)
  | paired (evidence : RetainedFileRecord)
deriving DecidableEq

/-- The body of the loop of `_classify_orphaned_records_at`. -/
def inspectSidecar (sidecar : RetainedFileRecord) : Except Exn Finding := do
  if sidecar.isSymlink then
    throw (osError "retention sidecar must not be a symbolic link")
  let raw ← tree.readManifest sidecar
  let evidenceName := getStr (.obj raw) "evidence_path" ""
  if !isSiblingName evidenceName then
    throw (valueError "retention evidence_path must be a sibling filename")
  match tree.byRelative (sidecar.parent ++ [evidenceName]) with
  | none => return .alone
  | some evidence =>
    if evidence.isSymlink then return .alone
    match ← catching (tree.verifyRetainedRecord evidence raw) with
    | .ok () => return .paired evidence
    | .error _ => return .mismatch evidence

structure Orphans where
  orphaned : List Parts
  pairedEvidence : List Parts
  errors : List String

/-- The loop over the sidecars. -/
def inspectSidecars : List RetainedFileRecord → Orphans → Except Exn Orphans
  | [], found => .ok found
  | sidecar :: rest, found => do
    let shown := display sidecar.relativeParts
    match ← catching (tree.inspectSidecar sidecar) with
    | .ok .alone =>
      inspectSidecars rest { found with orphaned := found.orphaned ++ [sidecar.relativeParts] }
    | .ok (.mismatch evidence) =>
      let mismatched := [sidecar.relativeParts, evidence.relativeParts]
      inspectSidecars rest { found with
        orphaned := found.orphaned ++ mismatched
        errors := found.errors ++ [shown ++ ": content digest mismatch"] }
    | .ok (.paired evidence) =>
      let pairedEvidence := found.pairedEvidence ++ [evidence.relativeParts]
      inspectSidecars rest { found with pairedEvidence := pairedEvidence }
    | .error raised =>
      inspectSidecars rest { found with
        orphaned := found.orphaned ++ [sidecar.relativeParts]
        errors := found.errors ++ [shown ++ ": " ++ raised.className] }

/-- `_classify_orphaned_records_at`: the orphans in the order of their paths, and the errors. -/
def classifyOrphanedRecords : Except Exn (List RetainedFileRecord × List String) := do
  let found ← tree.inspectSidecars tree.sidecars ⟨[], [], []⟩
  let unpaired := tree.records.filter fun record => !record.isSidecar &&
    (record.isSymlink || !found.pairedEvidence.contains record.relativeParts)
  let orphaned := found.orphaned ++ unpaired.map (·.relativeParts)
  let orphans := tree.records.filter fun record => orphaned.contains record.relativeParts
  return (orphans.insertionSort fun a b => a.relativeParts ≤ b.relativeParts, found.errors)

end
end ScannedTree

end MasterAgent.Retention
