import MasterAgent.Base.Journal
import MasterAgent.Retention.WindowsIntent

/-!
# Maintenance of retained evidence on Windows

The scan of the evidence tree, the removal of an expired pair, the quarantine of an orphaned file
and the recovery of the one intent that may be pending. Every file is replaced and removed by an
atomic compare-and-swap on its path and its identity, and no other writer is in the tree.
-/

namespace MasterAgent.Retention
open Base

/-! ## The scan -/

/-- A name that a Windows directory may give a child. -/
structure WindowsName where
  text : String
  component : isComponent text = true

/-- A private file, or a directory with its children in the order of their listing. -/
inductive WindowsEntry where
  | file (size : Nat)
  | directory (children : List (WindowsName × WindowsEntry))

structure WindowsScan where
  records : List RetainedFileRecord
  errors : List String
  visitedEntries : Nat
  truncated : Bool

section
variable [Host]

/-- `\.master-agent-[0-9a-f]{32}\.(?:ledger|lock)` in full. -/
def isAtomicMetadata (folded : String) : Bool :=
  let rest := folded.toList.drop ".master-agent-".length
  let suffix := String.ofList (rest.drop 32)
  startsWith folded ".master-agent-" && (rest.take 32).length == 32 &&
    (rest.take 32).all isLowerHex && (suffix == ".ledger" || suffix == ".lock")

/-- `_is_windows_retention_metadata` -/
def isWindowsRetentionMetadata (name : String) : Bool :=
  let folded := casefold name
  folded == casefold RETENTION_FLOCK_NAME || folded == casefold WINDOWS_RETENTION_TRANSACTION_NAME ||
    isAtomicMetadata folded || startsWith folded ".master-agent-tmp-" ||
    startsWith folded ".master-agent-ledger-"

/-- A name the scan goes past. -/
def isSkipped (name : String) : Bool :=
  isWindowsRetentionMetadata name || name == RETENTION_QUARANTINE_NAME ||
    name == RETENTION_PRUNE_STAGE_NAME

variable (maxFiles : Nat)

mutual
/-- `visit` of a child that may be a directory. -/
def visitEntry (relative : Parts) (scan : WindowsScan) : WindowsEntry → WindowsScan
  | .file size =>
    { scan with records := scan.records ++ [⟨relative, 0, false, size⟩] }
  | .directory children =>
    if relative.length > MAX_REPAIR_DEPTH then
      { scan with errors := scan.errors ++ ["/".intercalate relative ++ ": directory is too deep"] }
    else visitChildren relative scan children
/-- The loop over the names of a directory. -/
def visitChildren (parent : Parts) (scan : WindowsScan) :
    List (WindowsName × WindowsEntry) → WindowsScan
  | [] => scan
  | (name, entry) :: rest =>
    if isSkipped name.text then visitChildren parent scan rest
    else if scan.visitedEntries ≥ maxFiles then { scan with truncated := true }
    else
      let scan := { scan with visitedEntries := scan.visitedEntries + 1 }
      visitChildren parent (visitEntry (parent ++ [name.text]) scan entry) rest
end

/-- `_scan_retained_files_windows`: the records and the errors. -/
def scanRetainedFilesWindows (children : List (WindowsName × WindowsEntry)) :
    List RetainedFileRecord × List String :=
  let scan := visitChildren maxFiles [] ⟨[], [], 0, false⟩ children
  let limit := if scan.truncated then
    ["native scan exceeded the " ++ toString maxFiles ++ "-entry limit"] else []
  (scan.records, scan.errors ++ limit)

end

/-! ## Files -/

section
variable [Host]

/-- A file as one atomic step left it. Its bytes are written as a text, a character for each. -/
structure Generation where
  identity : AtomicStateIdentity
  payload : String
  digested : identity.fields.contentSha256 = Host.sha256 payload
  sized : identity.fields.size = payload.length

/-- The files below the root. -/
abbrev Disk := Parts → Option Generation

/-- The generation that a publication makes: the native identity is the system's choice. -/
class FreshGenerations where
  make : Disk → Parts → String → Generation
  payload_make : ∀ disk path payload, (make disk path payload).payload = payload

abbrev Op (A : Type) := Journal Disk Exn A

/-- `transaction.identity` -/
def currentIdentity (path : Parts) : Op (Option AtomicStateIdentity) := do
  let disk ← Journal.get
  return (disk path).map Generation.identity

/-- `transaction.read_bytes()` -/
def readBytes (path : Parts) : Op (Option String) := do
  let disk ← Journal.get
  return (disk path).map Generation.payload

/-- `atomic.open_transaction(path, max_bytes=…)`, as far as it reads: the identity found. -/
def openTransaction (path : Parts) (maxBytes : Nat) : Op (Option AtomicStateIdentity) := do
  let disk ← Journal.get
  Journal.ensure ((disk path).all fun generation => generation.payload.length ≤ maxBytes)
    (configurationError "atomic state file exceeds its limit")
  return (disk path).map Generation.identity

def set (disk : Disk) (path : Parts) (generation : Option Generation) : Disk :=
  Function.update disk path generation

/-- `transaction.publish_bytes(payload, expected=…)` -/
def publishBytes [FreshGenerations] (path : Parts) (payload : String)
    (expected : Option AtomicStateIdentity) : Op AtomicStateIdentity := do
  let disk ← Journal.get
  Journal.ensure ((disk path).map Generation.identity == expected)
    (configurationError "atomic state generation changed")
  let generation := FreshGenerations.make disk path payload
  Journal.step fun disk => set disk path (some generation)
  return generation.identity

/-- `transaction.remove(expected=…)` -/
def remove (path : Parts) (expected : AtomicStateIdentity) : Op Unit := do
  let disk ← Journal.get
  Journal.ensure ((disk path).map Generation.identity == some expected)
    (configurationError "atomic state generation changed")
  Journal.step fun disk => set disk path none

def markerPath : Parts := [WINDOWS_RETENTION_TRANSACTION_NAME]

/-! ## Removal -/

/-- `sorted(…, key=lambda item: tuple(part.casefold() for part in item.relative_parts))` -/
def sortSources (sources : List TransactionRecord) : List TransactionRecord :=
  sources.insertionSort fun a b => a.relativeParts.map casefold ≤ b.relativeParts.map casefold

/-- The recorded sources are all gone. -/
def ensureAbsent (sources : List TransactionRecord) (raised : Exn) : Op Unit :=
  Journal.each (fun source => do
    let identity ← currentIdentity source.relativeParts
    Journal.ensure identity.isNone raised) sources

/-- `marker.publish_bytes` of a new intent. -/
def publishIntent [FreshGenerations] (intent : WindowsRetentionTransaction) :
    Op AtomicStateIdentity := do
  let marker ← openTransaction markerPath MAX_WINDOWS_RETENTION_TRANSACTION_BYTES
  Journal.ensure marker.isNone
    (configurationError "another Windows retention transaction requires recovery")
  let payload ← Journal.lift (formatWindowsRetentionTransaction intent)
  publishBytes markerPath payload none

/-- `_remove_windows_retained_pair`, from the intent on. -/
def removeWindowsRetainedPair [FreshGenerations] (intent : WindowsRetentionTransaction) :
    Op Unit := do
  let sources := sortSources intent.sources
  Journal.each (fun source => do
    let identity ← openTransaction source.relativeParts MAX_REPAIR_FILE_BYTES
    Journal.ensure (identity == some source.identity)
      (configurationError "retained Windows generation changed before expiration")) sources
  let markerIdentity ← publishIntent intent
  Journal.each (fun source => remove source.relativeParts source.identity) sources
  ensureAbsent sources
    (configurationError "retained Windows pair removal did not reach the recorded state")
  remove markerPath markerIdentity

/-- `if transaction.identity is not None: transaction.remove(expected=source.identity)` -/
def removePresent (source : TransactionRecord) : Op Unit := do
  let identity ← currentIdentity source.relativeParts
  if identity.isSome then remove source.relativeParts source.identity

/-- `_finish_windows_remove_pair` -/
def finishWindowsRemovePair (intent : WindowsRetentionTransaction) : Op Unit := do
  let sources := sortSources intent.sources
  Journal.each (fun source => do
    let identity ← openTransaction source.relativeParts MAX_REPAIR_FILE_BYTES
    Journal.ensure (identity.isNone || identity == some source.identity)
      (configurationError "recorded Windows retention source changed during recovery")) sources
  Journal.each removePresent sources
  ensureAbsent sources (configurationError "recorded Windows retention pair remains incomplete")

/-! ## Quarantine -/

/-- The content of a file is that of the recorded identity. -/
def isContentOf (payload : String) (identity : AtomicStateIdentity) : Bool :=
  identity.fields.size == payload.length && Host.sha256 payload == identity.fields.contentSha256

/-- The bytes are at the destination: check them, and remove the source. -/
def completeQuarantine (source : TransactionRecord) (destination : Parts)
    (destinationIdentity : AtomicStateIdentity) (content : String) : Op Unit := do
  Journal.ensure (destinationIdentity.fields.contentSha256 == source.identity.fields.contentSha256 &&
      destinationIdentity.fields.size == source.identity.fields.size &&
      Host.sha256 content == source.identity.fields.contentSha256)
    (configurationError "Windows quarantine destination is occupied")
  removePresent source
  let left ← currentIdentity source.relativeParts
  let kept ← currentIdentity destination
  Journal.ensure (left.isNone && kept == some destinationIdentity)
    (configurationError "Windows quarantine transaction is incomplete")

/-- `_finish_windows_quarantine_transactions` -/
def finishWindowsQuarantineTransactions [FreshGenerations] (source : TransactionRecord)
    (destination : Parts) (sourcePayload : Option String) : Op Unit := do
  let current ← currentIdentity source.relativeParts
  Journal.ensure (current.isNone || current == some source.identity)
    (configurationError "Windows quarantine source identity changed")
  Journal.ensure (sourcePayload.all fun payload => isContentOf payload source.identity)
    (configurationError "Windows quarantine source content changed")
  let destinationPayload ← readBytes destination
  let existing ← currentIdentity destination
  match destinationPayload, existing, sourcePayload with
  | some content, some identity, _ => completeQuarantine source destination identity content
  | _, _, some payload => do
    let identity ← publishBytes destination payload none
    completeQuarantine source destination identity payload
  | _, _, none => Journal.lift (.error
      (configurationError "Windows quarantine transaction lost both recorded generations"))

/-- The name of the quarantined file. -/
def quarantineName (identity : PlatformObjectIdentity) (relativeParts : Parts) : String :=
  let material := Json.mkObj [("identity", identity.toDict),
    ("relative_parts", partsToList relativeParts)]
  Host.sha256 (String.ofList (Json.render Json.compactAscii 0 material)) ++ ".quarantine"

/-- `_quarantine_windows_retained_record`, from the intent on. -/
def quarantineWindowsRetainedRecord [FreshGenerations] (intent : WindowsRetentionTransaction)
    (source : TransactionRecord) (destination : Parts) (payload : String) : Op Unit := do
  let identity ← openTransaction source.relativeParts MAX_REPAIR_FILE_BYTES
  Journal.ensure (identity == some source.identity)
    (configurationError "orphaned Windows generation changed before quarantine")
  let _ ← openTransaction destination MAX_REPAIR_FILE_BYTES
  let markerIdentity ← publishIntent intent
  finishWindowsQuarantineTransactions source destination (some payload)
  remove markerPath markerIdentity

/-- `_finish_windows_quarantine` -/
def finishWindowsQuarantine [FreshGenerations] (intent : WindowsRetentionTransaction) : Op Unit :=
  match intent.sources, intent.destinationParts with
  | source :: _, some destination => do
    let current ← openTransaction source.relativeParts MAX_REPAIR_FILE_BYTES
    let _ ← openTransaction destination MAX_REPAIR_FILE_BYTES
    Journal.ensure (current.isNone || current == some source.identity)
      (configurationError "recorded Windows quarantine source changed during recovery")
    let sourcePayload ← readBytes source.relativeParts
    finishWindowsQuarantineTransactions source destination sourcePayload
  | _, _ => Journal.lift (.error (configurationError "Windows retention operation is invalid"))

/-! ## Recovery -/

/-- Finish an intent, whichever operation it is of. -/
def finishIntent [FreshGenerations] (intent : WindowsRetentionTransaction) : Op Unit :=
  match intent.operation with
  | .removePair => finishWindowsRemovePair intent
  | .quarantine => finishWindowsQuarantine intent

/-- `_recover_windows_retention_transaction`, applied. -/
def recoverWindowsRetentionTransaction [FreshGenerations] [JsonDecoder] :
    Op (Option WindowsRetentionTransaction) := do
  let disk ← Journal.get
  match disk markerPath with
  | none => return none
  | some marker => do
    let _ ← openTransaction markerPath MAX_WINDOWS_RETENTION_TRANSACTION_BYTES
    let intent ← Journal.lift (parseWindowsRetentionTransaction marker.payload)
    finishIntent intent
    remove markerPath marker.identity
    return some intent

end

end MasterAgent.Retention
