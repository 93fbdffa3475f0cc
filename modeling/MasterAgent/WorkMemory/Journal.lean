import Mathlib.Data.List.Infix
import MasterAgent.Base.JsonLoads
import MasterAgent.Base.Transaction
import MasterAgent.Models.Systems

/-!
# The work journal

The two tables of a `WorkMemory` database, the replay that verifies them, and the transactions that
append to them. A column holds whatever the database can store in it; the replay decodes it. What the
source takes from a regular expression and from `urlsplit` beyond the host's are parameters.
-/

namespace MasterAgent.WorkMemory
open Base

class Screening where
  /-- `_SENSITIVE_TEXT_PATTERN.search(value) is not None` -/
  sensitive : String → Bool
  /-- `urlsplit(value).netloc` -/
  netloc : String → String

def MAX_EVENTS : Nat := 1024
def GENESIS_HASH : String := "GENESIS"
def MAX_WORK_ID_BYTES : Nat := 128
def MAX_SUMMARY_BYTES : Nat := 2048
def MAX_REFERENCE_BYTES : Nat := 1024

def workMemoryError (message : String) : Exn := ⟨.runtime, "WorkMemoryError", message⟩

/-! ## Stages and kinds -/

inductive WorkStage where
  | issue | planned | implementing | reviewing | verified | merged
deriving DecidableEq, Repr

namespace WorkStage

def str : WorkStage → String
  | issue => "issue"
  | planned => "planned"
  | implementing => "implementing"
  | reviewing => "reviewing"
  | verified => "verified"
  | merged => "merged"

def parse : String → Except Exn WorkStage :=
  parseEnum [issue, planned, implementing, reviewing, verified, merged] str "WorkStage"

/-- `_STAGE_ORDER` -/
def order : WorkStage → Nat
  | issue => 0
  | planned => 1
  | implementing => 2
  | reviewing => 3
  | verified => 4
  | merged => 5

@[simp]
theorem parse_str (s : WorkStage) : parse s.str = .ok s := by cases s <;> rfl

end WorkStage

inductive WorkEventKind where
  | started | decision | checkpoint | reference
deriving DecidableEq, Repr

namespace WorkEventKind

def str : WorkEventKind → String
  | started => "started"
  | decision => "decision"
  | checkpoint => "checkpoint"
  | reference => "reference"

def parse : String → Except Exn WorkEventKind :=
  parseEnum [started, decision, checkpoint, reference] str "WorkEventKind"

@[simp]
theorem parse_str (k : WorkEventKind) : parse k.str = .ok k := by cases k <;> rfl

end WorkEventKind

/-! ## Rows -/

/-- What a column can hold. -/
inductive Value where
  | null
  | int (n : Int)
  | real (f : FloatText)
  | text (s : String)
  | blob (bytes : List UInt8)
deriving DecidableEq

/-- A row of `work_events`. Its primary key is an integer. -/
structure EventRow where
  sequence : Int
  eventId : Value
  timestamp : Value
  workId : Value
  kind : Value
  stage : Value
  summary : Value
  reference : Value
  previousHash : Value
  eventHash : Value
deriving DecidableEq

/-- The rows of `work_events`, `ORDER BY sequence`. -/
structure WorkEvents where
  rows : List EventRow
  ordered : rows.Pairwise (·.sequence < ·.sequence)
deriving DecidableEq

/-- A row of `work_memory_state`. -/
structure StateRow where
  id : Int
  eventCount : Value
  headHash : Value
deriving DecidableEq

structure Database where
  workEvents : WorkEvents
  workMemoryState : List StateRow
deriving DecidableEq

/-- The columns of an event but for its hash. -/
structure EventBody where
  sequence : Int
  eventId : Uuid
  timestamp : Datetime
  workId : String
  kind : WorkEventKind
  stage : WorkStage
  summary : String
  reference : Option String
  previousHash : String
deriving DecidableEq

structure WorkEvent extends EventBody where
  eventHash : String
deriving DecidableEq

/-- A text or nothing. -/
def Value.ofText : Option String → Value
  | none => .null
  | some s => .text s

/-- The columns that an event is inserted with. -/
def WorkEvent.row (e : WorkEvent) : EventRow where
  sequence := e.sequence
  eventId := .text e.eventId.str
  timestamp := .text e.timestamp.isoformat
  workId := .text e.workId
  kind := .text e.kind.str
  stage := .text e.stage.str
  summary := .text e.summary
  reference := .ofText e.reference
  previousHash := .text e.previousHash
  eventHash := .text e.eventHash

/-! ## Texts -/

section
variable [Host] [Screening]

omit [Host] in
/-- `_validate_text` -/
def validateText (value label : String) (maxBytes : Nat) : Except Exn String :=
  if value = "" ∨ value ≠ strip value ∨ maxBytes < value.utf8ByteSize ∨
      (value.toList.any fun c => c.toNat < 32 || 127 ≤ c.toNat && c.toNat ≤ 159) ∨
      Screening.sensitive value then
    .error (valueError s!"work-memory {label} is invalid or sensitive")
  else .ok value

omit [Host] in
/-- `_validate_summary` -/
def validateSummary (value : String) : Except Exn String :=
  validateText value "summary" MAX_SUMMARY_BYTES

/-- `_validate_reference` -/
def validateReference (value label : String) : Except Exn String := do
  let selected ← validateText value label MAX_REFERENCE_BYTES
  let parsed ← Host.urlsplit selected
  if "://".toList <:+: selected.toList ∧ (parsed.scheme ≠ "https" ∨
      Screening.netloc selected = "" ∨ parsed.username.isSome ∨ parsed.password.isSome ∨
      parsed.query ≠ "" ∨ parsed.fragment ≠ "") then
    .error (valueError s!"{label} URL is unsafe")
  else return selected

/-- The reference, if there is one. -/
def validateOptional : Option String → Except Exn (Option String)
  | none => .ok none
  | some reference => (validateReference reference "reference").map some

/-- `[A-Za-z0-9]` -/
def isAlphanumeric (c : Char) : Bool := c.isAlpha || c.isDigit

/-- `_WORK_ID_PATTERN.fullmatch(value) is not None` -/
def matchesWorkId : List Char → Bool
  | [] => false
  | c :: cs => isAlphanumeric c && cs.all fun d =>
      isAlphanumeric d || ['.', '_', ':', '/', '#', '-'].contains d

omit [Host] in
/-- `_validate_work_id` -/
def validateWorkId (value : String) : Except Exn String :=
  if value = "" ∨ value ≠ strip value ∨ MAX_WORK_ID_BYTES < value.utf8ByteSize ∨
      ¬matchesWorkId value.toList ∨ Screening.sensitive value then
    .error (valueError "work ID is invalid")
  else .ok value

/-- `_is_chain_hash` -/
def isChainHash (value : String) (allowGenesis : Bool) : Bool :=
  allowGenesis && value == GENESIS_HASH || isSha256 value

/-! ## Hashes -/

/-- What the hash of an event is taken of, as a document. -/
def EventBody.document (b : EventBody) : Json := .mkObj [
  ("schema", .str "master-agent/work-memory-event@1"),
  ("sequence", .int b.sequence),
  ("event_id", .str b.eventId.str),
  ("timestamp", .str b.timestamp.isoformat),
  ("work_id", .str b.workId),
  ("kind", .str b.kind.str),
  ("stage", .str b.stage.str),
  ("summary", .str b.summary),
  ("reference", optStr b.reference),
  ("previous_hash", .str b.previousHash)]

/-- The text that is hashed. -/
def material (b : EventBody) : String := String.ofList (Json.render Json.compactAscii 0 b.document)

omit [Screening] in
/-- `_event_hash` -/
def eventHash (b : EventBody) : String := Host.sha256 (material b)

/-! ## Replay -/

/-- The texts of a row. -/
structure RowTexts where
  eventId : String
  timestamp : String
  workId : String
  kind : String
  stage : String
  summary : String
  reference : Option String

/-- The columns that must be texts, the reference or nothing. -/
def EventRow.texts (row : EventRow) : Option RowTexts :=
  match row.eventId, row.timestamp, row.workId, row.kind, row.stage, row.summary with
  | .text eventId, .text timestamp, .text workId, .text kind, .text stage, .text summary =>
      match row.reference with
      | .null => some ⟨eventId, timestamp, workId, kind, stage, summary, none⟩
      | .text reference => some ⟨eventId, timestamp, workId, kind, stage, summary, some reference⟩
      | _ => none
  | _, _, _, _, _, _ => none

/-- `datetime.fromisoformat(text)`, of a time in UTC in its canonical form. -/
def decodeTimestamp (text : String) : Except Exn Datetime :=
  match Datetime.fromIsoformat text with
  | none => .error (valueError s!"Invalid isoformat string: {text}")
  | some timestamp =>
      if timestamp.offset ≠ some 0 ∨ timestamp.isoformat ≠ text then .error (valueError "")
      else .ok timestamp

/-- The texts of a row as an event without its hashes. -/
def decodeTexts (sequence : Int) (x : RowTexts) (previousHash : String) : Except Exn EventBody := do
  let eventId ← parseUuid x.eventId
  if eventId.str ≠ x.eventId then .error (valueError "")
  else
    let timestamp ← decodeTimestamp x.timestamp
    let kind ← WorkEventKind.parse x.kind
    let stage ← WorkStage.parse x.stage
    let workId ← validateWorkId x.workId
    let summary ← validateSummary x.summary
    let reference ← validateOptional x.reference
    return { sequence, eventId, timestamp, workId, kind, stage, summary, reference, previousHash }

omit [Host] [Screening] in
/-- `except (TypeError, ValueError)` around the decoding of a row. -/
def orMalformed {R : Type} (sequence : Int) : Except Exn R → Except Exn R
  | .ok value => .ok value
  | .error e =>
      if e.kind.isTypeError || e.kind.isValueError then
        .error (workMemoryError s!"malformed event row at sequence {sequence}")
      else .error e

/-- `_decode_event` -/
def decodeEvent (row : EventRow) (expected : Int) : Except Exn WorkEvent :=
  if row.sequence ≠ expected then
    .error (workMemoryError s!"event sequence gap at sequence {expected}")
  else match row.texts with
    | none => .error (workMemoryError s!"malformed event row at sequence {expected}")
    | some texts => do
        let body ← orMalformed expected (decodeTexts row.sequence texts "")
        match row.previousHash, row.eventHash with
        | .text previousHash, .text eventHash =>
            if isChainHash previousHash true ∧ isChainHash eventHash false then
              return { body with previousHash, eventHash }
            else .error (workMemoryError s!"malformed event hash at sequence {expected}")
        | _, _ => .error (workMemoryError s!"malformed event hash at sequence {expected}")

omit [Host] [Screening] in
/-- `_validate_lifecycle_event` -/
def validateLifecycleEvent (event : WorkEvent) (existing : List WorkEvent) : Except Exn Unit :=
  match existing.getLast? with
  | none =>
      if event.kind ≠ .started ∨ event.stage ≠ .issue ∨ event.reference = none then
        .error (workMemoryError
          s!"work record does not start correctly at sequence {event.sequence}")
      else .ok ()
  | some previous =>
      if event.kind = .started then
        .error (workMemoryError s!"duplicate work start at sequence {event.sequence}")
      else if event.kind = .reference ∧ event.reference = none then
        .error (workMemoryError s!"reference is missing at sequence {event.sequence}")
      else if previous.stage = .merged then
        .error (workMemoryError s!"event follows merge at sequence {event.sequence}")
      else if event.stage.order < previous.stage.order then
        .error (workMemoryError s!"stage regresses at sequence {event.sequence}")
      else if previous.stage.order + 1 < event.stage.order then
        .error (workMemoryError s!"stage skips at sequence {event.sequence}")
      else .ok ()

/-- `_Replay` -/
structure Replay where
  events : List WorkEvent
  byWork : List (String × List WorkEvent)
  headHash : String
deriving DecidableEq

omit [Host] [Screening] in
/-- The event at the end of its work item. -/
def addToWork (event : WorkEvent) : List (String × List WorkEvent) → List (String × List WorkEvent)
  | [] => [(event.workId, [event])]
  | (workId, events) :: rest =>
      if workId = event.workId then (workId, events ++ [event]) :: rest
      else (workId, events) :: addToWork event rest

namespace Replay

omit [Host] [Screening] in
/-- `by_work.get(work_id)`, an absent item having no events. -/
def history (r : Replay) (workId : String) : List WorkEvent := (r.byWork.lookup workId).getD []

omit [Host] [Screening] in
/-- The replay with one more event. -/
def add (r : Replay) (event : WorkEvent) : Replay :=
  ⟨r.events ++ [event], addToWork event r.byWork, event.eventHash⟩

end Replay

/-- One turn of the loop of `_replay`. -/
def replayRow (r : Replay) (row : EventRow) : Except Exn Replay := do
  let expected : Int := r.events.length + 1
  let event ← decodeEvent row expected
  if event.eventId ∈ r.events.map (·.eventId) then
    .error (workMemoryError s!"duplicate event ID at sequence {expected}")
  else if event.previousHash ≠ r.headHash then
    .error (workMemoryError s!"broken previous-hash link at sequence {expected}")
  else if eventHash event.toEventBody ≠ event.eventHash then
    .error (workMemoryError s!"event hash mismatch at sequence {expected}")
  else do
    validateLifecycleEvent event (r.history event.workId)
    return r.add event

def emptyReplay : Replay := ⟨[], [], GENESIS_HASH⟩

/-- `_replay` -/
def replay (db : Database) (allowEmpty : Bool) : Except Exn Replay :=
  let rows := db.workEvents.rows.take (MAX_EVENTS + 1)
  let malformed := workMemoryError "work-memory checkpoint is malformed"
  if MAX_EVENTS < rows.length then .error (workMemoryError "work-memory event limit was exceeded")
  else match db.workMemoryState with
    | [state] =>
        if state.id ≠ 1 then .error malformed
        else match state.eventCount, state.headHash with
          | .int count, .text hash =>
              if count < 0 then .error malformed
              else if rows = [] ∧ ¬allowEmpty then
                .error (workMemoryError "work-memory journal contains no events")
              else do
                let r ← rows.foldlM replayRow emptyReplay
                if count ≠ r.events.length then
                  .error (workMemoryError
                    "work-memory checkpoint count does not match history")
                else if hash ≠ r.headHash then
                  .error (workMemoryError
                    "work-memory checkpoint head does not match history")
                else return r
          | _, _ => .error malformed
    | _ => .error malformed

structure WorkSnapshot where
  workId : String
  issueReference : String
  initialSummary : String
  stage : WorkStage
  events : List WorkEvent
  journalEventCount : Nat
  journalHeadHash : String
deriving DecidableEq

omit [Host] [Screening] in
/-- `_snapshot` -/
def snapshot (r : Replay) (workId : String) : Except Exn WorkSnapshot :=
  match r.byWork.lookup workId with
  | none => .error (workMemoryError "work record does not exist")
  | some events =>
      match events.head?, events.getLast? with
      | some first, some last =>
          match first.reference with
          | none => .error (workMemoryError "work record issue reference is missing")
          | some issue => .ok {
              workId := workId
              issueReference := issue
              initialSummary := first.summary
              stage := last.stage
              events := events
              journalEventCount := r.events.length
              journalHeadHash := r.headHash }
      | _, _ => .error ⟨.other, "IndexError", "tuple index out of range"⟩

/-! ## Appending -/

omit [Host] [Screening] in
/-- `INSERT INTO work_events` -/
def insertRow (row : EventRow) : List EventRow → Except Exn (List EventRow)
  | [] => .ok [row]
  | first :: rest =>
      if first.sequence < row.sequence then (insertRow row rest).map (first :: ·)
      else if first.sequence = row.sequence then
        .error ⟨.sqlite, "IntegrityError", "UNIQUE constraint failed: work_events.sequence"⟩
      else .ok (row :: first :: rest)

omit [Host] [Screening] in
theorem insertRow_above {row : EventRow} {rows inserted : List EventRow} {n : Int}
    (h : insertRow row rows = .ok inserted) (above : ∀ r ∈ rows, n < r.sequence)
    (here : n < row.sequence) : ∀ r ∈ inserted, n < r.sequence := by
  induction rows generalizing inserted with
  | nil =>
      cases h
      simpa using here
  | cons first rest ih =>
      unfold insertRow at h
      split at h
      · cases later : insertRow row rest with
        | error e => rw [later] at h; cases h
        | ok tail =>
            rw [later] at h
            cases h
            intro r member
            rcases List.mem_cons.mp member with rfl | member
            · exact above _ List.mem_cons_self
            · exact ih later (fun r member => above r (List.mem_cons_of_mem _ member)) r member
      · split at h
        · cases h
        · cases h
          intro r member
          rcases List.mem_cons.mp member with rfl | member
          · exact here
          · exact above r member

omit [Host] [Screening] in
theorem insertRow_ordered {row : EventRow} {rows inserted : List EventRow}
    (h : insertRow row rows = .ok inserted) (ordered : rows.Pairwise (·.sequence < ·.sequence)) :
    inserted.Pairwise (·.sequence < ·.sequence) := by
  induction rows generalizing inserted with
  | nil =>
      cases h
      exact List.pairwise_singleton _ _
  | cons first rest ih =>
      have ⟨above, below⟩ := List.pairwise_cons.mp ordered
      unfold insertRow at h
      split at h
      · next before =>
          cases later : insertRow row rest with
          | error e => rw [later] at h; cases h
          | ok tail =>
              rw [later] at h
              cases h
              exact List.pairwise_cons.mpr ⟨insertRow_above later above before, ih later below⟩
      · split at h
        · cases h
        · cases h
          refine List.pairwise_cons.mpr ⟨fun r member => ?_, ordered⟩
          rcases List.mem_cons.mp member with rfl | member
          · omega
          · have := above r member
            omega

omit [Host] [Screening] in
def WorkEvents.insert (table : WorkEvents) (row : EventRow) : Except Exn WorkEvents :=
  match h : insertRow row table.rows with
  | .ok rows => .ok ⟨rows, insertRow_ordered h table.ordered⟩
  | .error e => .error e

/-- What `uuid4()` and `datetime.now(UTC)` give a call. -/
structure Draw where
  eventId : Uuid
  now : Datetime
  utc : now.offset = some 0

/-- What a call appends. -/
structure Draft where
  workId : String
  kind : WorkEventKind
  stage : WorkStage
  summary : String
  reference : Option String
deriving DecidableEq

omit [Screening] in
/-- The event of a draft at the end of a journal. -/
def newEvent (r : Replay) (x : Draft) (draw : Draw) : WorkEvent :=
  let body : EventBody := {
    sequence := r.events.length + 1
    eventId := draw.eventId
    timestamp := draw.now
    workId := x.workId
    kind := x.kind
    stage := x.stage
    summary := x.summary
    reference := x.reference
    previousHash := r.headHash }
  { body with eventHash := eventHash body }

omit [Host] [Screening] in
/-- `UPDATE work_memory_state … WHERE id = 1 AND event_count = ? AND head_hash = ?` -/
def StateRow.isAt (state : StateRow) (count : Int) (hash : String) : Bool :=
  state.id == 1 && state.eventCount == .int count && state.headHash == .text hash

omit [Screening] in
/-- `_append_event` -/
def appendEvent (db : Database) (r : Replay) (x : Draft) (draw : Draw) : Except Exn Database :=
  if MAX_EVENTS ≤ r.events.length then
    .error (workMemoryError "work-memory event limit is exhausted")
  else do
    let event := newEvent r x draw
    let workEvents ← db.workEvents.insert event.row
    let current (state : StateRow) := state.isAt r.events.length r.headHash
    if db.workMemoryState.countP current ≠ 1 then
      .error (workMemoryError "work-memory checkpoint changed concurrently")
    else return {
      workEvents := workEvents
      workMemoryState := db.workMemoryState.map fun state =>
        if current state then { state with
          eventCount := .int event.sequence
          headHash := .text event.eventHash }
        else state }

/-- The end of both methods: append, verify, and show the result to the validator. -/
def appendVerified (db : Database) (r : Replay) (x : Draft) (draw : Draw)
    (snapshotValidator : WorkSnapshot → Except Exn Unit) : Except Exn (WorkSnapshot × Database) := do
  let db' ← appendEvent db r x draw
  let updated ← replay db' false
  let result ← snapshot updated x.workId
  snapshotValidator result
  return (result, db')

/-- `WorkMemory.start` -/
def start (workId issue summary : String) (draw : Draw)
    (snapshotValidator : WorkSnapshot → Except Exn Unit) : Transaction Database Exn WorkSnapshot :=
  fun db => do
    let selectedId ← validateWorkId workId
    let selectedIssue ← validateReference issue "issue reference"
    let selectedSummary ← validateSummary summary
    let r ← replay db true
    if (r.byWork.lookup selectedId).isSome then
      .error (workMemoryError "work record already exists")
    else
      appendVerified db r ⟨selectedId, .started, .issue, selectedSummary, some selectedIssue⟩ draw
        snapshotValidator

/-- The checks of `record` on its arguments. -/
def selectFields (workId : String) (kind : WorkEventKind) (summary : String)
    (reference : Option String) : Except Exn (String × String × Option String) := do
  let selectedId ← validateWorkId workId
  if kind = .started then .error (valueError "started events must use work-memory start")
  else
    let selectedSummary ← validateSummary summary
    let selectedReference ← validateOptional reference
    if kind = .reference ∧ selectedReference = none then
      .error (valueError "reference events require --reference")
    else return (selectedId, selectedSummary, selectedReference)

omit [Host] [Screening] in
/-- The stage of a record's event, given those of its work item. -/
def selectStage (events : List WorkEvent) (stage : Option WorkStage) : Except Exn WorkStage :=
  match events.getLast? with
  | none => .error (workMemoryError "work record does not exist")
  | some last =>
      let selected := stage.getD last.stage
      if last.stage = .merged then .error (workMemoryError "merged work records are terminal")
      else if selected.order < last.stage.order then
        .error (workMemoryError "work stage cannot regress")
      else if last.stage.order + 1 < selected.order then
        .error (workMemoryError "work stage cannot skip lifecycle stages")
      else .ok selected

/-- `WorkMemory.record` -/
def record (workId : String) (kind : WorkEventKind) (summary : String) (stage : Option WorkStage)
    (reference : Option String) (draw : Draw) (snapshotValidator : WorkSnapshot → Except Exn Unit) :
    Transaction Database Exn WorkSnapshot :=
  fun db => do
    let (selectedId, selectedSummary, selectedReference) ← selectFields workId kind summary reference
    let r ← replay db false
    let selectedStage ← selectStage (r.history selectedId) stage
    appendVerified db r ⟨selectedId, kind, selectedStage, selectedSummary, selectedReference⟩ draw
      snapshotValidator

end

end MasterAgent.WorkMemory
