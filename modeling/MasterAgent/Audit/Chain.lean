import MasterAgent.Base.HashChain
import MasterAgent.Errors
import MasterAgent.Host

/-!
# The audit event chain

`AuditLog.record` appends an event whose hash covers the previous event's hash and six text
columns joined with a vertical bar; `AuditLog._verify_connection` recomputes the chain and
compares its length and last hash with the `audit_state` row.

Results:

1. `recordAll_chain`: what any sequence of `record` calls leaves in the database;
2. `verify_valid`: the rows a valid verdict is about are the chain of their own columns;
3. `tamper_evident_iff`: for which logs a valid verdict determines every hashed column.
-/

namespace MasterAgent
open Base

section
variable [Host]

/-- The hashed columns of an `audit_events` row. -/
structure AuditColumns where
  timestamp : String
  runId : String
  planId : String
  actionId : Option String
  eventType : String
  payloadJson : String
deriving DecidableEq

/-- A row of `audit_events`. The rows of a log are listed in the order of their `id`. -/
structure AuditEvent extends AuditColumns where
  previousHash : String
  eventHash : String
deriving DecidableEq

/-- The row of `audit_state`. -/
structure AuditState where
  eventCount : Nat
  headHash : String
deriving DecidableEq

structure AuditDb where
  events : List AuditEvent
  state : Option AuditState

/-- The database `AuditLog._initialize` creates. -/
def AuditDb.fresh : AuditDb := ⟨[], some ⟨0, "GENESIS"⟩⟩

/-- `str(action_id or "")`: a missing action and an empty one read the same. -/
def actionText (actionId : Option String) : String := actionId.getD ""

/-- The text an event's hash is taken of. -/
def material (previous : String) (c : AuditColumns) : String :=
  join '|' [previous, c.timestamp, c.runId, c.planId, actionText c.actionId, c.eventType,
    c.payloadJson]

/-- The arguments of one `AuditLog.record` call and the clock reading it makes. -/
structure RecordCall where
  now : Datetime
  runId : Uuid
  planId : Uuid
  actionId : Option Uuid
  eventType : String
  payload : Json

def RecordCall.columns (c : RecordCall) : AuditColumns :=
  ⟨c.now.isoformat, c.runId.str, c.planId.str, c.actionId.map Uuid.str, c.eventType,
    c.payload.dumps⟩

/-- `AuditLog.record`. -/
def record (c : RecordCall) (db : AuditDb) : Except Exn AuditDb :=
  match db.state with
  | none => .error (runtimeError "audit checkpoint state is missing")
  | some state =>
      let latestHash := match db.events.getLast? with
        | some row => row.eventHash
        | none => "GENESIS"
      if latestHash ≠ state.headHash then
        .error (runtimeError "audit checkpoint does not match the event chain")
      else
        let eventHash := Host.sha256 (material state.headHash c.columns)
        .ok ⟨db.events ++ [⟨c.columns, state.headHash, eventHash⟩],
          some ⟨state.eventCount + 1, eventHash⟩⟩

/-- A sequence of `record` calls. -/
def recordAll (calls : List RecordCall) (db : AuditDb) : Except Exn AuditDb :=
  calls.foldlM (fun db c => record c db) db

/-- The loop of `_verify_connection`: the last event's hash, or why the chain is broken at
event `index`. -/
def verifyRows : Nat → String → List AuditEvent → Except String String
  | _, expectedPrevious, [] => .ok expectedPrevious
  | index, expectedPrevious, row :: rows =>
      if row.previousHash ≠ expectedPrevious then
        .error s!"broken previous-hash link at event {index}"
      else if Host.sha256 (material row.previousHash row.toAuditColumns) ≠ row.eventHash then
        .error s!"event hash mismatch at event {index}"
      else verifyRows (index + 1) row.eventHash rows

/-- `AuditLog._verify_connection`. -/
def verifyConnection (db : AuditDb) : Bool × String :=
  if db.events = [] then (false, "audit database contains no events")
  else match db.state with
    | none => (false, "audit checkpoint state is missing")
    | some state =>
        match verifyRows 1 "GENESIS" db.events with
        | .error why => (false, why)
        | .ok last =>
            if state.eventCount ≠ db.events.length then
              (false, "audit checkpoint count does not match the event chain " ++
                s!"({state.eventCount} != {db.events.length})")
            else if state.headHash ≠ last then
              (false, "audit checkpoint head does not match the event chain")
            else (true, s!"verified {db.events.length} audit events")

/-! ## What is recorded -/

/-- The link of the event chain: the hash of a row after a previous hash. -/
def eventLink (previous : String) (c : AuditColumns) : String :=
  Host.sha256 (material previous c)

/-- The rows that chain given columns after a previous hash. -/
def chainRows : String → List AuditColumns → List AuditEvent
  | _, [] => []
  | previous, c :: cs =>
      ⟨c, previous, eventLink previous c⟩ :: chainRows (eventLink previous c) cs

/-- The database holding exactly the chain of the given columns. -/
def AuditDb.ofColumns (columns : List AuditColumns) : AuditDb :=
  ⟨chainRows "GENESIS" columns,
    some ⟨columns.length, HashChain.head eventLink "GENESIS" columns⟩⟩

namespace ChainLemmas

theorem chainRows_length {previous : String} {columns : List AuditColumns} :
    (chainRows previous columns).length = columns.length := by
  induction columns generalizing previous with
  | nil => rfl
  | cons c cs ih => simp [chainRows, ih]

theorem chainRows_columns {previous : String} {columns : List AuditColumns} :
    (chainRows previous columns).map AuditEvent.toAuditColumns = columns := by
  induction columns generalizing previous with
  | nil => rfl
  | cons c cs ih => simp [chainRows, ih]

theorem chainRows_concat {previous : String} {columns : List AuditColumns} {c : AuditColumns} :
    chainRows previous (columns ++ [c]) = chainRows previous columns ++
      [⟨c, HashChain.head eventLink previous columns,
        eventLink (HashChain.head eventLink previous columns) c⟩] := by
  induction columns generalizing previous with
  | nil => rfl
  | cons d ds ih =>
      simp only [List.cons_append, chainRows, ih]
      rfl

/-- The last row of a chain carries the head. -/
theorem chainRows_last {previous : String} {columns : List AuditColumns} :
    (match (chainRows previous columns).getLast? with
      | some row => row.eventHash
      | none => previous) = HashChain.head eventLink previous columns := by
  rcases List.eq_nil_or_concat' columns with rfl | ⟨columns, c, rfl⟩
  · rfl
  · rw [chainRows_concat, List.getLast?_concat, HashChain.head_concat]

/-- One `record` call extends the chain by its columns. -/
theorem record_ofColumns (c : RecordCall) (columns : List AuditColumns) :
    record c (.ofColumns columns) = .ok (.ofColumns (columns ++ [c.columns])) := by
  have last := @chainRows_last _ "GENESIS" columns
  simp only [record, AuditDb.ofColumns, last, ne_eq, not_true_eq_false, if_false,
    chainRows_concat, HashChain.head_concat, List.length_append, List.length_cons,
    List.length_nil, eventLink]

theorem recordAll_ofColumns (calls : List RecordCall) (columns : List AuditColumns) :
    recordAll calls (.ofColumns columns) =
      .ok (.ofColumns (columns ++ calls.map RecordCall.columns)) := by
  induction calls generalizing columns with
  | nil => simp [recordAll, pure, Except.pure]
  | cons c calls ih =>
      have split : columns ++ (c :: calls).map RecordCall.columns =
          columns ++ [c.columns] ++ calls.map RecordCall.columns := by simp
      rw [split, ← ih (columns ++ [c.columns])]
      simp only [recordAll, List.foldlM_cons, record_ofColumns]
      rfl

end ChainLemmas

open ChainLemmas

/-- Any sequence of `record` calls succeeds and leaves the chain of its columns. -/
theorem recordAll_chain (calls : List RecordCall) :
    recordAll calls .fresh = .ok (.ofColumns (calls.map RecordCall.columns)) :=
  recordAll_ofColumns calls []

/-! ## What is verified -/

namespace ChainLemmas

/-- The verification loop accepts exactly the chain of the rows' own columns. -/
theorem verifyRows_ok {rows : List AuditEvent} {index : Nat} {previous last : String} :
    verifyRows index previous rows = .ok last ↔
      rows = chainRows previous (rows.map AuditEvent.toAuditColumns) ∧
        last = HashChain.head eventLink previous (rows.map AuditEvent.toAuditColumns) := by
  induction rows generalizing index previous with
  | nil => simp [verifyRows, chainRows, HashChain.head, eq_comm]
  | cons row rows ih =>
      obtain ⟨c, previousHash, eventHash⟩ := row
      simp only [verifyRows, List.map_cons, chainRows]
      split
      · next broken =>
          simp only [reduceCtorEq, false_iff, not_and, List.cons.injEq, AuditEvent.mk.injEq]
          exact fun same => (broken same.1.2.1).elim
      · next linked =>
          have linked : previousHash = previous := not_not.mp linked
          subst linked
          split
          · next mismatch =>
              simp only [reduceCtorEq, false_iff, not_and, List.cons.injEq, AuditEvent.mk.injEq]
              exact fun same => (mismatch same.1.2.2.symm).elim
          · next hashed =>
              have hashed : eventLink previousHash c = eventHash := not_not.mp hashed
              subst hashed
              rw [ih]
              simp [HashChain.head]

end ChainLemmas

/-- A valid verdict: the rows are the chain of their own columns, and the checkpoint carries
their number and head. -/
theorem verify_valid {rows : List AuditEvent} {state : AuditState} :
    (verifyConnection ⟨rows, some state⟩).1 = true ↔
      rows ≠ [] ∧ rows = chainRows "GENESIS" (rows.map AuditEvent.toAuditColumns) ∧
        state.eventCount = rows.length ∧
        state.headHash = HashChain.head eventLink "GENESIS"
          (rows.map AuditEvent.toAuditColumns) := by
  unfold verifyConnection
  split
  · next empty =>
      have empty : rows = [] := empty
      simp [empty]
  · next nonempty =>
      simp only [ne_eq, nonempty, not_false_eq_true, true_and]
      cases loop : verifyRows 1 "GENESIS" rows with
      | error why =>
          simp only [Bool.false_eq_true, false_iff, not_and]
          intro chain
          rw [verifyRows_ok.mpr ⟨chain, rfl⟩] at loop
          cases loop
      | ok last =>
          obtain ⟨chain, rfl⟩ := verifyRows_ok.mp loop
          simp only [← chain, true_and]
          split
          · next count => simp [count]
          · next count =>
              split
              · next head => simp [head]
              · next head => simp [not_not.mp count, not_not.mp head]

/-! ## Tamper evidence -/

/-- Columns whose hash covers them unambiguously: the action is named and the two free-text
columns contain no separator. -/
def RecordCall.Unambiguous (c : RecordCall) : Prop :=
  c.actionId ≠ none ∧ Free '|' c.eventType ∧ Free '|' c.payload.dumps

instance (c : RecordCall) : Decidable c.Unambiguous := by
  unfold RecordCall.Unambiguous
  infer_instance

/-- The recorded log, kept with its checkpoint, can be replaced only by rows with the same
hashed columns. -/
def TamperEvident (db : AuditDb) : Prop :=
  ∀ rows, (verifyConnection { db with events := rows }).1 = true →
    rows.map AuditEvent.toAuditColumns = db.events.map AuditEvent.toAuditColumns

namespace ChainLemmas

/-- Columns as `record` writes them, unambiguous. -/
def Safe (c : AuditColumns) : Prop :=
  (∀ s ∈ [c.timestamp, c.runId, c.planId, actionText c.actionId, c.eventType, c.payloadJson],
    Free '|' s) ∧ ∃ a, c.actionId = some a ∧ a ≠ ""

omit [Host] in
theorem safe_columns {c : RecordCall} (hc : c.Unambiguous) : Safe c.columns := by
  obtain ⟨named, eventType, payload⟩ := hc
  obtain ⟨a, ha⟩ := Option.ne_none_iff_exists'.mp named
  refine ⟨?_, a.str, by simp [RecordCall.columns, ha], a.str_ne_empty⟩
  have stamp : Free '|' c.now.isoformat := c.now.isoformat_free (by decide)
  have uuid (u : Uuid) : Free '|' u.str := u.str_free (by decide)
  simpa [RecordCall.columns, actionText, ha, uuid, stamp] using ⟨eventType, payload⟩

omit [Host] in
theorem material_inj {d d' : String} {c c' : AuditColumns} (hd : Free '|' d) (hc : Safe c)
    (same : material d c = material d' c') : d = d' ∧ c = c' := by
  obtain ⟨free, a, ha, nonempty⟩ := hc
  have columns := join_eq_of_free (by rfl) (by simpa using ⟨hd, by simpa using free⟩) same
  simp only [List.cons.injEq, and_true] at columns
  obtain ⟨rfl, ht, hr, hp, act, he, hj⟩ := columns
  have action : c.actionId = c'.actionId := by
    simp only [actionText, ha, Option.getD_some] at act
    cases h' : c'.actionId with
    | none => exact absurd (by simpa [h'] using act) nonempty
    | some a' => rw [ha, act, h', Option.getD_some]
  refine ⟨rfl, ?_⟩
  cases c
  cases c'
  simp_all

theorem eventLink_inj (ideal : CollisionFree) {d d' : String} {c c' : AuditColumns}
    (hd : Free '|' d) (hc : Safe c) (same : eventLink d c = eventLink d' c') :
    d = d' ∧ c = c' :=
  material_inj hd hc (ideal.inj _ _ same)

/-- A log of unambiguous columns is the only one with its length and head. -/
theorem safe_tamperEvident (ideal : CollisionFree) {columns : List AuditColumns}
    (safe : ∀ c ∈ columns, Safe c) : TamperEvident (.ofColumns columns) := by
  intro rows valid
  obtain ⟨_, _, count, head⟩ := verify_valid.mp valid
  have recorded : columns = rows.map AuditEvent.toAuditColumns :=
    HashChain.head_commits (D := Free '|') (by decide) (fun _ _ _ _ => ideal.free _)
      (fun _ _ _ _ hd hc same => eventLink_inj ideal hd hc same) safe
      (by simpa using count) head
  rw [← recorded]
  exact chainRows_columns.symm

omit [Host] in
/-- Two neighbouring columns may be split at any separator the second of them contains. -/
theorem join_resplit {sep : Char} (before after : List String) {a x y : String} :
    join sep (before ++ (a ++ String.singleton sep ++ x) :: y :: after) =
      join sep (before ++ a :: (x ++ String.singleton sep ++ y) :: after) := by
  apply String.toList_injective
  simp only [toList_join, List.map_append, List.map_cons, String.toList_append,
    String.toList_singleton]
  generalize before.map String.toList = before
  generalize after.map String.toList = after
  induction before with
  | nil => cases after <;> simp
  | cons b before ih => cases before <;> simp_all

omit [Host] in
theorem split_at_separator {s : String} (h : ¬ Free '|' s) :
    ∃ x y, s = x ++ String.singleton '|' ++ y := by
  obtain ⟨x, y, hxy⟩ := List.append_of_mem (not_not.mp h)
  refine ⟨String.ofList x, String.ofList y, String.toList_injective ?_⟩
  simp [hxy]

omit [Host] in
theorem suffix_ne {x y : String} : y ≠ x ++ String.singleton '|' ++ y := by
  intro h
  have len := congrArg (fun s => s.toList.length) h
  simp only [String.toList_append, String.toList_singleton, List.length_append,
    List.length_singleton] at len
  omega

omit [Host] in
/-- Ambiguous columns share their hashed text with other columns. -/
theorem ambiguous_columns {c : RecordCall} (hc : ¬ c.Unambiguous) :
    ∃ c', c' ≠ c.columns ∧ ∀ previous, material previous c' = material previous c.columns := by
  by_cases named : c.actionId = none
  · refine ⟨{ c.columns with actionId := some "" }, ?_, fun previous => ?_⟩
    · intro same
      simpa [RecordCall.columns, named] using congrArg AuditColumns.actionId same
    · simp [material, RecordCall.columns, actionText, named]
  obtain ⟨a, ha⟩ := Option.ne_none_iff_exists'.mp named
  by_cases event : Free '|' c.eventType
  · have payload : ¬ Free '|' c.payload.dumps := fun free => hc ⟨named, event, free⟩
    obtain ⟨x, y, hxy⟩ := split_at_separator payload
    refine ⟨{ c.columns with
      eventType := c.eventType ++ String.singleton '|' ++ x, payloadJson := y }, ?_,
      fun previous => ?_⟩
    · intro same
      have payloads : y = c.payload.dumps := congrArg AuditColumns.payloadJson same
      exact suffix_ne (payloads.trans hxy)
    · simp only [material, RecordCall.columns, hxy]
      exact join_resplit [previous, _, _, _, _] []
  · obtain ⟨x, y, hxy⟩ := split_at_separator event
    refine ⟨{ c.columns with
      actionId := some (a.str ++ String.singleton '|' ++ x), eventType := y }, ?_,
      fun previous => ?_⟩
    · intro same
      have events : y = c.eventType := congrArg AuditColumns.eventType same
      exact suffix_ne (events.trans hxy)
    · simp only [material, RecordCall.columns, ha, Option.map_some, actionText,
        Option.getD_some, hxy]
      exact join_resplit [previous, _, _, _] [_]

/-- Columns with the same hashed text can stand in for each other anywhere in a log. -/
theorem head_replace {before after : List AuditColumns} {c c' : AuditColumns}
    (same : ∀ previous, material previous c' = material previous c) :
    HashChain.head eventLink "GENESIS" (before ++ c' :: after) =
      HashChain.head eventLink "GENESIS" (before ++ c :: after) := by
  simp only [HashChain.head, List.foldl_append, List.foldl_cons, eventLink, same]

/-- The forged log passes the verification of the recorded one. -/
theorem forged_valid (before after : List AuditColumns) {c c' : AuditColumns}
    (same : ∀ previous, material previous c' = material previous c) :
    (verifyConnection { (AuditDb.ofColumns (before ++ c :: after)) with
      events := chainRows "GENESIS" (before ++ c' :: after) }).1 = true := by
  refine verify_valid.mpr ⟨?_, ?_, ?_, ?_⟩
  · intro empty
    have len := congrArg List.length empty
    simp [chainRows_length] at len
  · rw [chainRows_columns]
  · simp [chainRows_length]
  · rw [chainRows_columns, head_replace same]

/-- One ambiguous event lets its row be exchanged unnoticed. -/
theorem ambiguous_not_tamperEvident {calls : List RecordCall} {c : RecordCall}
    (hm : c ∈ calls) (hc : ¬ c.Unambiguous) :
    ¬ TamperEvident (.ofColumns (calls.map RecordCall.columns)) := by
  intro evident
  obtain ⟨before, after, rfl⟩ := List.append_of_mem hm
  obtain ⟨c', differ, same⟩ := ambiguous_columns hc
  rw [List.map_append, List.map_cons] at evident
  have equal := evident _ (forged_valid _ _ same)
  simp only [AuditDb.ofColumns, chainRows_columns] at equal
  exact differ (List.cons.inj (List.append_cancel_left equal)).1

end ChainLemmas

open ChainLemmas in
/-- A recorded log is tamper evident exactly when every one of its events names its action and
has no separator in its two free-text columns. -/
theorem tamper_evident_iff (ideal : CollisionFree) (calls : List RecordCall)
    (db : AuditDb) (recorded : recordAll calls .fresh = .ok db) :
    TamperEvident db ↔ ∀ c ∈ calls, c.Unambiguous := by
  rw [recordAll_chain] at recorded
  cases recorded
  constructor
  · intro evident c hm
    by_contra hc
    exact ambiguous_not_tamperEvident hm hc evident
  · intro unambiguous
    refine safe_tamperEvident ideal fun columns hm => ?_
    obtain ⟨c, hc, rfl⟩ := List.mem_map.mp hm
    exact safe_columns (unambiguous c hc)

end

/-! ### A log with a separator in an error text -/

def sampleStamp : Datetime := ⟨2026, 1, 2, 3, 4, 6, 0, some 0, by decide⟩
def sampleUuid : Uuid := .repeated 0

def plainCall : RecordCall :=
  ⟨sampleStamp, sampleUuid, sampleUuid, some sampleUuid, "action_state",
    .mkObj [("message", .str "compensation failed: timeout")]⟩

def barCall : RecordCall :=
  { plainCall with payload := .mkObj [("message", .str "compensation failed: a|b")] }

theorem tamper_evident_plain : letI := spellingHost
    TamperEvident (.ofColumns [plainCall.columns]) :=
  let := spellingHost
  (tamper_evident_iff spellingHost_collisionFree [plainCall] _ (recordAll_chain _)).mpr (by decide)

/-- The error text up to the separator, as the payload renders it, and what follows it. -/
def barBefore : String := "\x7b\"message\":\"compensation failed: a"
def barAfter : String := "b\"\x7d"

/-- The row that claims another event type and payload for the same event. -/
def forgedColumns : AuditColumns :=
  { barCall.columns with
    eventType := barCall.eventType ++ String.singleton '|' ++ barBefore
    payloadJson := barAfter }

/-- The part of the error text before the separator moves into the event type. -/
theorem bar_log_not_tamper_evident : letI := spellingHost
    CollisionFree ∧ ∃ db rows, recordAll [barCall] .fresh = .ok db ∧
      (verifyConnection { db with events := rows }).1 = true ∧
      rows.map AuditEvent.toAuditColumns ≠ db.events.map AuditEvent.toAuditColumns := by
  let := spellingHost
  have text : barCall.payload.dumps = barBefore ++ String.singleton '|' ++ barAfter := by decide
  have same (previous : String) :
      material previous forgedColumns = material previous barCall.columns := by
    simp only [material, forgedColumns, RecordCall.columns, text]
    exact ChainLemmas.join_resplit [previous, _, _, _, _] []
  refine ⟨spellingHost_collisionFree, _, chainRows "GENESIS" [forgedColumns],
    recordAll_chain _, ChainLemmas.forged_valid [] [] same, ?_⟩
  have event : forgedColumns.eventType ≠ barCall.columns.eventType := by decide
  simp only [AuditDb.ofColumns, ChainLemmas.chainRows_columns, List.map_cons, List.map_nil]
  exact fun equal => event (congrArg AuditColumns.eventType (List.cons.inj equal).1)

end MasterAgent
