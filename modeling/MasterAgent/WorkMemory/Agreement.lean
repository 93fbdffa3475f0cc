import Mathlib.Data.List.Chain
import Mathlib.Data.List.Induction
import MasterAgent.WorkMemory.Journal

/-!
# What the journal's writer appends, its reader accepts

The rules of the journal are written twice, in the checks of `start` and `record` and in the replay.
A replay is sound when it was built event by event, each admitted by the one before; what `_replay`
accepts are exactly the tables of sound replays (`replay_ok`).

Results:

1. `decodeEvent_ok`: the rows that decode are those an event is inserted with;
2. `replay_ok`: which tables are accepted, and with which replay;
3. `admits_draft`: what passes the checks of a method is admitted;
4. `writer_reader_agree`: the journal stays accepted, with exactly the appended event more.
-/

namespace MasterAgent.WorkMemory
open Base

section
variable [Host] [Screening]

/-! ## Rows that decode -/

/-- The columns of an event are in their canonical form. -/
structure Valid (e : WorkEvent) : Prop where
  utc : e.timestamp.offset = some 0
  workId : validateWorkId e.workId = .ok e.workId
  summary : validateSummary e.summary = .ok e.summary
  reference : ∀ s, e.reference = some s → validateReference s "reference" = .ok s
  previousHash : isChainHash e.previousHash true = true
  eventHash : isChainHash e.eventHash false = true

variable {value label selected : String}

omit [Host] in
theorem validateText_ok {maxBytes : Nat} (h : validateText value label maxBytes = .ok selected) :
    selected = value := by
  unfold validateText at h
  split at h
  · cases h
  · exact (Except.ok.inj h).symm

omit [Host] in
theorem validateWorkId_ok (h : validateWorkId value = .ok selected) : selected = value := by
  unfold validateWorkId at h
  split at h
  · cases h
  · exact (Except.ok.inj h).symm

theorem validateReference_ok (h : validateReference value label = .ok selected) :
    selected = value := by
  unfold validateReference at h
  obtain ⟨text, checked, h⟩ := of_bind_ok h
  obtain ⟨parsed, -, h⟩ := of_bind_ok h
  split at h
  · cases h
  · rw [← validateText_ok checked]
    exact (Except.ok.inj h).symm

/-- A reference passes under every label or under none. -/
theorem validateReference_label (h : validateReference value label = .ok selected) (other : String) :
    validateReference value other = .ok selected := by
  unfold validateReference validateText at *
  split at h
  · cases h
  · next passes =>
      rw [if_neg passes]
      rw [ok_bind] at h ⊢
      cases parsed : Host.urlsplit value with
      | error e => rw [parsed] at h; cases h
      | ok url =>
          rw [parsed, ok_bind] at h
          rw [ok_bind]
          split at h
          · cases h
          · next safe => rw [if_neg safe]; exact h

omit [Host] [Screening] in
theorem parseEnum_ok {E : Type} {members : List E} {str : E → String} {name : String} {m : E}
    (h : parseEnum members str name value = .ok m) : str m = value := by
  unfold parseEnum at h
  split at h
  · next found =>
      cases h
      simpa using List.find?_some found
  · cases h

omit [Host] [Screening] in
theorem decodeTimestamp_ok {t : Datetime} :
    decodeTimestamp value = .ok t ↔ t.offset = some 0 ∧ t.isoformat = value := by
  unfold decodeTimestamp
  constructor
  · intro h
    split at h
    · cases h
    · next parsed =>
        split at h
        · cases h
        · next canonical =>
            cases h
            simpa only [not_or, ne_eq, not_not] using canonical
  · rintro ⟨utc, rfl⟩
    rw [Datetime.fromIsoformat_isoformat]
    simp [utc]

omit [Host] [Screening] in
theorem orMalformed_ok {R : Type} {n : Int} {r : Except Exn R} {v : R} :
    orMalformed n r = .ok v ↔ r = .ok v := by
  cases r with
  | ok _ => rfl
  | error e =>
      simp only [orMalformed]
      split <;> simp

omit [Host] [Screening] in
theorem texts_some {row : EventRow} {x : RowTexts} : row.texts = some x ↔
    row.eventId = .text x.eventId ∧ row.timestamp = .text x.timestamp ∧
      row.workId = .text x.workId ∧ row.kind = .text x.kind ∧ row.stage = .text x.stage ∧
      row.summary = .text x.summary ∧ row.reference = .ofText x.reference := by
  unfold EventRow.texts
  constructor
  · intro h
    split at h
    · next a b c d e f =>
        split at h
        · next g => cases h; exact ⟨a, b, c, d, e, f, g⟩
        · next g => cases h; exact ⟨a, b, c, d, e, f, g⟩
        · cases h
    · cases h
  · rintro ⟨a, b, c, d, e, f, g⟩
    obtain ⟨eventId, timestamp, workId, kind, stage, summary, reference⟩ := x
    simp only at a b c d e f g
    rw [a, b, c, d, e, f]
    cases reference with
    | none => simp only [g, Value.ofText]
    | some text => simp only [g, Value.ofText]

/-- An optional reference passes. -/
def ReferencePasses (reference : Option String) : Prop :=
  ∀ s, reference = some s → validateReference s "reference" = .ok s

theorem validateOptional_ok {reference checked : Option String} :
    validateOptional reference = .ok checked ↔ checked = reference ∧ ReferencePasses reference := by
  unfold ReferencePasses
  cases reference with
  | none => simp [validateOptional, eq_comm]
  | some text =>
      simp only [validateOptional, Option.some.injEq, forall_eq']
      constructor
      · intro h
        cases passed : validateReference text "reference" with
        | error e => rw [passed] at h; cases h
        | ok selected =>
            rw [passed] at h
            cases h
            rw [validateReference_ok passed]
            exact ⟨rfl, rfl⟩
      · rintro ⟨rfl, passed⟩
        rw [passed]
        rfl

/-- The texts of a row, read as the event that is written so. -/
structure Reads (x : RowTexts) (b : EventBody) : Prop where
  eventId : b.eventId.str = x.eventId
  utc : b.timestamp.offset = some 0
  timestamp : b.timestamp.isoformat = x.timestamp
  kind : b.kind.str = x.kind
  stage : b.stage.str = x.stage
  workId : b.workId = x.workId
  workIdPasses : validateWorkId x.workId = .ok x.workId
  summary : b.summary = x.summary
  summaryPasses : validateSummary x.summary = .ok x.summary
  reference : b.reference = x.reference
  referencePasses : ReferencePasses x.reference

theorem decodeTexts_ok {n : Int} {x : RowTexts} {previous : String} {b : EventBody} :
    decodeTexts n x previous = .ok b ↔
      Reads x b ∧ b.sequence = n ∧ b.previousHash = previous := by
  constructor
  · intro h
    unfold decodeTexts at h
    obtain ⟨eventId, -, h⟩ := of_bind_ok h
    split at h
    · cases h
    · next canonical =>
        obtain ⟨timestamp, time, h⟩ := of_bind_ok h
        obtain ⟨kind, kinds, h⟩ := of_bind_ok h
        obtain ⟨stage, stages, h⟩ := of_bind_ok h
        obtain ⟨workId, works, h⟩ := of_bind_ok h
        obtain ⟨summary, summaries, h⟩ := of_bind_ok h
        obtain ⟨reference, references, h⟩ := of_bind_ok h
        cases h
        obtain ⟨utc, iso⟩ := decodeTimestamp_ok.mp time
        obtain ⟨same, passes⟩ := validateOptional_ok.mp references
        subst same
        obtain rfl := validateWorkId_ok works
        obtain rfl := validateText_ok summaries
        exact ⟨⟨not_not.mp canonical, utc, iso, parseEnum_ok kinds, parseEnum_ok stages, rfl, works,
          rfl, summaries, rfl, passes⟩, rfl, rfl⟩
  · rintro ⟨reads, rfl, rfl⟩
    obtain ⟨eventId, timestamp, workId, kind, stage, summary, reference⟩ := x
    obtain ⟨sequence, id, time, work, k, st, sum, ref, prev⟩ := b
    obtain ⟨a, utc, iso, c, d, e, works, f, summaries, g, references⟩ := reads
    simp only at a utc iso c d e works f summaries g references
    subst a iso c d e f g
    unfold decodeTexts
    simp only [parseUuid_str, ok_bind, ne_eq, not_true, reduceIte,
      decodeTimestamp_ok.mpr ⟨utc, rfl⟩, WorkEventKind.parse_str, WorkStage.parse_str, works,
      summaries]
    rw [validateOptional_ok.mpr ⟨rfl, references⟩]
    rfl

/-- A row decodes at a place exactly when it is what a valid event of that place is inserted
with. -/
theorem decodeEvent_ok {row : EventRow} {n : Int} {e : WorkEvent} :
    decodeEvent row n = .ok e ↔ row = e.row ∧ e.sequence = n ∧ Valid e := by
  constructor
  · intro h
    unfold decodeEvent at h
    split at h
    · cases h
    · next here =>
        split at h
        · cases h
        · next texts written =>
            obtain ⟨body, decoded, h⟩ := of_bind_ok h
            obtain ⟨reads, place, -⟩ := decodeTexts_ok.mp (orMalformed_ok.mp decoded)
            split at h
            · next previous hash atPrevious atHash =>
                split at h
                · next chained =>
                    cases h
                    obtain ⟨a, b, c, d, e, f, g⟩ := texts_some.mp written
                    have here := not_not.mp here
                    refine ⟨?_, place.trans here, ?_⟩
                    · obtain ⟨sequence, r₁, r₂, r₃, r₄, r₅, r₆, r₇, r₈, r₉⟩ := row
                      simp only at a b c d e f g atPrevious atHash place
                      subst a b c d e f g atPrevious atHash
                      simp only [WorkEvent.row, place, reads.eventId, reads.timestamp, reads.kind,
                        reads.stage, reads.workId, reads.summary, reads.reference]
                    · refine ⟨reads.utc, ?_, ?_, ?_, chained.1, chained.2⟩
                      · exact reads.workId ▸ reads.workIdPasses
                      · exact reads.summary ▸ reads.summaryPasses
                      · exact reads.reference ▸ reads.referencePasses
                · cases h
            · cases h
  · rintro ⟨rfl, rfl, valid⟩
    let texts : RowTexts := ⟨e.eventId.str, e.timestamp.isoformat, e.workId, e.kind.str,
      e.stage.str, e.summary, e.reference⟩
    have written : e.row.texts = some texts :=
      texts_some.mpr ⟨rfl, rfl, rfl, rfl, rfl, rfl, rfl⟩
    have decoded : decodeTexts e.sequence texts "" =
        .ok { e.toEventBody with previousHash := "" } :=
      decodeTexts_ok.mpr ⟨⟨rfl, valid.utc, rfl, rfl, rfl, rfl, valid.workId, rfl, valid.summary, rfl,
        valid.reference⟩, rfl, rfl⟩
    have place : e.row.sequence = e.sequence := rfl
    unfold decodeEvent
    rw [if_neg (not_not_intro place), written, place]
    simp only [decoded, orMalformed, ok_bind]
    have chained : isChainHash e.previousHash true = true ∧ isChainHash e.eventHash false = true :=
      ⟨valid.previousHash, valid.eventHash⟩
    simp only [WorkEvent.row, chained, and_self, reduceIte, pure_ok]

/-! ## Replays that are accepted -/

/-- An event may stand at the end of a journal. -/
structure Admits (r : Replay) (e : WorkEvent) : Prop where
  place : e.sequence = r.events.length + 1
  valid : Valid e
  fresh : e.eventId ∉ r.events.map (·.eventId)
  linked : e.previousHash = r.headHash
  hashed : e.eventHash = eventHash e.toEventBody
  lifecycle : validateLifecycleEvent e (r.history e.workId) = .ok ()

/-- A replay, built event by event. -/
inductive Sound : Replay → Prop
  | empty : Sound emptyReplay
  | add {r : Replay} {e : WorkEvent} : Sound r → Admits r e → Sound (r.add e)

theorem replayRow_ok {r r' : Replay} {row : EventRow} :
    replayRow r row = .ok r' ↔ ∃ e, row = e.row ∧ Admits r e ∧ r' = r.add e := by
  unfold replayRow
  constructor
  · intro h
    obtain ⟨e, decoded, checked⟩ := of_bind_ok h
    obtain ⟨rfl, place, valid⟩ := decodeEvent_ok.mp decoded
    split at checked
    · cases checked
    · next fresh =>
        split at checked
        · cases checked
        · next linked =>
            split at checked
            · cases checked
            · next hashed =>
                obtain ⟨_, lifecycle, added⟩ := of_bind_ok checked
                cases added
                exact ⟨e, rfl, ⟨place, valid, fresh, not_not.mp linked, (not_not.mp hashed).symm,
                  lifecycle⟩, rfl⟩
  · rintro ⟨e, rfl, admits, rfl⟩
    simp only [decodeEvent_ok.mpr ⟨rfl, admits.place, admits.valid⟩, ok_bind, if_neg admits.fresh,
      admits.linked, ← admits.hashed, ne_eq, not_true, reduceIte, admits.lifecycle, pure_ok]

/-- The loop gives the sound replay of the rows its events are inserted with. -/
theorem replayRows_ok {rows : List EventRow} {r : Replay} :
    rows.foldlM replayRow emptyReplay = .ok r ↔ Sound r ∧ rows = r.events.map WorkEvent.row := by
  induction rows using List.reverseRecOn generalizing r with
  | nil =>
      constructor
      · intro h
        cases h
        exact ⟨.empty, rfl⟩
      · rintro ⟨sound, same⟩
        cases sound with
        | empty => rfl
        | add _ _ => simp [Replay.add] at same
  | append_singleton rows row ih =>
      rw [List.foldlM_append]
      constructor
      · intro h
        obtain ⟨before, ran, last⟩ := of_bind_ok h
        obtain ⟨after, step, done⟩ := of_bind_ok last
        cases done
        obtain ⟨sound, rfl⟩ := ih.mp ran
        obtain ⟨e, rfl, admits, rfl⟩ := replayRow_ok.mp step
        exact ⟨sound.add admits, by simp [Replay.add]⟩
      · rintro ⟨sound, same⟩
        cases sound with
        | empty => simp [emptyReplay] at same
        | @add before e sound admits =>
            have split : rows ++ [row] = before.events.map WorkEvent.row ++ [e.row] := by
              simpa [Replay.add] using same
            obtain ⟨rfl, last⟩ := List.append_inj' split rfl
            cases last
            rw [ih.mpr ⟨sound, rfl⟩, ok_bind, List.foldlM_cons,
              replayRow_ok.mpr ⟨e, rfl, admits, rfl⟩]
            rfl

/-- The tables that hold a replay. -/
structure Holds (db : Database) (r : Replay) : Prop where
  sound : Sound r
  rows : db.workEvents.rows = r.events.map WorkEvent.row
  bounded : r.events.length ≤ MAX_EVENTS
  state : db.workMemoryState = [⟨1, .int r.events.length, .text r.headHash⟩]

/-- The tables that are accepted are those that hold a replay, and they hold only that. -/
theorem replay_ok {db : Database} {allowEmpty : Bool} {r : Replay} :
    replay db allowEmpty = .ok r ↔ Holds db r ∧ (r.events = [] → allowEmpty = true) := by
  unfold replay
  constructor
  · intro h
    dsimp only at h
    split at h
    · cases h
    · next short =>
        rw [List.length_take] at short
        have bounded : db.workEvents.rows.length ≤ MAX_EVENTS := by omega
        rw [List.take_of_length_le (by omega)] at h
        split at h
        · next state only =>
            split at h
            · cases h
            · next first =>
                split at h
                · next count hash counted hashed =>
                    split at h
                    · cases h
                    · split at h
                      · cases h
                      · next some =>
                          obtain ⟨replayed, ran, h⟩ := of_bind_ok h
                          split at h
                          · cases h
                          · next counts =>
                              split at h
                              · cases h
                              · next heads =>
                                  cases h
                                  obtain ⟨sound, rows⟩ := replayRows_ok.mp ran
                                  obtain ⟨id, eventCount, headHash⟩ := state
                                  simp only [not_not, ne_eq] at first counted hashed counts heads
                                  subst first counted hashed counts heads
                                  refine ⟨⟨sound, rows, ?_, only⟩, fun empty => ?_⟩
                                  · simpa [rows] using bounded
                                  · by_contra closed
                                    exact some ⟨by rw [rows, empty]; rfl, closed⟩
                · cases h
        · cases h
  · rintro ⟨⟨sound, rows, bounded, state⟩, some⟩
    have ran := replayRows_ok.mpr ⟨sound, rows⟩
    have short : db.workEvents.rows.length ≤ MAX_EVENTS := by simpa [rows] using bounded
    have allowed : ¬(db.workEvents.rows = [] ∧ ¬allowEmpty = true) := by
      rintro ⟨empty, closed⟩
      rw [rows, List.map_eq_nil_iff] at empty
      exact closed (some empty)
    rw [List.take_of_length_le (by omega), state]
    have count : ¬((r.events.length : Int) < 0) := by omega
    simp only [Nat.not_lt.mpr short, reduceIte, ne_eq, not_true, count, allowed, ran, ok_bind,
      pure_ok]

/-! ## Histories of work items -/

omit [Host] [Screening] in
theorem lookup_addToWork {e : WorkEvent} {workId : String} (items : List (String × List WorkEvent)) :
    (addToWork e items).lookup workId =
      if workId = e.workId then some ((items.lookup e.workId).getD [] ++ [e])
      else items.lookup workId := by
  induction items with
  | nil =>
      by_cases same : workId = e.workId
      · simp [addToWork, same]
      · simp [addToWork, same, List.lookup_cons, beq_eq_false_iff_ne.mpr same]
  | cons item items ih =>
      obtain ⟨first, events⟩ := item
      unfold addToWork
      by_cases here : first = e.workId
      · subst here
        rw [if_pos rfl]
        by_cases same : workId = e.workId
        · simp [same]
        · simp [same, List.lookup_cons, beq_eq_false_iff_ne.mpr same]
      · rw [if_neg here]
        by_cases at_first : workId = first
        · simp [at_first, here]
        · simp [List.lookup_cons, beq_eq_false_iff_ne.mpr at_first, ih,
            beq_eq_false_iff_ne.mpr (Ne.symm here)]

omit [Host] [Screening] in
/-- Only the event's own work item changes. -/
theorem lookup_add {r : Replay} {e : WorkEvent} (workId : String) :
    (r.add e).byWork.lookup workId =
      if workId = e.workId then some (r.history e.workId ++ [e]) else r.byWork.lookup workId :=
  lookup_addToWork r.byWork

/-- The lifecycle of a work item: it starts once, at its issue and with a reference, no stage is
skipped or returned to, and nothing follows the merge. -/
structure Lifecycle (events : List WorkEvent) : Prop where
  starts : ∃ first rest, events = first :: rest ∧ first.kind = .started ∧ first.stage = .issue ∧
    first.reference ≠ none ∧ ∀ e ∈ rest, e.kind ≠ .started
  advances : events.IsChain fun a b => a.stage ≠ .merged ∧ a.stage.order ≤ b.stage.order ∧
    b.stage.order ≤ a.stage.order + 1

omit [Host] [Screening] in
/-- What the lifecycle rules ask of an event, given those of its work item. -/
theorem validateLifecycleEvent_ok {e : WorkEvent} {existing : List WorkEvent} :
    validateLifecycleEvent e existing = .ok () ↔
      match existing.getLast? with
      | none => e.kind = .started ∧ e.stage = .issue ∧ e.reference ≠ none
      | some previous => e.kind ≠ .started ∧ (e.kind = .reference → e.reference ≠ none) ∧
          previous.stage ≠ .merged ∧ previous.stage.order ≤ e.stage.order ∧
          e.stage.order ≤ previous.stage.order + 1 := by
  unfold validateLifecycleEvent
  cases existing.getLast? with
  | none => simp [not_or]
  | some previous =>
      simp only
      split
      · next started => simp [started]
      · next other =>
          split
          · next missing => simp [missing]
          · next given =>
              split
              · next merged => simp [merged]
              · next opened =>
                  split
                  · next back => simp [Nat.not_le.mpr back]
                  · next forward =>
                      split
                      · next skips => simp [Nat.not_le.mpr skips]
                      · next step =>
                          simp only [true_iff]
                          exact ⟨other, fun isReference absent => given ⟨isReference, absent⟩, opened,
                            Nat.not_lt.mp forward, Nat.not_lt.mp step⟩

omit [Host] [Screening] in
theorem lifecycle_concat {e : WorkEvent} {existing : List WorkEvent}
    (alive : existing ≠ [] → Lifecycle existing)
    (admitted : validateLifecycleEvent e existing = .ok ()) : Lifecycle (existing ++ [e]) := by
  have rules := validateLifecycleEvent_ok.mp admitted
  rcases List.eq_nil_or_concat' existing with rfl | ⟨before, previous, rfl⟩
  · obtain ⟨started, issue, given⟩ := rules
    exact ⟨⟨e, [], rfl, started, issue, given, fun _ none => absurd none List.not_mem_nil⟩,
      List.isChain_singleton e⟩
  · rw [List.getLast?_concat] at rules
    obtain ⟨other, -, opened, forward, step⟩ := rules
    have ⟨⟨first, rest, split, started, issue, given, once⟩, advances⟩ := alive (by simp)
    refine ⟨⟨first, rest ++ [e], by rw [split]; rfl, started, issue, given, ?_⟩, ?_⟩
    · intro x member
      rcases List.mem_append.mp member with old | new
      · exact once x old
      · exact List.mem_singleton.mp new ▸ other
    · refine List.isChain_append.mpr ⟨advances, List.isChain_singleton e, ?_⟩
      intro a last b first
      rw [List.getLast?_concat, Option.mem_some_iff] at last
      rw [List.head?_cons, Option.mem_some_iff] at first
      subst last first
      exact ⟨opened, forward, step⟩

/-- Every work item of a sound replay has a lifecycle, and its history is what the journal holds
of it. -/
theorem sound_history {r : Replay} (sound : Sound r) : ∀ workId,
    r.history workId = r.events.filter (·.workId = workId) ∧
      ∀ events, r.byWork.lookup workId = some events → Lifecycle events := by
  induction sound with
  | empty => exact fun workId => ⟨rfl, fun events none => by cases none⟩
  | @add r e sound admits ih =>
      intro workId
      obtain ⟨filtered, alive⟩ := ih workId
      unfold Replay.history
      rw [lookup_add]
      by_cases same : workId = e.workId
      · subst same
        rw [if_pos rfl]
        refine ⟨by simp [Replay.add, filtered], fun events found => ?_⟩
        cases found
        refine lifecycle_concat (fun some => ?_) admits.lifecycle
        unfold Replay.history at some ⊢
        cases found : r.byWork.lookup e.workId with
        | none => rw [found] at some; exact absurd rfl some
        | some events => exact alive events found
      · rw [if_neg same]
        refine ⟨?_, alive⟩
        show r.history workId = _
        simp [Replay.add, List.filter_append, Ne.symm same, filtered]

/-! ## Appending -/

omit [Host] [Screening] in
/-- A row with the greatest sequence is inserted at the end. -/
theorem insertRow_last {row : EventRow} {rows : List EventRow}
    (last : ∀ r ∈ rows, r.sequence < row.sequence) : insertRow row rows = .ok (rows ++ [row]) := by
  induction rows with
  | nil => rfl
  | cons first rest ih =>
      unfold insertRow
      rw [if_pos (last first List.mem_cons_self),
        ih fun r member => last r (List.mem_cons_of_mem _ member)]
      rfl

omit [Host] [Screening] in
theorem insert_ok {table : WorkEvents} {row : EventRow} {rows : List EventRow}
    (h : insertRow row table.rows = .ok rows) : ∃ table', table.insert row = .ok table' ∧
      table'.rows = rows := by
  unfold WorkEvents.insert
  split
  · next rows' inserted =>
      rw [inserted] at h
      cases h
      exact ⟨_, rfl, rfl⟩
  · next raised =>
      rw [raised] at h
      cases h

theorem sound_places {r : Replay} (sound : Sound r) :
    ∀ e ∈ r.events, e.sequence ≤ r.events.length := by
  induction sound with
  | empty => exact fun e none => absurd none List.not_mem_nil
  | @add r e sound admits ih =>
      intro x member
      have length : ((r.add e).events.length : Int) = r.events.length + 1 := by simp [Replay.add]
      rcases List.mem_append.mp member with old | new
      · have := ih x old
        omega
      · rw [List.mem_singleton.mp new, admits.place, length]

/-- A chain hash stands at the head of a sound replay. -/
theorem sound_head {r : Replay} (sound : Sound r) : isChainHash r.headHash true = true := by
  cases sound with
  | empty => rfl
  | @add r e sound admits =>
      show isChainHash e.eventHash true = true
      have hex := admits.valid.eventHash
      unfold isChainHash at *
      simpa using Or.inr hex

variable {db : Database} {r : Replay} {x : Draft} {draw : Draw}

/-- Appending to tables that hold a replay, while there is room. -/
theorem appendEvent_ok (holds : Holds db r) (room : r.events.length < MAX_EVENTS) :
    ∃ db', appendEvent db r x draw = .ok db' ∧
      (Admits r (newEvent r x draw) → Holds db' (r.add (newEvent r x draw))) := by
  have last : ∀ row ∈ db.workEvents.rows, row.sequence < (newEvent r x draw).row.sequence := by
    rw [holds.rows]
    intro row member
    obtain ⟨e, listed, rfl⟩ := List.mem_map.mp member
    have place : (newEvent r x draw).row.sequence = r.events.length + 1 := rfl
    have below : e.row.sequence ≤ r.events.length := sound_places holds.sound e listed
    omega
  obtain ⟨table, inserted, rows⟩ := insert_ok (insertRow_last last)
  have current : StateRow.isAt ⟨1, .int r.events.length, .text r.headHash⟩ r.events.length
      r.headHash = true := by simp [StateRow.isAt]
  refine ⟨⟨table, [⟨1, .int (newEvent r x draw).sequence, .text (newEvent r x draw).eventHash⟩]⟩, ?_,
    fun admits => ⟨holds.sound.add admits, ?_, ?_, ?_⟩⟩
  · unfold appendEvent
    rw [if_neg (Nat.not_le.mpr room), holds.state]
    simp only [inserted, ok_bind, List.countP_singleton, current, reduceIte, ne_eq, not_true,
      List.map_cons, List.map_nil, pure_ok]
  · rw [rows, holds.rows]
    simp [Replay.add]
  · simpa [Replay.add] using Nat.succ_le_of_lt room
  · simp [Replay.add, admits.place]

/-- The digests of the host are 64 hexadecimal digits. -/
def HexDigests : Prop := ∀ text : String, isSha256 (Host.sha256 text) = true

/-- The draft passes the checks of the texts and follows the history of its work item. -/
structure Drafted (r : Replay) (x : Draft) : Prop where
  workId : validateWorkId x.workId = .ok x.workId
  summary : validateSummary x.summary = .ok x.summary
  reference : ReferencePasses x.reference
  follows : match (r.history x.workId).getLast? with
    | none => x.kind = .started ∧ x.stage = .issue ∧ x.reference ≠ none
    | some previous => x.kind ≠ .started ∧ (x.kind = .reference → x.reference ≠ none) ∧
        previous.stage ≠ .merged ∧ previous.stage.order ≤ x.stage.order ∧
        x.stage.order ≤ previous.stage.order + 1

/-- A draft that passes is admitted, under a new identifier. -/
theorem admits_draft (hex : HexDigests) (sound : Sound r) (drafted : Drafted r x)
    (fresh : draw.eventId ∉ r.events.map (·.eventId)) : Admits r (newEvent r x draw) where
  place := rfl
  valid := {
    utc := draw.utc
    workId := drafted.workId
    summary := drafted.summary
    reference := drafted.reference
    previousHash := sound_head sound
    eventHash := hex _ }
  fresh := fresh
  linked := rfl
  hashed := rfl
  lifecycle := validateLifecycleEvent_ok.mpr drafted.follows

/-- A work item of a sound replay has a snapshot. -/
theorem snapshot_ok {workId : String} (sound : Sound r)
    (known : (r.byWork.lookup workId).isSome = true) : ∃ result, snapshot r workId = .ok result := by
  obtain ⟨events, found⟩ := Option.isSome_iff_exists.mp known
  have ⟨⟨first, rest, split, _, _, given, _⟩, _⟩ := (sound_history sound workId).2 events found
  obtain ⟨issue, reference⟩ := Option.ne_none_iff_exists'.mp given
  obtain ⟨last, ends⟩ : ∃ last, events.getLast? = some last := by
    rw [split, List.getLast?_cons]
    exact ⟨_, rfl⟩
  unfold snapshot
  rw [found]
  simp only [ends]
  rw [split]
  simp only [List.head?_cons, reference]
  exact ⟨_, rfl⟩

/-! ## Requests -/

/-- A call of `start` or of `record`. -/
inductive Request where
  | start (workId issue summary : String)
  | record (workId : String) (kind : WorkEventKind) (summary : String) (stage : Option WorkStage)
      (reference : Option String)

/-- A request, with what it draws and the caller's validator. -/
structure Call where
  request : Request
  draw : Draw
  snapshotValidator : WorkSnapshot → Except Exn Unit

/-- The transaction of a call. -/
def serve (call : Call) : Transaction Database Exn WorkSnapshot :=
  match call.request with
  | .start workId issue summary => start workId issue summary call.draw call.snapshotValidator
  | .record workId kind summary stage reference =>
      record workId kind summary stage reference call.draw call.snapshotValidator

/-- The request passes the method's own checks on the journal, and asks for the draft. -/
def Passes (r : Replay) (x : Draft) : Request → Prop
  | .start workId issue summary => ∃ selectedId selectedIssue selectedSummary,
      validateWorkId workId = .ok selectedId ∧
        validateReference issue "issue reference" = .ok selectedIssue ∧
        validateSummary summary = .ok selectedSummary ∧ r.byWork.lookup selectedId = none ∧
        x = ⟨selectedId, .started, .issue, selectedSummary, some selectedIssue⟩
  | .record workId kind summary stage reference =>
      ∃ selectedId selectedSummary selectedReference selectedStage,
        selectFields workId kind summary reference =
          .ok (selectedId, selectedSummary, selectedReference) ∧
        selectStage (r.history selectedId) stage = .ok selectedStage ∧
        x = ⟨selectedId, kind, selectedStage, selectedSummary, selectedReference⟩

theorem selectFields_ok {workId summary : String} {kind : WorkEventKind} {reference : Option String}
    {selected : String × String × Option String}
    (h : selectFields workId kind summary reference = .ok selected) :
    validateWorkId selected.1 = .ok selected.1 ∧ validateSummary selected.2.1 = .ok selected.2.1 ∧
      ReferencePasses selected.2.2 ∧ kind ≠ .started ∧
      (kind = .reference → selected.2.2 ≠ none) := by
  unfold selectFields at h
  obtain ⟨id, works, h⟩ := of_bind_ok h
  split at h
  · cases h
  · next other =>
      obtain ⟨text, summaries, h⟩ := of_bind_ok h
      obtain ⟨given, references, h⟩ := of_bind_ok h
      split at h
      · cases h
      · next present =>
          cases h
          obtain ⟨same, passes⟩ := validateOptional_ok.mp references
          subst same
          exact ⟨validateWorkId_ok works ▸ works, validateText_ok summaries ▸ summaries, passes,
            other, fun isReference absent => present ⟨isReference, absent⟩⟩

omit [Host] [Screening] in
theorem selectStage_ok {events : List WorkEvent} {stage : Option WorkStage} {selected : WorkStage}
    (h : selectStage events stage = .ok selected) : ∃ previous, events.getLast? = some previous ∧
      previous.stage ≠ .merged ∧ previous.stage.order ≤ selected.order ∧
      selected.order ≤ previous.stage.order + 1 := by
  unfold selectStage at h
  split at h
  · cases h
  · next previous ends =>
      dsimp only at h
      split at h
      · cases h
      · next opened =>
          split at h
          · cases h
          · next forward =>
              split at h
              · cases h
              · next step =>
                  cases h
                  exact ⟨previous, ends, opened, Nat.not_lt.mp forward, Nat.not_lt.mp step⟩

/-- The two statements of the rules agree: what a method lets through, a replay admits. -/
theorem drafted_of_passes {request : Request} (passes : Passes r x request) : Drafted r x := by
  cases request with
  | start workId issue summary =>
      obtain ⟨id, reference, text, works, references, summaries, unknown, rfl⟩ := passes
      have history : r.history id = [] := by
        unfold Replay.history
        rw [unknown]
        rfl
      refine ⟨validateWorkId_ok works ▸ works, validateText_ok summaries ▸ summaries, ?_, ?_⟩
      · intro s same
        cases same
        obtain rfl := validateReference_ok references
        exact validateReference_label references "reference"
      · rw [history]
        exact ⟨rfl, rfl, Option.some_ne_none _⟩
  | record workId kind summary stage reference =>
      obtain ⟨id, text, given, selected, fields, staged, rfl⟩ := passes
      obtain ⟨works, summaries, references, other, present⟩ := selectFields_ok fields
      obtain ⟨previous, ends, opened, forward, step⟩ := selectStage_ok staged
      refine ⟨works, summaries, references, ?_⟩
      rw [ends]
      exact ⟨other, present, opened, forward, step⟩

/-- The call of a request that passes comes to the common end of both methods. -/
theorem serve_passes {call : Call} (accepted : replay db true = .ok r)
    (passes : Passes r x call.request) :
    serve call db = appendVerified db r x call.draw call.snapshotValidator := by
  unfold serve
  cases asked : call.request with
  | start workId issue summary =>
      rw [asked] at passes
      obtain ⟨id, reference, text, works, references, summaries, unknown, rfl⟩ := passes
      simp only [start, works, references, summaries, accepted, ok_bind, unknown, Option.isSome_none,
        Bool.false_eq_true, reduceIte]
  | record workId kind summary stage reference =>
      rw [asked] at passes
      obtain ⟨id, text, given, selected, fields, staged, rfl⟩ := passes
      have ⟨previous, ends, _⟩ := selectStage_ok staged
      obtain ⟨holds, -⟩ := replay_ok.mp accepted
      have nonempty : r.events ≠ [] := by
        intro empty
        rw [(sound_history holds.sound id).1, empty] at ends
        cases ends
      have again : replay db false = .ok r :=
        replay_ok.mpr ⟨holds, fun empty => absurd empty nonempty⟩
      simp only [record, fields, again, ok_bind, staged]

/-- The journal that `_initialize` creates. -/
def initialized : Database := ⟨⟨[], .nil⟩, [⟨1, .int 0, .text GENESIS_HASH⟩]⟩

theorem initialized_accepted : replay initialized true = .ok emptyReplay :=
  replay_ok.mpr ⟨⟨.empty, rfl, Nat.zero_le _, rfl⟩, fun _ => rfl⟩

end

/-! ### A first event -/

namespace Samples

/-- Nothing in the texts below is sensitive, and none is a URL. -/
@[reducible]
def plainScreening : Screening := ⟨fun _ => false, fun _ => ""⟩

attribute [local instance] plainHost plainScreening

def opening : Call where
  request := .start "work-1" "ISSUE-1" "do it"
  draw := ⟨.repeated 1, ⟨2026, 1, 2, 3, 4, 9, 0, some 0, by decide⟩, rfl⟩
  snapshotValidator _ := .ok ()

def openingDraft : Draft := ⟨"work-1", .started, .issue, "do it", some "ISSUE-1"⟩

end Samples

end MasterAgent.WorkMemory
