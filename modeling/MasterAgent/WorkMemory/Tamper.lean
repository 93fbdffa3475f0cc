import MasterAgent.WorkMemory.Agreement

/-!
# Tamper evidence of the work journal

Every event's hash is taken of all its columns and of the hash before it, and the checkpoint keeps
the last one. Two sound replays of one length and one head are therefore the same, unless the digest
collides on what they hash.

Results:

1. `material_inj`: what is hashed determines the event;
2. `replays_agree`: the length and the head determine a sound replay's events;
3. `journal_tamper_evident`: no other rows are accepted beside the checkpoint of a reached journal.
-/

namespace MasterAgent.WorkMemory
open Base

/-- A place in a journal has few digits. -/
theorem place_short {n : Int} (least : 0 ≤ n) (most : n ≤ MAX_EVENTS) :
    (Json.intChars n).length ≤ 4300 := by
  have limit : MAX_EVENTS < 10 ^ 18 := by decide
  exact Json.intChars_short least (lt_of_le_of_lt most (by exact_mod_cast limit))

/-- The place of an event in a journal. -/
def Placed (b : EventBody) : Prop := 0 ≤ b.sequence ∧ b.sequence ≤ MAX_EVENTS

theorem document_canonical {b : EventBody} (placed : Placed b) : Json.Canonical b.document := by
  have reference : Json.Canonical (optStr b.reference) := by
    cases b.reference <;> exact trivial
  refine Json.canonical_mkObj ?_
  simp only [List.forall_mem_cons, List.not_mem_nil, false_implies, implies_true, and_true]
  exact ⟨trivial, place_short placed.1 placed.2, trivial, trivial, trivial, trivial, trivial, trivial,
    reference, trivial⟩

theorem document_inj {a b : EventBody} (same : a.document = b.document) : a = b := by
  have member (key : String) : a.document.get? key = b.document.get? key := by rw [same]
  have sequence := member "sequence"
  have eventId := member "event_id"
  have timestamp := member "timestamp"
  have workId := member "work_id"
  have kind := member "kind"
  have stage := member "stage"
  have summary := member "summary"
  have reference := member "reference"
  have previousHash := member "previous_hash"
  simp only [EventBody.document, Json.get?_mkObj, Json.lookup_cons, String.reduceEq, reduceIte,
    Option.some.injEq, Json.str.injEq, Json.int.injEq] at sequence eventId timestamp workId kind
  simp only [EventBody.document, Json.get?_mkObj, Json.lookup_cons, String.reduceEq, reduceIte,
    Option.some.injEq, Json.str.injEq] at stage summary reference previousHash
  have kinds : a.kind = b.kind := by
    have read := WorkEventKind.parse_str a.kind
    rw [kind, WorkEventKind.parse_str] at read
    exact (Except.ok.inj read).symm
  have stages : a.stage = b.stage := by
    have read := WorkStage.parse_str a.stage
    rw [stage, WorkStage.parse_str] at read
    exact (Except.ok.inj read).symm
  have references : a.reference = b.reference := by
    cases given : a.reference <;> cases given' : b.reference <;>
      simp_all [optStr]
  have eventIds := Uuid.str_inj eventId
  have timestamps := Datetime.isoformat_inj timestamp
  cases a
  cases b
  simp_all

theorem material_inj {a b : EventBody} (ha : Placed a) (hb : Placed b)
    (same : material a = material b) : a = b :=
  document_inj (Json.render_inj (document_canonical ha) (document_canonical hb)
    (String.ofList_injective same))

/-! ## Chains -/

section
variable [Host] [Screening]

/-- No two events of the replays are a collision of the digest. -/
def NoCollision (r r' : Replay) : Prop :=
  ∀ e ∈ r.events, ∀ e' ∈ r'.events, eventHash e.toEventBody = eventHash e'.toEventBody →
    material e.toEventBody = material e'.toEventBody

theorem sound_placed {r : Replay} (sound : Sound r) (bounded : r.events.length ≤ MAX_EVENTS) :
    ∀ e ∈ r.events, Placed e.toEventBody := by
  induction sound with
  | empty => exact fun e none => absurd none List.not_mem_nil
  | @add r e sound admits ih =>
      have length : (r.add e).events.length = r.events.length + 1 := by simp [Replay.add]
      intro x member
      rcases List.mem_append.mp member with old | new
      · exact ih (by omega) x old
      · have place := admits.place
        rw [List.mem_singleton.mp new]
        exact ⟨by omega, by omega⟩

/-- The length and the head of a sound replay determine its events: the hashes agree from the head
backwards, and each hash determines its event with the hash before. -/
theorem replays_agree {r r' : Replay} (sound : Sound r) (sound' : Sound r')
    (bounded : r.events.length ≤ MAX_EVENTS) (length : r.events.length = r'.events.length)
    (head : r.headHash = r'.headHash) (ideal : NoCollision r r') : r.events = r'.events := by
  induction sound generalizing r' with
  | empty =>
      cases sound' with
      | empty => rfl
      | add _ _ => simp [emptyReplay, Replay.add] at length
  | @add r e sound admits ih =>
      cases sound' with
      | empty => simp [emptyReplay, Replay.add] at length
      | @add r' e' sound' admits' =>
          have last : e ∈ (r.add e).events := by simp [Replay.add]
          have last' : e' ∈ (r'.add e').events := by simp [Replay.add]
          have hashes : e.eventHash = e'.eventHash := head
          have bounded' : (r'.add e').events.length ≤ MAX_EVENTS := length ▸ bounded
          have bodies : e.toEventBody = e'.toEventBody :=
            material_inj (sound_placed (sound.add admits) bounded e last)
              (sound_placed (sound'.add admits') bounded' e' last')
              (ideal e last e' last' (by rw [← admits.hashed, ← admits'.hashed, hashes]))
          have same : e = e' := by
            cases e
            cases e'
            simp_all
          subst same
          have before : r.events = r'.events := by
            refine ih sound' ?_ ?_ ?_ ?_
            · simp only [Replay.add, List.length_append, List.length_singleton] at bounded
              omega
            · simpa [Replay.add] using length
            · rw [← admits.linked, ← admits'.linked]
            · exact fun x member x' member' => ideal x (List.mem_append_left [e] member) x'
                (List.mem_append_left [e] member')
          simp only [Replay.add, before]

/-! ## Journals that are reached -/

/-- What a call commits has been verified. -/
theorem serve_verified {call : Call} {db db' : Database} {result : WorkSnapshot}
    (h : serve call db = .ok (result, db')) : ∃ r, replay db' false = .ok r := by
  obtain ⟨request, draw, snapshotValidator⟩ := call
  have verified {r : Replay} {x : Draft}
      (h : appendVerified db r x draw snapshotValidator = .ok (result, db')) :
      ∃ r, replay db' false = .ok r := by
    unfold appendVerified at h
    obtain ⟨appended, -, h⟩ := of_bind_ok h
    obtain ⟨updated, replayed, h⟩ := of_bind_ok h
    obtain ⟨shown, -, h⟩ := of_bind_ok h
    obtain ⟨_, -, h⟩ := of_bind_ok h
    cases h
    exact ⟨updated, replayed⟩
  cases request with
  | start workId issue summary =>
      have h : start workId issue summary draw snapshotValidator db = .ok (result, db') := h
      unfold start at h
      obtain ⟨_, -, h⟩ := of_bind_ok h
      obtain ⟨_, -, h⟩ := of_bind_ok h
      obtain ⟨_, -, h⟩ := of_bind_ok h
      obtain ⟨_, -, h⟩ := of_bind_ok h
      split at h
      · cases h
      · exact verified h
  | record workId kind summary stage reference =>
      have h : record workId kind summary stage reference draw snapshotValidator db =
          .ok (result, db') := h
      unfold record at h
      obtain ⟨_, -, h⟩ := of_bind_ok h
      obtain ⟨_, -, h⟩ := of_bind_ok h
      obtain ⟨_, -, h⟩ := of_bind_ok h
      exact verified h

/-- Every journal that calls lead to holds a replay. -/
theorem reached_holds {served : List (Served Call Exn WorkSnapshot)} {db : Database}
    (run : Run (Serves serve) initialized served db) : ∃ r, Holds db r := by
  refine run.invariant (I := fun db => ∃ r, Holds db r) ?_
    ⟨emptyReplay, (replay_ok.mp initialized_accepted).1⟩
  intro before event after held step
  rcases serves_cases step with ⟨answer, performed, -⟩ | ⟨-, rfl⟩
  · obtain ⟨r, replayed⟩ := serve_verified performed
    exact ⟨r, (replay_ok.mp replayed).1⟩
  · exact held

/-- Beside the checkpoint of a journal that calls led to, only the recorded rows are accepted, in
every column and in their order; and in every journal that is accepted, reached or not, each work
item's history is what the journal holds of it and has a lifecycle. -/
theorem journal_tamper_evident {served : List (Served Call Exn WorkSnapshot)} {db : Database}
    (run : Run (Serves serve) initialized served db) :
    (∃ r, replay db true = .ok r ∧ ∀ (alternative : WorkEvents) (allowEmpty : Bool) (r' : Replay),
      replay { db with workEvents := alternative } allowEmpty = .ok r' → NoCollision r r' →
        alternative = db.workEvents) ∧
    ∀ (journal : Database) (allowEmpty : Bool) (r : Replay), replay journal allowEmpty = .ok r →
      ∀ workId, r.history workId = r.events.filter (·.workId = workId) ∧
        ∀ events, r.byWork.lookup workId = some events → Lifecycle events := by
  constructor
  · obtain ⟨r, holds⟩ := reached_holds run
    refine ⟨r, replay_ok.mpr ⟨holds, fun _ => rfl⟩, ?_⟩
    intro alternative allowEmpty r' accepted ideal
    have ⟨⟨sound', rows', _, state'⟩, _⟩ := replay_ok.mp accepted
    have checkpoint := holds.state.symm.trans state'
    simp only [List.cons.injEq, StateRow.mk.injEq, Value.int.injEq, Value.text.injEq, and_true,
      true_and, Nat.cast_inj] at checkpoint
    have events := replays_agree holds.sound sound' holds.bounded checkpoint.1 checkpoint.2 ideal
    have rows : alternative.rows = db.workEvents.rows := by
      rw [holds.rows, events]
      exact rows'
    cases alternative
    cases held : db.workEvents
    rw [held] at rows
    cases rows
    rfl
  · intro journal allowEmpty r accepted
    exact sound_history (replay_ok.mp accepted).1.sound

end

namespace Samples

attribute [local instance] plainHost plainScreening

/-- The journal of one event. -/
def opened : Database := (play serve [opening] initialized).2

theorem opened_tamper_evident : opened.workEvents.rows.length = 1 ∧
    ∃ r, replay opened true = .ok r ∧ ∀ (alternative : WorkEvents) (allowEmpty : Bool) (r' : Replay),
      replay { opened with workEvents := alternative } allowEmpty = .ok r' → NoCollision r r' →
        alternative = opened.workEvents := by
  have run : Run (Serves serve) initialized (play serve [opening] initialized).1 opened :=
    run_play [opening] initialized
  exact ⟨by decide +kernel, (journal_tamper_evident run).1⟩

end Samples

end MasterAgent.WorkMemory
