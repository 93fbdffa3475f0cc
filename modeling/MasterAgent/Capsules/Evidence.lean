import MasterAgent.Capsules.Resumption

/-!
# The evidence of a coordinator run

What the stored checkpoint, the event chain and the external sink say of a coordinator run, over
all interleavings of its calls. The table lets a dry call verify what a real one has executed,
checkpoints are compared by the name of their state only, and a receipt is appended before the
checkpoint that ends the run is written; so the evidence is right in the runs whose steps are
careful in these three respects, and not in all.

Results:

1. `Faithful.commit`, `Faithful.append`: what a careful step preserves;
2. `keeps_run_faithful`: every call keeps the worlds faithful;
3. `careful_runs_evidence`: the evidence of every careful run.
-/

namespace MasterAgent.CapsuleRuns
open Base

section
variable [Host]

/-! ## Evidence -/

/-- The plan and the capsules that a checkpoint is for. -/
structure IsFor (plan : ChangePlan) (c : RunCheckpoint) : Prop where
  planId : c.planId = plan.planId
  fingerprint : c.planFingerprint = plan.fingerprint
  digest : c.capsuleBindingsSha256 = capsuleBindingsSha256 plan

/-- What stands behind a terminal checkpoint: the report of an orchestrator run, and its signed
receipt, anchored in the log. -/
structure Proven (k : CapsuleRunCoordinator) (w : World) (e : Commit) (report : RunReport)
    (receipt : ExecutionReceipt) : Prop where
  returned : Returns k.orchestrator e.request.plan e.request.approvals e.request.dryRun report
  held : e.held.receipt = some receipt
  attests : Attests e.request.plan report receipt.auditAnchorSha256 k.receiptSigner receipt
  signed : k.receiptSigner.verify receipt = .ok true
  digest : ∃ digest, receipt.receiptSha256 = .ok digest ∧ e.checkpoint.resultSha256 = some digest
  anchored : ∃ row ∈ w.audit.events, row.eventHash = receipt.auditAnchorSha256

/-- What the evidence of a coordinator run is to show. -/
structure RunEvidence (k : CapsuleRunCoordinator) (runId : Uuid) (w : World) : Prop where
  stored : w.checkpoints runId = (w.commits.map Commit.checkpoint).getLast?
  /-- The checkpoints are those of the plan of the first call. -/
  identity : ∀ first, w.commits.head? = some first → ∀ e ∈ w.commits,
    IsFor first.request.plan e.checkpoint
  path : Path runId (w.commits.map Commit.checkpoint)
  final : ∀ n e, w.commits[n]? = some e → e.checkpoint.state = CapsuleRunState.terminal.str →
    n + 1 = w.commits.length
  /-- A terminal checkpoint is proven, and by a real report if there was a real run. -/
  terminal : ∀ e ∈ w.commits, e.checkpoint.state = CapsuleRunState.terminal.str →
    ∃ report receipt, Proven k w e report receipt ∧ (w.realRuns ≠ [] → report.dryRun = false)
  once : w.sink.length ≤ 1

/-! ## Careful steps -/

/-- What makes a step of a call careful: executing and compensating are not written once a receipt
was appended; a dry call does not verify an executing checkpoint; and a receipt is appended, and a
dry call ended, only while the stored checkpoint is the one that the call holds. -/
def Careful (runId : Uuid) (own : RunRequest) (x : Variables × CapsuleCall) (w : World) : Prop :=
  match x.2 with
  | .checkpointRun q =>
      (q.state = CapsuleRunState.executing.str ∨ q.state = CapsuleRunState.compensating.str →
        w.sink = []) ∧
      (own.dryRun = true → q.state = CapsuleRunState.verifying.str → ∀ c,
        w.checkpoints runId = some c → c.state ≠ CapsuleRunState.executing.str) ∧
      (own.dryRun = true → q.state = CapsuleRunState.terminal.str →
        w.checkpoints runId = x.1.checkpoint)
  | .append _ => w.checkpoints runId = x.1.checkpoint
  | _ => True

/-- A step of the calls that is careful. -/
abbrev CarefulStep (k : CapsuleRunCoordinator) (runId : Uuid) : Calls → CallEvent → Calls → Prop :=
  Pool.Step (fun i own x w r w' => serve (Returns k.orchestrator) i own x w r w' ∧
    Careful runId own x w) (Elsewhere runId) fun q => run k runId q .initial

variable {k : CapsuleRunCoordinator} {runId : Uuid} {i : Nat} {own : RunRequest} {v : Variables}
  {w w' : World}

/-- To create a checkpoint is careful. -/
theorem careful_creation : Careful runId own (v, .checkpointRun (creation runId own.plan)) w := by
  have other (s : CapsuleRunState) (differs : s ≠ .planned) :
      CapsuleRunState.planned.str ≠ s.str := fun same => differs (CapsuleRunState.str_inj same).symm
  refine ⟨?_, fun _ verifies => ?_, fun _ ends => ?_⟩
  · rintro (executes | compensates)
    · exact absurd executes (other .executing (by decide))
    · exact absurd compensates (other .compensating (by decide))
  · exact absurd verifies (other .verifying (by decide))
  · exact absurd ends (other .terminal (by decide))

/-! ## Faithful worlds -/

/-- What the worlds of a careful run have. -/
structure Faithful (k : CapsuleRunCoordinator) (runId : Uuid) (w : World) : Prop where
  sound : Sound runId w
  bound : ∀ e ∈ w.commits, IsFor e.request.plan e.checkpoint
  proven : ∀ e ∈ w.commits, e.checkpoint.state = CapsuleRunState.terminal.str →
    ∃ report receipt, Proven k w e report receipt
  dry : ∀ e ∈ w.commits, e.checkpoint.state = CapsuleRunState.terminal.str →
    e.request.dryRun = true → ∀ e' ∈ w.commits,
      e'.checkpoint.state ≠ CapsuleRunState.executing.str
  executed : w.realRuns ≠ [] → ∃ e ∈ w.commits,
    e.checkpoint.state = CapsuleRunState.executing.str
  /-- Once a receipt was appended, only its call may go on. -/
  once : w.sink = [] ∨ ∃ j receipt e, w.sink = [(j, receipt)] ∧ w.commits.getLast? = some e ∧
    (e.checkpoint.state = CapsuleRunState.terminal.str ∨ e.call = j ∧
      (e.checkpoint.state = CapsuleRunState.verifying.str ∨
        e.checkpoint.state = CapsuleRunState.compensating.str))

theorem Proven.later {e : Commit} {report : RunReport} {receipt : ExecutionReceipt}
    (proven : Proven k w e report receipt)
    (events : ∀ row ∈ w.audit.events, row ∈ w'.audit.events) : Proven k w' e report receipt where
  returned := proven.returned
  held := proven.held
  attests := proven.attests
  signed := proven.signed
  digest := proven.digest
  anchored := by
    obtain ⟨row, member, same⟩ := proven.anchored
    exact ⟨row, events row member, same⟩

namespace Faithful

theorem initial (start : Initial runId w) : Faithful k runId w where
  sound := .initial start
  bound e member := by rw [start.commits] at member; cases member
  proven e member := by rw [start.commits] at member; cases member
  dry e member := by rw [start.commits] at member; cases member
  executed := fun real => absurd start.realRuns real
  once := .inl start.sink

/-- The commit of the stored checkpoint. -/
theorem last (faithful : Faithful k runId w) {c : RunCheckpoint}
    (stored : w.checkpoints runId = some c) :
    ∃ e, w.commits.getLast? = some e ∧ e.checkpoint = c := by
  have found := faithful.sound.row.symm.trans stored
  rw [List.getLast?_map] at found
  exact Option.map_eq_some_iff.mp found

/-- A checkpoint is written once. -/
theorem unique (faithful : Faithful k runId w) {e e' : Commit} (member : e ∈ w.commits)
    (member' : e' ∈ w.commits) (same : e.checkpoint = e'.checkpoint) : e = e' := by
  obtain ⟨m, at_m⟩ := List.mem_iff_getElem?.mp member
  obtain ⟨n, at_n⟩ := List.mem_iff_getElem?.mp member'
  have first := (faithful.sound.path.numbered m (c := e.checkpoint) (by
    rw [List.getElem?_map, at_m]; rfl)).1
  have second := (faithful.sound.path.numbered n (c := e'.checkpoint) (by
    rw [List.getElem?_map, at_n]; rfl)).1
  rw [← first, same, second] at at_m
  exact Option.some.inj (at_m.symm.trans at_n)

/-- Nothing but the event chain has changed. -/
theorem events (faithful : Faithful k runId w) {rows : Checkpoints} {db : AuditDb}
    (sound : Sound runId { w with
      checkpoints := rows
      audit := db })
    (extended : ∀ row ∈ w.audit.events, row ∈ db.events) :
    Faithful k runId { w with
      checkpoints := rows
      audit := db } where
  sound := sound
  bound := faithful.bound
  proven e member ended := by
    obtain ⟨report, receipt, proven⟩ := faithful.proven e member ended
    exact ⟨report, receipt, proven.later extended⟩
  dry := faithful.dry
  executed := faithful.executed
  once := faithful.once

/-- A real run is started by a call that has written executing. -/
theorem starts (faithful : Faithful k runId w)
    (wrote : ∃ e ∈ w.commits, e.checkpoint.state = CapsuleRunState.executing.str) (i : Nat) :
    Faithful k runId { w with realRuns := w.realRuns ++ [i] } where
  sound := ⟨faithful.sound.audit, faithful.sound.row, faithful.sound.path⟩
  bound := faithful.bound
  proven e member ended := by
    obtain ⟨report, receipt, proven⟩ := faithful.proven e member ended
    exact ⟨report, receipt, proven.later fun _ member => member⟩
  dry := faithful.dry
  executed _ := wrote
  once := faithful.once

/-- A receipt is appended by the call that wrote the stored checkpoint, for the first time. -/
theorem append (faithful : Faithful k runId w) (clean : ∀ x ∈ w.sink, x.1 ≠ i) {c : RunCheckpoint}
    (stored : w.checkpoints runId = some c)
    (wrote : ∃ e ∈ w.commits, e.call = i ∧ e.checkpoint = c)
    (state : c.state = CapsuleRunState.verifying.str ∨
      c.state = CapsuleRunState.compensating.str) (receipt : Json) :
    Faithful k runId { w with sink := w.sink ++ [(i, receipt)] } := by
  obtain ⟨e, last, here⟩ := faithful.last stored
  obtain ⟨e', member, mine, same⟩ := wrote
  obtain rfl := faithful.unique (List.mem_of_getLast? last) member (here.trans same.symm)
  have live : e.checkpoint.state ≠ CapsuleRunState.terminal.str := by
    rw [here]
    rintro ended
    rcases state with state | state <;>
      exact absurd (CapsuleRunState.str_inj (state.symm.trans ended)) (by decide)
  have empty : w.sink = [] := by
    rcases faithful.once with empty | ⟨j, earlier, e', holds, last', ended | ⟨call, _⟩⟩
    · exact empty
    · obtain rfl := Option.some.inj (last.symm.trans last')
      exact absurd ended live
    · obtain rfl := Option.some.inj (last.symm.trans last')
      exact absurd (call.symm.trans mine) (clean (j, earlier) (holds ▸ List.mem_singleton_self _))
  exact {
    sound := ⟨faithful.sound.audit, faithful.sound.row, faithful.sound.path⟩
    bound := faithful.bound
    proven := fun e member ended => by
      obtain ⟨report, receipt, proven⟩ := faithful.proven e member ended
      exact ⟨report, receipt, proven.later fun _ member => member⟩
    dry := faithful.dry
    executed := faithful.executed
    once := .inr ⟨i, receipt, e, by
      show w.sink ++ [(i, receipt)] = _
      rw [empty]
      rfl, last, .inr ⟨mine, here ▸ state⟩⟩ }

/-- What the call that ends a run has to hold. -/
structure Ends (k : CapsuleRunCoordinator) (w : World) (e : Commit) : Prop where
  proven : ∃ report receipt, Proven k w e report receipt
  dry : e.request.dryRun = true → ∃ c, e.held.checkpoint = some c ∧ c.sequence = 1 ∧
    c.state = CapsuleRunState.verifying.str

/-- A dry call that ends a run as the first to verify it ends a run that never executed. -/
theorem never_executed (faithful : Faithful k runId w) {c : RunCheckpoint}
    (stored : w.checkpoints runId = some c) (second : c.sequence = 1)
    (verifying : c.state = CapsuleRunState.verifying.str) :
    ∀ e ∈ w.commits, e.checkpoint.state ≠ CapsuleRunState.executing.str := by
  intro e member executing
  have size := (faithful.sound.path.last (faithful.sound.row.symm.trans stored)).1
  obtain ⟨n, at_n⟩ := List.mem_iff_getElem?.mp member
  have found : (w.commits.map Commit.checkpoint)[n]? = some e.checkpoint := by
    rw [List.getElem?_map, at_n]
    rfl
  have inside : n < (w.commits.map Commit.checkpoint).length :=
    (List.getElem?_eq_some_iff.mp found).1
  obtain rfl | rfl : n = 0 ∨ n = 1 := by omega
  · exact absurd (CapsuleRunState.str_inj ((faithful.sound.path.begins found).symm.trans executing))
      (by decide)
  · have here := faithful.sound.row.symm.trans stored
    rw [List.getLast?_eq_getElem?, ← size, second] at here
    obtain rfl := Option.some.inj (here.symm.trans found)
    exact absurd (CapsuleRunState.str_inj (verifying.symm.trans executing)) (by decide)

omit [Host] in
/-- A call that has appended its receipt can only end the run. -/
theorem only_terminal {current target : CapsuleRunState}
    (possible : current = .terminal ∨ current = .verifying ∨ current = .compensating)
    (edge : target ∈ current.transitions) (notExecuting : target ≠ .executing)
    (notCompensating : target ≠ .compensating) : target = .terminal := by
  have checked : ∀ target : CapsuleRunState, (target ∈ CapsuleRunState.verifying.transitions ∨
      target ∈ CapsuleRunState.compensating.transitions) → target ≠ .executing →
      target ≠ .compensating → target = .terminal := by
    intro target
    cases target <;> decide
  rcases possible with rfl | rfl | rfl
  · cases edge
  · exact checked target (.inl edge) notExecuting notCompensating
  · exact checked target (.inr edge) notExecuting notCompensating

/-- A careful call writes a checkpoint. -/
theorem commit (faithful : Faithful k runId w) {q : CheckpointRequest} {row : RunCheckpoint}
    {rows : Checkpoints} (lawful : Lawful runId q) (mine : IsFor own.plan (q.row 0))
    (written : checkpointRun q w.checkpoints = .ok (row, rows))
    (careful : Careful runId own (v, .checkpointRun q) w)
    (ends : q.state = CapsuleRunState.terminal.str → Ends k w ⟨i, own, row, v⟩) :
    Faithful k runId { w with
      checkpoints := rows
      commits := w.commits ++ [⟨i, own, row, v⟩] } := by
  obtain ⟨unsunk, _, ownEnd⟩ := careful
  have sound : Sound runId { w with
      checkpoints := rows
      commits := w.commits ++ [⟨i, own, row, v⟩] } := faithful.sound.written lawful written
  have rowState : row.state = q.state := by
    obtain ⟨_, ⟨_, _, rfl⟩ | ⟨_, _, _, rfl⟩⟩ := checkpointRun_ok written <;> rfl
  have rowFor : IsFor own.plan row := by
    obtain ⟨_, ⟨_, _, rfl⟩ | ⟨_, _, _, rfl⟩⟩ := checkpointRun_ok written <;>
      exact ⟨mine.planId, mine.fingerprint, mine.digest⟩
  have notEnded : ∀ e ∈ w.commits, e.checkpoint.state ≠ CapsuleRunState.terminal.str := by
    intro e member ended
    obtain ⟨n, at_n⟩ := List.mem_iff_getElem?.mp member
    have inside : n < w.commits.length := (List.getElem?_eq_some_iff.mp at_n).1
    have found : ((w.commits ++ [Commit.mk i own row v]).map Commit.checkpoint)[n]? =
        some e.checkpoint := by
      rw [List.getElem?_map, List.getElem?_append_left inside, at_n]
      rfl
    have last := sound.path.final found ended
    rw [List.length_map, List.length_append] at last
    simp only [List.length_singleton] at last
    omega
  refine ⟨sound, ?_, ?_, ?_, ?_, ?_⟩
  · intro e member
    rcases List.mem_append.mp member with before | here
    · exact faithful.bound e before
    · rw [List.mem_singleton.mp here]
      exact rowFor
  · intro e member ended
    rcases List.mem_append.mp member with before | here
    · exact absurd ended (notEnded e before)
    · obtain rfl := List.mem_singleton.mp here
      obtain ⟨report, receipt, proven⟩ := (ends (rowState.symm.trans ended)).proven
      exact ⟨report, receipt, proven.later fun _ member => member⟩
  · intro e member ended dry e' member' executing
    rcases List.mem_append.mp member with before | here
    · exact notEnded e before ended
    · obtain rfl := List.mem_singleton.mp here
      have terminal := rowState.symm.trans ended
      obtain ⟨c, held, second, verifying⟩ := (ends terminal).dry dry
      have stored : w.checkpoints runId = some c := (ownEnd dry terminal).trans held
      rcases List.mem_append.mp member' with before' | here'
      · exact faithful.never_executed stored second verifying e' before' executing
      · obtain rfl := List.mem_singleton.mp here'
        exact absurd (CapsuleRunState.str_inj (ended.symm.trans executing)) (by decide)
  · intro real
    obtain ⟨e, member, executing⟩ := faithful.executed real
    exact ⟨e, List.mem_append_left _ member, executing⟩
  · rcases faithful.once with empty | ⟨j, receipt, e, holds, last, state⟩
    · exact .inl empty
    · refine .inr ⟨j, receipt, ⟨i, own, row, v⟩, holds, List.getLast?_concat, .inl ?_⟩
      have stored : w.checkpoints runId = some e.checkpoint := by
        rw [faithful.sound.row, List.getLast?_map, last]
        rfl
      obtain ⟨_, ⟨missing, _, _⟩ | ⟨existing, found, same, _⟩⟩ := checkpointRun_ok written
      · rw [lawful.owner, stored] at missing
        cases missing
      · rw [lawful.owner, stored] at found
        obtain rfl := Option.some.inj found
        have sunk : ¬w.sink = [] := by
          rw [holds]
          exact List.cons_ne_nil _ _
        rw [rowState]
        cases lawful with
        | creates plan => cases same.state
        | @advances checkpoint current target plan result owner edge =>
          have from_ : e.checkpoint.state = current.str := Option.some.inj same.state
          have away : target ≠ .executing ∧ target ≠ .compensating :=
            ⟨fun is => sunk (unsunk (.inl (congrArg CapsuleRunState.str is))),
              fun is => sunk (unsunk (.inr (congrArg CapsuleRunState.str is)))⟩
          have possible : current = .terminal ∨ current = .verifying ∨ current = .compensating := by
            rcases state with ended | ⟨_, verifying | compensating⟩
            · exact .inl (CapsuleRunState.str_inj (from_.symm.trans ended))
            · exact .inr (.inl (CapsuleRunState.str_inj (from_.symm.trans verifying)))
            · exact .inr (.inr (CapsuleRunState.str_inj (from_.symm.trans compensating)))
          exact congrArg CapsuleRunState.str (only_terminal possible edge away.1 away.2)

end Faithful

/-! ## What a call knows -/

/-- What a call has done and seen so far. -/
structure Facts where
  /-- It has appended no receipt. -/
  clean : Bool
  /-- The checkpoint that it wrote last. -/
  own : Option RunCheckpoint
  /-- It has written executing. -/
  executed : Bool
  /-- The event that it anchored the report in. -/
  anchor : Option String

structure Knows (k : CapsuleRunCoordinator) (runId : Uuid) (i : Nat) (f : Facts) (w : World) :
    Prop where
  faithful : Faithful k runId w
  clean : f.clean = true → ∀ x ∈ w.sink, x.1 ≠ i
  wrote : ∀ c, f.own = some c → ∃ e ∈ w.commits, e.call = i ∧ e.checkpoint = c
  executed : f.executed = true → ∃ e ∈ w.commits,
    e.checkpoint.state = CapsuleRunState.executing.str
  anchor : ∀ hash, f.anchor = some hash → ∃ row ∈ w.audit.events, row.eventHash = hash

/-- How a step of a call may change the world. -/
structure Moves (k : CapsuleRunCoordinator) (runId : Uuid) (i : Nat) (w w' : World) : Prop where
  faithful : Faithful k runId w → Faithful k runId w'
  commits : ∀ e ∈ w.commits, e ∈ w'.commits
  sink : ∀ x ∈ w'.sink, x ∈ w.sink ∨ x.1 = i
  events : ∀ row ∈ w.audit.events, row ∈ w'.audit.events

theorem Moves.refl : Moves k runId i w w := ⟨id, fun _ => id, fun _ => .inl, fun _ => id⟩

theorem chainRows_events (columns more : List AuditColumns) :
    ∀ row ∈ chainRows "GENESIS" columns, row ∈ chainRows "GENESIS" (columns ++ more) := by
  intro row member
  induction more using List.reverseRecOn with
  | nil => rwa [List.append_nil]
  | append_singleton more c ih =>
    rw [← List.append_assoc, ChainLemmas.chainRows_concat]
    exact List.mem_append_left _ ih

theorem Faithful.elsewhere (faithful : Faithful k runId w) (moved : Elsewhere runId w w') :
    Faithful k runId w' ∧ (∀ row ∈ w.audit.events, row ∈ w'.audit.events) ∧
      w'.commits = w.commits ∧ w'.sink = w.sink := by
  have sound := faithful.sound.elsewhere moved
  obtain ⟨rows, calls, db, kept, recorded, rfl⟩ := moved
  have extended : ∀ row ∈ w.audit.events, row ∈ db.events := by
    obtain ⟨columns, chain⟩ := faithful.sound.audit
    rw [chain, ChainLemmas.recordAll_ofColumns] at recorded
    cases recorded
    rw [chain]
    exact chainRows_events columns _
  exact ⟨faithful.events sound extended, extended, rfl, rfl⟩

variable {f : Facts}

/-- What a call knows stays so whatever the others do. -/
theorem Knows.rely (knows : Knows k runId i f w)
    (elapsed : Relation.ReflTransGen (Pool.rely (Elsewhere runId) (Moves k runId) i) w w') :
    Knows k runId i f w' := by
  induction elapsed with
  | refl => exact knows
  | @tail w₁ w₂ _ moved ih =>
    obtain elsewhere | ⟨j, other, moves⟩ := moved
    · obtain ⟨faithful, events, commits, sink⟩ := ih.faithful.elsewhere elsewhere
      refine ⟨faithful, sink ▸ ih.clean, commits ▸ ih.wrote, commits ▸ ih.executed, ?_⟩
      intro hash seen
      obtain ⟨row, member, same⟩ := ih.anchor hash seen
      exact ⟨row, events row member, same⟩
    · refine ⟨moves.faithful ih.faithful, ?_, ?_, ?_, ?_⟩
      · intro clean x member mine
        rcases moves.sink x member with before | theirs
        · exact ih.clean clean x before mine
        · exact other (theirs.symm.trans mine)
      · intro c written
        obtain ⟨e, member, facts⟩ := ih.wrote c written
        exact ⟨e, moves.commits e member, facts⟩
      · intro executed
        obtain ⟨e, member, state⟩ := ih.executed executed
        exact ⟨e, moves.commits e member, state⟩
      · intro hash seen
        obtain ⟨row, member, same⟩ := ih.anchor hash seen
        exact ⟨row, moves.events row member, same⟩

/-- What a call knows stays so when it takes a step that appends nothing. -/
theorem Knows.moved (knows : Knows k runId i f w) (moves : Moves k runId i w w')
    (sink : w'.sink = w.sink) : Knows k runId i f w' where
  faithful := moves.faithful knows.faithful
  clean := sink ▸ knows.clean
  wrote c written := by
    obtain ⟨e, member, facts⟩ := knows.wrote c written
    exact ⟨e, moves.commits e member, facts⟩
  executed executed := by
    obtain ⟨e, member, state⟩ := knows.executed executed
    exact ⟨e, moves.commits e member, state⟩
  anchor hash seen := by
    obtain ⟨row, member, same⟩ := knows.anchor hash seen
    exact ⟨row, moves.events row member, same⟩

/-- An event that is recorded is one of the log. -/
theorem recorded_moves (faithful : Faithful k runId w) {reports : Reports} {owner planId : Uuid}
    {eventType : String} {payload : Json} {hash : String}
    (served : Served reports i own v (.record owner planId eventType payload) w hash w') :
    Moves k runId i w w' ∧ w'.sink = w.sink ∧
      ∃ row ∈ w'.audit.events, row.eventHash = hash := by
  have asks : Asks runId (.record owner planId eventType payload) := trivial
  have sound := faithful.sound.served asks served
  obtain ⟨now, db, recorded, rfl⟩ := served
  obtain ⟨columns, chain⟩ := faithful.sound.audit
  rw [chain, recordEvent_chain] at recorded
  obtain ⟨rfl, rfl⟩ := Prod.mk.inj (Except.ok.inj recorded)
  have extended : ∀ row ∈ w.audit.events, row ∈ (AuditDb.ofColumns (columns ++
      [(RecordCall.mk now owner planId none eventType payload).columns])).events := by
    rw [chain]
    exact chainRows_events columns _
  refine ⟨⟨fun faithful => faithful.events sound extended, fun _ => id, fun _ => .inl, extended⟩,
    rfl, ?_⟩
  refine ⟨⟨(RecordCall.mk now owner planId none eventType payload).columns,
    HashChain.head eventLink "GENESIS" columns, eventLink (HashChain.head eventLink "GENESIS" columns)
      (RecordCall.mk now owner planId none eventType payload).columns⟩, ?_,
    by rw [HashChain.head_concat]⟩
  show _ ∈ chainRows "GENESIS" (columns ++ [_])
  rw [ChainLemmas.chainRows_concat]
  exact List.mem_append_right _ (List.mem_singleton_self _)

/-- A checkpoint that is written is the last commit. -/
theorem written_moves {row : RunCheckpoint} {rows : Checkpoints} (after : Faithful k runId { w with
      checkpoints := rows
      commits := w.commits ++ [⟨i, own, row, v⟩] }) : Moves k runId i w { w with
        checkpoints := rows
        commits := w.commits ++ [⟨i, own, row, v⟩] } where
  faithful _ := after
  commits _ := List.mem_append_left _
  sink _ := .inl
  events _ := id

/-- The call appends a receipt. -/
def CapsuleCall.appends : CapsuleCall → Bool
  | .append _ => true
  | _ => false

/-! ## The rules -/

section
variable (k runId i own)

/-- From what a call holds and knows, a program of careful steps keeps the worlds faithful, and
returns with what it then holds and knows. -/
def Keeps {A : Type} (p : Coordination A) (P : Variables → Prop) (f : Facts)
    (Q : A → Variables → Prop) (g : A → Facts) : Prop :=
  ∀ v w, P v → Knows k runId i f w →
    Proc.keeps (Pool.rely (Elsewhere runId) (Moves k runId) i)
      (fun x w r w' => serve (Returns k.orchestrator) i own x w r w' ∧ Careful runId own x w)
      (Moves k runId i) p (fun a v w => Q a v ∧ Knows k runId i (g a) w) (fun _ _ _ => True) v w

end

namespace Keeps

variable {A B : Type} {P : Variables → Prop} {Q : A → Variables → Prop} {g : A → Facts}

theorem returning {a : A} (holds : ∀ v, P v → Q a v) (same : g a = f) :
    Keeps k runId i own (pure a) P f Q g :=
  fun v _ pre knows => ⟨holds v pre, same ▸ knows⟩

/-- Less may be known of what is returned. -/
theorem returning_less {a : A} (holds : ∀ v, P v → Q a v)
    (less : ∀ w, Knows k runId i f w → Knows k runId i (g a) w) :
    Keeps k runId i own (pure a) P f Q g :=
  fun v w pre knows => ⟨holds v pre, less w knows⟩

theorem then_ {p : Coordination B} {c : B → Coordination A} {R : B → Variables → Prop}
    {h : B → Facts} (first : Keeps k runId i own p P f R h)
    (rest : ∀ b, Keeps k runId i own (c b) (R b) (h b) Q g) :
    Keeps k runId i own (p >>= c) P f Q g := by
  intro v w pre knows
  rw [Proc.keeps_bind]
  exact Proc.keeps_mono (first v w pre knows) (fun b v w ⟨holds, knows⟩ => rest b v w holds knows)
    fun _ _ _ _ => trivial

theorem given {φ : Prop} {p : Coordination A} (rest : φ → Keeps k runId i own p P f Q g) :
    Keeps k runId i own p (fun v => P v ∧ φ) f Q g :=
  fun v w ⟨pre, holds⟩ knows => rest holds v w pre knows

theorem lifting {x : Except Exn A} (holds : ∀ a v, x = .ok a → P v → Q a v) :
    Keeps k runId i own (Proc.lift x) P f Q fun _ => f := by
  intro v w pre knows
  cases x with
  | ok a => exact ⟨holds a v rfl pre, knows⟩
  | error e => trivial

theorem ensuring {holds : Bool} {raised : Exn} :
    Keeps k runId i own (ensure holds raised) P f (fun _ v => P v ∧ holds = true) fun _ => f := by
  refine lifting fun _ v passed pre => ⟨pre, ?_⟩
  cases holds
  · cases passed
  · rfl

theorem modifying {φ : Variables → Variables} {Q : Variables → Prop}
    (holds : ∀ v, P v → Q (φ v)) :
    Keeps k runId i own (Proc.modify φ) P f (fun _ => Q) fun _ => f :=
  fun v _ pre knows => ⟨holds v pre, knows⟩

/-- A call is made in whatever world the others left. -/
theorem performing {c : CapsuleCall} {Q : c.Value → Variables → Prop} {g : c.Value → Facts}
    (answers : ∀ v w value w', P v → Knows k runId i f w → Careful runId own (v, c) w →
      Served (Returns k.orchestrator) i own v c w value w' →
      Moves k runId i w w' ∧ Q value v ∧ Knows k runId i (g value) w')
    (raises : ∀ v w w', P v → Knows k runId i f w → Careful runId own (v, c) w →
      Raised i c w w' → Moves k runId i w w') :
    Keeps k runId i own (perform c) P f Q g := by
  intro v w pre knows
  rw [perform, Proc.keeps_bind, Proc.keeps_call]
  intro w₁ elapsed r w₂ stepped
  obtain ⟨served, careful⟩ := stepped
  have now := knows.rely elapsed
  cases r with
  | ok value => exact answers v w₁ value w₂ pre now careful served
  | error e => exact ⟨raises v w₁ w₂ pre now careful served, trivial⟩

/-- A call that raises leaves the world as it was, unless it appends. -/
theorem raised_still {c : CapsuleCall} (quiet : c.appends = false)
    (raised : Raised i c w w') : Moves k runId i w w' := by
  obtain rfl | ⟨receipt, is, _⟩ := raised
  · exact .refl
  · rw [is] at quiet
    cases quiet

/-- A call that leaves the world as it was. -/
theorem asking {c : CapsuleCall} {Q : c.Value → Variables → Prop}
    (quiet : c.appends = false)
    (answers : ∀ v w value w', P v → Knows k runId i f w →
      Served (Returns k.orchestrator) i own v c w value w' → w' = w ∧ Q value v) :
    Keeps k runId i own (perform c) P f Q fun _ => f := by
  refine performing (fun v w value w' pre knows _ served => ?_)
    fun v w w' _ _ _ raised => raised_still quiet raised
  obtain ⟨rfl, holds⟩ := answers v w value w' pre knows served
  exact ⟨.refl, holds, knows⟩

/-- A recorded event is one of the log. -/
theorem recording {owner planId : Uuid} {eventType : String} {payload : Json} :
    Keeps k runId i own (perform (.record owner planId eventType payload)) P f (fun _ => P)
      fun hash => { f with anchor := some hash } := by
  refine performing (fun v w hash w' pre knows _ served => ?_)
    fun v w w' _ _ _ raised => raised_still rfl raised
  obtain ⟨moves, sink, here⟩ := recorded_moves knows.faithful served
  have later := knows.moved moves sink
  exact ⟨moves, pre, later.faithful, later.clean, later.wrote, later.executed,
    fun seen same => Option.some.inj same ▸ here⟩

/-- What is known of the log besides is not forgotten. -/
theorem noting {owner planId : Uuid} {eventType : String} {payload : Json} :
    Keeps k runId i own (perform (.record owner planId eventType payload)) P f (fun _ => P)
      fun _ => f := by
  refine performing (fun v w hash w' pre knows _ served => ?_)
    fun v w w' _ _ _ raised => raised_still rfl raised
  obtain ⟨moves, sink, _⟩ := recorded_moves knows.faithful served
  exact ⟨moves, pre, knows.moved moves sink⟩

theorem creating : Keeps k runId i own (perform (.checkpointRun (creation runId own.plan))) P f
    (fun c v => P v ∧ c.runId = runId) fun c => { f with own := some c } := by
  refine performing (fun v w row w' pre knows careful served => ?_)
    fun v w w' _ _ _ raised => raised_still rfl raised
  obtain ⟨rows, written, rfl⟩ := served
  have after := knows.faithful.commit (i := i) (.creates own.plan) ⟨rfl, rfl, rfl⟩ written careful
    fun ended => absurd (CapsuleRunState.str_inj (s := .planned) (t := .terminal) ended) (by decide)
  have moves := written_moves after
  have later := knows.moved moves rfl
  have owner : row.runId = runId := by
    obtain ⟨_, ⟨_, _, rfl⟩ | ⟨_, _, _, rfl⟩⟩ := checkpointRun_ok written <;> rfl
  refine ⟨moves, ⟨pre, owner⟩, later.faithful, later.clean, ?_, later.executed, later.anchor⟩
  intro c same
  obtain rfl := Option.some.inj same
  exact ⟨_, List.mem_append_right _ (List.mem_singleton_self _), rfl, rfl⟩

theorem advancing {held : RunCheckpoint} {current target : CapsuleRunState} {result : Option String}
    (owner : held.runId = runId) (edge : target ∈ current.transitions)
    (ends : target = .terminal → ∀ v w row, P v → Knows k runId i f w →
      row.resultSha256 = result → Faithful.Ends k w ⟨i, own, row, v⟩) :
    Keeps k runId i own (perform (.checkpointRun (advance held current target own.plan result))) P f
      (fun c v => P v ∧ c.runId = runId ∧ c.state = target.str ∧
        (target = .verifying → own.dryRun = true → c.sequence = 1))
      fun c => { f with
        own := some c
        executed := f.executed || target == .executing } := by
  refine performing (fun v w row w' pre knows careful served => ?_)
    fun v w w' _ _ _ raised => raised_still rfl raised
  obtain ⟨rows, written, rfl⟩ := served
  have lawful : Lawful runId (advance held current target own.plan result) :=
    .advances own.plan result owner edge
  have result_ : row.resultSha256 = result := by
    obtain ⟨_, ⟨_, _, rfl⟩ | ⟨_, _, _, rfl⟩⟩ := checkpointRun_ok written <;> rfl
  have state : row.state = target.str := by
    obtain ⟨_, ⟨_, _, rfl⟩ | ⟨_, _, _, rfl⟩⟩ := checkpointRun_ok written <;> rfl
  have after := knows.faithful.commit (i := i) lawful ⟨rfl, rfl, rfl⟩ written careful
    fun ended => ends (CapsuleRunState.str_inj ended) v w row pre knows result_
  have moves := written_moves after
  have later := knows.moved moves rfl
  have mine : row.runId = runId := by
    obtain ⟨_, ⟨_, _, rfl⟩ | ⟨_, _, _, rfl⟩⟩ := checkpointRun_ok written <;> exact owner
  -- A dry call that verifies does so from planned, which is the first checkpoint of the run.
  have second : target = .verifying → own.dryRun = true → row.sequence = 1 := by
    rintro rfl dry
    obtain ⟨_, ⟨_, expected, _⟩ | ⟨existing, found, same, rfl⟩⟩ := checkpointRun_ok written
    · cases expected
    · have stored : w.checkpoints runId = some existing :=
        (congrArg w.checkpoints owner).symm.trans found
      have from_ : existing.state = current.str := Option.some.inj same.state
      obtain rfl | rfl := (CapsuleRunState.verifying_iff current).mp edge
      · have path := knows.faithful.sound.path
        have last := knows.faithful.sound.row.symm.trans stored
        have size := (path.last last).1
        rw [List.getLast?_eq_getElem?] at last
        have first := path.planned_first last from_
        show existing.sequence + 1 = 1
        omega
      · exact absurd from_ (careful.2.1 dry rfl existing stored)
  refine ⟨moves, ⟨pre, mine, state, second⟩, later.faithful, later.clean, ?_, ?_, later.anchor⟩
  · intro c same
    obtain rfl := Option.some.inj same
    exact ⟨_, List.mem_append_right _ (List.mem_singleton_self _), rfl, rfl⟩
  · intro executed
    rcases Bool.or_eq_true_iff.mp executed with before | now
    · exact later.executed before
    · obtain rfl := beq_iff_eq.mp now
      exact ⟨_, List.mem_append_right _ (List.mem_singleton_self _), state⟩

/-- A real run is started by a call that has written executing. -/
theorem starting {plan : ChangePlan} {approvals : List Approval} {dryRun : Bool}
    (executed : dryRun = false → f.executed = true) :
    Keeps k runId i own (perform (.orchestratorStarts plan approvals dryRun)) P f (fun _ => P)
      fun _ => f := by
  refine performing (fun v w value w' pre knows _ served => ?_)
    fun v w w' _ _ _ raised => raised_still rfl raised
  obtain rfl := served
  cases dryRun
  · have moves : Moves k runId i w { w with realRuns := w.realRuns ++ [i] } :=
      ⟨fun faithful => faithful.starts (knows.executed (executed rfl)) i, fun _ => id, fun _ => .inl,
        fun _ => id⟩
    exact ⟨moves, pre, knows.moved moves rfl⟩
  · exact ⟨.refl, pre, knows⟩

/-- A receipt is appended by the call that wrote the stored checkpoint. -/
theorem appending {c : RunCheckpoint} {receipt : Json} (clean : f.clean = true)
    (own_ : f.own = some c) (held : ∀ v, P v → v.checkpoint = some c)
    (state : c.state = CapsuleRunState.verifying.str ∨
      c.state = CapsuleRunState.compensating.str) :
    Keeps k runId i own (perform (.append receipt)) P f (fun _ => P)
      fun _ => { f with clean := false } := by
  have appended {v : Variables} {w : World} (pre : P v) (knows : Knows k runId i f w)
      (careful : Careful runId own (v, .append receipt) w) :
      Moves k runId i w { w with sink := w.sink ++ [(i, receipt)] } := by
    have stored : w.checkpoints runId = some c := Eq.trans careful (held v pre)
    refine ⟨fun _ => knows.faithful.append (knows.clean clean) stored (knows.wrote c own_) state
      receipt, fun _ => id, fun x member => ?_, fun _ => id⟩
    rcases List.mem_append.mp member with before | here
    · exact .inl before
    · exact .inr (congrArg Prod.fst (List.mem_singleton.mp here))
  refine performing (fun v w value w' pre knows careful served => ?_)
    fun v w w' pre knows careful raised => ?_
  · obtain rfl := served
    have moves := appended pre knows careful
    exact ⟨moves, pre, moves.faithful knows.faithful, Bool.noConfusion, knows.wrote, knows.executed,
      knows.anchor⟩
  · obtain rfl | ⟨receipt, is, rfl⟩ := raised
    · exact .refl
    · obtain rfl := CapsuleCall.append.inj is
      exact appended pre knows careful

/-- Less may be known afterwards. -/
theorem weaken {p : Coordination A} {g' : A → Facts} (pre : Keeps k runId i own p P f Q g)
    (less : ∀ a w, Knows k runId i (g a) w → Knows k runId i (g' a) w) :
    Keeps k runId i own p P f Q g' :=
  fun v w holds knows => Proc.keeps_mono (pre v w holds knows)
    (fun a _ w ⟨holds, knows⟩ => ⟨holds, less a w knows⟩) fun _ _ _ _ => trivial

/-- Less may be asked for, and more be held before. -/
theorem holding {p : Coordination A} {H : Variables → Prop} {R : A → Variables → Prop}
    (pre : Keeps k runId i own p H f R g) (before : ∀ v, P v → H v)
    (after : ∀ a v, R a v → Q a v) : Keeps k runId i own p P f Q g :=
  fun v w holds knows => Proc.keeps_mono (pre v w (before v holds) knows)
    (fun a v _ ⟨holds, knows⟩ => ⟨after a v holds, knows⟩) fun _ _ _ _ => trivial

end Keeps

open Keeps

/-! ## The parts of a call -/

variable {P H : Variables → Prop}

theorem keeps_state (checkpoint : RunCheckpoint) :
    Keeps k runId i own (recordState checkpoint) P f (fun _ => P) fun _ => f :=
  then_ noting fun _ => returning (fun _ => id) rfl

/-- What a call holds and knows after a transition. -/
theorem keeps_transition {held : RunCheckpoint} (target : CapsuleRunState) (result : Option String)
    (owner : held.runId = runId)
    (ends : target = .terminal → ∀ v w row, P v → Knows k runId i f w →
      row.resultSha256 = result → Faithful.Ends k w ⟨i, own, row, v⟩)
    (kept : ∀ v c, P v → H { v with checkpoint := some c }) :
    Keeps k runId i own (move held target own.plan result) P f
      (fun c v => H v ∧ v.checkpoint = some c ∧ c.runId = runId ∧ c.state = target.str ∧
        (target = .verifying → own.dryRun = true → c.sequence = 1))
      fun c => { f with
        own := some c
        executed := f.executed || target == .executing } := by
  unfold move
  refine then_ (R := fun c v => P v ∧ c.runId = runId ∧ c.state = target.str ∧
    (target = .verifying → own.dryRun = true → c.sequence = 1)) (h := fun c => { f with
      own := some c
      executed := f.executed || target == .executing }) ?_ fun updated => ?_
  · unfold transition
    refine then_ (lifting (Q := fun _ v => P v) fun _ _ _ => id) fun current => ?_
    refine then_ ensuring fun _ => given fun allowed => ?_
    refine then_ (advancing owner (List.contains_iff_mem.mp allowed) ends) fun updated => ?_
    exact then_ (keeps_state updated) fun _ => returning (fun _ => id) rfl
  · refine then_ (modifying (Q := fun v => H v ∧ v.checkpoint = some updated ∧
      updated.runId = runId ∧ updated.state = target.str ∧
      (target = .verifying → own.dryRun = true → updated.sequence = 1)) fun v pre => ?_) fun _ =>
        returning (fun _ => id) rfl
    exact ⟨kept v updated pre.1, rfl, pre.2⟩

/-- What a call knows before it has written or appended anything. -/
def Facts.start : Facts := ⟨true, none, false, none⟩

theorem keeps_obtained :
    Keeps k runId i own (obtainCheckpoint runId own.plan) (fun _ => True) .start
      (fun c v => v.checkpoint = some c ∧ c.runId = runId) fun _ => .start := by
  unfold obtainCheckpoint
  have loaded : Keeps k runId i own (perform (.runCheckpoint runId)) (fun _ => True) .start
      (fun (row : Option RunCheckpoint) _ => ∀ c, row = some c → c.runId = runId) fun _ => .start :=
    asking rfl fun v w row w' _ knows ⟨stored, still⟩ =>
      ⟨still, fun c found => (knows.faithful.sound.path.last
        (knows.faithful.sound.row.symm.trans (stored.symm.trans found))).2.1⟩
  refine then_ loaded fun row => ?_
  cases row with
  | none =>
    refine then_ creating fun checkpoint => ?_
    refine then_ (keeps_state checkpoint) fun _ => ?_
    refine weaken (g := fun _ => { Facts.start with own := some checkpoint }) ?_
      fun _ w knows => ⟨knows.faithful, knows.clean, fun _ => nofun, knows.executed, knows.anchor⟩
    exact then_ (modifying (Q := fun v => v.checkpoint = some checkpoint ∧ checkpoint.runId = runId)
      fun v pre => ⟨rfl, pre.2⟩) fun _ => returning (fun _ => id) rfl
  | some checkpoint =>
    refine then_ (lifting (Q := fun _ _ => checkpoint.runId = runId)
      fun _ _ _ owner => owner checkpoint rfl) fun _ => ?_
    refine then_ ensuring fun _ => ?_
    exact then_ (modifying (Q := fun v => v.checkpoint = some checkpoint ∧ checkpoint.runId = runId)
      fun v pre => ⟨rfl, pre.1⟩) fun _ => returning (fun _ => id) rfl

/-- What is known of a call that has ended. -/
def Facts.none : Facts := ⟨false, .none, false, .none⟩

theorem Knows.ended (knows : Knows k runId i f w) : Knows k runId i .none w :=
  ⟨knows.faithful, Bool.noConfusion, fun _ => nofun, Bool.noConfusion, fun _ => nofun⟩

/-- What a call knows once it has settled on a report, under the checkpoint it wrote. -/
def Facts.settled (c : RunCheckpoint) : Facts := ⟨true, some c, false, .none⟩

/-- A checkpoint that the call may end the run from. -/
structure Settled (runId : Uuid) (own : RunRequest) (c : RunCheckpoint) : Prop where
  owner : c.runId = runId
  state : c.state = CapsuleRunState.verifying.str ∨ c.state = CapsuleRunState.compensating.str
  dry : own.dryRun = true → c.sequence = 1 ∧ c.state = CapsuleRunState.verifying.str

/-- An orchestrator's run starts and returns. -/
theorem keeps_orchestrated {dryRun : Bool} (executed : dryRun = false → f.executed = true) :
    Keeps k runId i own (orchestrate own dryRun) P f
      (fun report v => P v ∧ Returns k.orchestrator own.plan own.approvals dryRun report)
      fun _ => f := by
  unfold orchestrate
  refine then_ (starting executed) fun _ => ?_
  exact asking rfl fun v w report w' pre _ ⟨returned, still⟩ => ⟨still, pre, returned⟩

theorem keeps_executed {c : RunCheckpoint} {policyReport : RunReport} (owner : c.runId = runId)
    (policy : Returns k.orchestrator own.plan own.approvals true policyReport) :
    Keeps k runId i own (execute own c policyReport) (fun _ => True) .start
      (fun settled v => v.checkpoint = some settled.2 ∧ Settled runId own settled.2 ∧
        Returns k.orchestrator own.plan own.approvals own.dryRun settled.1)
      fun settled => .settled settled.2 := by
  have nothing {target : CapsuleRunState} {P : Variables → Prop} {f : Facts}
      (other : target ≠ .terminal) : target = .terminal → ∀ v w row, P v → Knows k runId i f w →
      row.resultSha256 = none → Faithful.Ends k w ⟨i, own, row, v⟩ :=
    fun is => absurd is other
  have forget {f : Facts} {c : RunCheckpoint} {w : World} (knows : Knows k runId i f w)
      (clean : f.clean = true) (wrote : f.own = some c) : Knows k runId i (.settled c) w :=
    ⟨knows.faithful, fun _ => knows.clean clean, fun c' same => knows.wrote c' (wrote.trans same),
      Bool.noConfusion, fun _ => nofun⟩
  unfold execute
  split
  · next dry =>
    refine then_ (modifying (Q := fun _ => True) fun _ _ => trivial) fun _ => ?_
    refine then_ (keeps_transition (H := fun _ => True) .verifying none owner
      (nothing (by decide)) fun _ _ _ => trivial) fun c' => ?_
    refine returning_less (fun v held => ?_) fun w knows => forget knows rfl rfl
    obtain ⟨_, holds, mine, state, second⟩ := held
    exact ⟨holds, ⟨mine, .inl state, fun _ => ⟨second rfl dry, state⟩⟩, dry ▸ policy⟩
  · next real =>
    have real_ : own.dryRun = false := Bool.eq_false_iff.mpr real
    refine then_ (keeps_transition (H := fun _ => True) .executing none owner
      (nothing (by decide)) fun _ _ _ => trivial) fun c₁ => ?_
    refine then_ (h := fun _ => { Facts.start with
      own := some c₁
      executed := true }) (R := fun report _ => c₁.runId = runId ∧
        Returns k.orchestrator own.plan own.approvals false report) (holding
        (keeps_orchestrated (P := fun _ => c₁.runId = runId) fun _ => rfl)
        (fun v held => held.2.2.1) fun _ _ => id) fun report => ?_
    refine then_ (modifying (Q := fun _ => c₁.runId = runId ∧
      Returns k.orchestrator own.plan own.approvals false report) fun _ => id) fun _ => ?_
    refine holding (H := fun _ => True ∧ (c₁.runId = runId ∧
      Returns k.orchestrator own.plan own.approvals false report)) (given fun ⟨mine₁, returned⟩ => ?_)
      (fun v held => ⟨trivial, held⟩) fun _ _ => id
    refine then_ (keeps_transition (H := fun _ => True) .verifying none mine₁
      (nothing (by decide)) fun _ _ _ => trivial) fun c₂ => ?_
    split
    · refine holding (H := fun _ => True ∧ c₂.runId = runId) (given fun mine₂ => ?_)
        (fun v held => ⟨trivial, held.2.2.1⟩) fun _ _ => id
      refine then_ (keeps_transition (H := fun _ => True) .compensating none mine₂
        (nothing (by decide)) fun _ _ _ => trivial) fun c₃ => ?_
      refine returning_less (fun v held => ?_) fun w knows => forget knows rfl rfl
      obtain ⟨_, holds, mine, state, _⟩ := held
      exact ⟨holds, ⟨mine, .inr state, fun dry => absurd dry real⟩, real_ ▸ returned⟩
    · refine returning_less (fun v held => ?_) fun w knows => forget knows rfl rfl
      obtain ⟨_, holds, mine, state, _⟩ := held
      exact ⟨holds, ⟨mine, .inl state, fun dry => absurd dry real⟩, real_ ▸ returned⟩

theorem keeps_exported {c : RunCheckpoint} {receipt : ExecutionReceipt} {hash : String}
    (held : ∀ v, P v → v.checkpoint = some c)
    (state : c.state = CapsuleRunState.verifying.str ∨
      c.state = CapsuleRunState.compensating.str) :
    Keeps k runId i own (exportReceipt k receipt) P { Facts.settled c with anchor := some hash }
      (fun _ => P) fun _ => { Facts.settled c with
        clean := false
        anchor := some hash } := by
  unfold exportReceipt
  split
  · exact returning_less (fun _ => id) fun w knows =>
      ⟨knows.faithful, Bool.noConfusion, knows.wrote, knows.executed, knows.anchor⟩
  · refine then_ (asking (Q := fun _ => P) rfl fun v w ready w' pre _ still => ⟨still, pre⟩)
      fun ready => ?_
    refine then_ ensuring fun _ => given fun _ => ?_
    refine then_ (appending rfl rfl held state) fun locator => ?_
    exact then_ ensuring fun _ => returning (fun _ pre => pre.1) rfl

theorem keeps_emitted {receipt : ExecutionReceipt} {digest : String} :
    Keeps k runId i own (emitTelemetry k receipt digest) P f (fun _ => P) fun _ => f := by
  unfold emitTelemetry
  by_cases telemetry : k.telemetrySink = true
  · rw [if_pos telemetry]
    exact asking rfl fun v w _ w' pre _ still => ⟨still, pre⟩
  · rw [if_neg telemetry]
    exact returning (fun _ => id) rfl

theorem keeps_concluded {c : RunCheckpoint} {report : RunReport}
    {authenticated : List (Approval × String)} (settled : Settled runId own c)
    (returned : Returns k.orchestrator own.plan own.approvals own.dryRun report) :
    Keeps k runId i own (conclude k runId own.plan authenticated report c)
      (fun v => v.checkpoint = some c) (.settled c) (fun _ _ => True) fun _ => .none := by
  unfold conclude
  refine then_ (lifting (Q := fun _ v => v.checkpoint = some c) fun _ _ _ => id) fun result => ?_
  refine then_ recording fun anchor => ?_
  refine then_ (asking (Q := fun _ v => v.checkpoint = some c) rfl
    fun v w drawn w' pre _ ⟨_, still⟩ => ⟨still, pre⟩) fun drawn => ?_
  refine then_ (lifting (Q := fun receipt v => v.checkpoint = some c ∧
    Attests own.plan report anchor k.receiptSigner receipt)
    fun receipt v built pre => ⟨pre, build_spec built⟩) fun receipt => given fun attests => ?_
  refine then_ (modifying (Q := fun v => v.checkpoint = some c ∧ v.receipt = some receipt)
    fun v pre => ⟨pre, rfl⟩) fun _ => ?_
  refine then_ (keeps_exported (fun v pre => pre.1) settled.state) fun locator => ?_
  refine then_ (lifting (Q := fun digest v => (v.checkpoint = some c ∧ v.receipt = some receipt) ∧
    receipt.receiptSha256 = .ok digest) fun digest v named pre => ⟨pre, named⟩)
    fun digest => given fun named => ?_
  refine then_ keeps_emitted fun _ => ?_
  -- The receipt is signed, since it has an identity.
  have nonempty : receipt.signature ≠ "" := by
    intro empty
    unfold ExecutionReceipt.receiptSha256 at named
    rw [if_pos empty] at named
    cases named
  refine then_ (keeps_transition (H := fun _ => True) .terminal (some digest) settled.owner
    (fun _ v w row held knows written => ?_) fun _ _ _ => trivial) fun ended => ?_
  · refine ⟨⟨report, receipt, returned, held.2, ?_, attests.signed nonempty, ⟨digest, named, written⟩,
      ?_⟩, fun dry => ?_⟩
    · rw [attests.anchor]
      exact attests
    · rw [attests.anchor]
      exact knows.anchor anchor rfl
    · obtain ⟨second, verifying⟩ := settled.dry dry
      exact ⟨c, held.1, second, verifying⟩
  · refine then_ noting fun _ => ?_
    exact returning_less (fun _ _ => trivial) fun w knows => knows.ended

/-- A call that has to wait. -/
theorem keeps_waiting {c : RunCheckpoint} {target : CapsuleRunState} {report : Option RunReport}
    (owner : c.runId = runId) (waits : target ≠ .terminal) :
    Keeps k runId i own (awaiting runId c target own.plan report) P f (fun _ _ => True)
      fun _ => .none := by
  unfold awaiting
  refine then_ (keeps_transition (H := fun _ => True) target none owner
    (fun is => absurd is waits) fun _ _ _ => trivial) fun updated => ?_
  exact returning_less (fun _ _ => trivial) fun w knows => knows.ended

theorem keeps_required :
    Keeps k runId i own (requireSink k) P f (fun _ => P) fun _ => f := by
  have ready : Keeps k runId i own (perform .sinkReady) P f (fun _ => P) fun _ => f :=
    asking rfl fun v w _ w' pre _ still => ⟨still, pre⟩
  unfold requireSink
  by_cases required : k.requireExternalAudit = true
  · rw [if_pos required]
    refine then_ ensuring fun _ => given fun _ => ?_
    refine then_ ready fun _ => ?_
    exact holding ensuring (fun _ => id) fun _ _ held => held.1
  · rw [if_neg required]
    exact returning (fun _ => id) rfl

theorem keeps_ready {c : RunCheckpoint} (owner : c.runId = runId) :
    Keeps k runId i own (runReady k runId own c) P .start (fun _ _ => True) fun _ => .none := by
  unfold runReady
  refine then_ keeps_required fun _ => ?_
  refine then_ (asking (Q := fun _ => P) rfl fun v w _ w' pre _ still => ⟨still, pre⟩)
    fun authenticated => ?_
  refine then_ (keeps_orchestrated fun real => absurd real (by decide)) fun policyReport => ?_
  refine given fun policy => ?_
  split
  · exact keeps_waiting owner (by decide)
  · refine then_ (holding (keeps_executed owner policy) (fun _ _ => trivial) fun _ _ => id)
      fun settled => ?_
    refine holding (H := fun v => v.checkpoint = some settled.2 ∧ (Settled runId own settled.2 ∧
      Returns k.orchestrator own.plan own.approvals own.dryRun settled.1)) ?_ (fun _ => id)
      fun _ _ => id
    exact given fun ⟨ends, returned⟩ => keeps_concluded ends returned

/-- Every call keeps the worlds faithful, whatever the others do. -/
theorem keeps_run_faithful (own : RunRequest) :
    Keeps k runId i own (run k runId own) (fun _ => True) .start (fun _ _ => True)
      fun _ => .none := by
  unfold run
  refine then_ ensuring fun _ => given fun _ => ?_
  refine then_ keeps_obtained fun c => ?_
  refine given fun owner => ?_
  split
  · exact keeps_waiting owner (by decide)
  · exact keeps_ready owner

/-! ## Careful runs -/

/-- Everything that is to be shown holds of a faithful world. -/
theorem Faithful.evidence (faithful : Faithful k runId w) : RunEvidence k runId w where
  stored := faithful.sound.row
  identity first begins e member := by
    have head : (w.commits.map Commit.checkpoint).head? = some first.checkpoint := by
      rw [List.head?_map, begins]
      rfl
    have ⟨planId, fingerprint, digest⟩ :=
      faithful.sound.path.identity (List.mem_map_of_mem member) head
    have here := faithful.bound first (List.mem_of_head? begins)
    exact ⟨planId.trans here.planId, fingerprint.trans here.fingerprint,
      digest.trans here.digest⟩
  path := faithful.sound.path
  final n e at_n ended := by
    have found : (w.commits.map Commit.checkpoint)[n]? = some e.checkpoint := by
      rw [List.getElem?_map, at_n]
      rfl
    have last := faithful.sound.path.final found ended
    rwa [List.length_map] at last
  terminal e member ended := by
    obtain ⟨report, receipt, proven⟩ := faithful.proven e member ended
    refine ⟨report, receipt, proven, fun real => ?_⟩
    obtain ⟨e', member', executing⟩ := faithful.executed real
    rw [(returns_report proven.returned).2.2]
    exact Bool.eq_false_iff.mpr fun dry => faithful.dry e member ended dry e' member' executing
  once := by
    rcases faithful.once with empty | ⟨_, _, _, holds, _⟩
    · rw [empty]
      exact Nat.zero_le _
    · rw [holds]
      exact Nat.le_refl _

theorem Faithful.changed (faithful : Faithful k runId w)
    (moved : Relation.ReflTransGen (Pool.change (Elsewhere runId) (Moves k runId)) w w') :
    Faithful k runId w' := by
  induction moved with
  | refl => exact faithful
  | tail _ now ih =>
    obtain elsewhere | ⟨_, moves⟩ := now
    · exact (ih.elsewhere elsewhere).1
    · exact moves.faithful ih

/-- The evidence of every careful run. -/
theorem careful_runs_evidence {w₀ : World} (start : Initial runId w₀) {t : List CallEvent}
    {p : Calls} (reached : Run (CarefulStep k runId) ⟨w₀, []⟩ t p) :
    RunEvidence k runId p.world := by
  have fresh (i : Nat) : Knows k runId i .start w₀ :=
    ⟨.initial start, fun _ x member => absurd member (by rw [start.sink]; exact List.not_mem_nil),
      fun _ => nofun, Bool.noConfusion, fun _ => nofun⟩
  have kept (i : Nat) (own : RunRequest) (w : World) (knows : Knows k runId i .start w) :
      (run k runId own .initial).keeps (Pool.rely (Elsewhere runId) (Moves k runId) i)
        (fun x w r w' => serve (Returns k.orchestrator) i own x w r w' ∧ Careful runId own x w)
        (Moves k runId i) (fun _ _ => True) w :=
    Prog.keeps_mono (keeps_run_faithful own .initial w trivial knows) fun _ _ _ => trivial
  have moved := (Pool.guaranteed kept (fun i w w' knows elapsed => knows.rely (.single elapsed))
    (.empty fresh) reached).2
  exact ((Faithful.initial start).changed moved).evidence

end

/-! ## Sample runs -/

namespace Samples

attribute [local instance] plainHost

/-- The world in which a dry call has just created the checkpoint. -/
def begun : World :=
  ((run coordinator (numbered 5) (request true) .initial).advance
    (answer 0 (request true) services) 2 fresh).2

theorem begun_careful : ∃ t p, Run (CarefulStep coordinator (numbered 5)) ⟨fresh, []⟩ t p ∧
    p.world = begun := by
  have asked : CarefulStep coordinator (numbered 5)
      ⟨fresh, [(request true, run coordinator (numbered 5) (request true) .initial)]⟩ _ _ :=
    .served (i := 0) rfl ⟨serve_answer genuine (request true) _ _, trivial⟩
  exact ⟨_, _, .cons (.started _ (request true)) (.cons asked (.cons (.served (i := 0) rfl
    ⟨serve_answer genuine (request true) _ _, careful_creation⟩) (.nil _))), rfl⟩

theorem begun_evidence : begun.checkpoints (numbered 5) = some (row .planned 0) ∧
    RunEvidence coordinator (numbered 5) begun := by
  obtain ⟨t, p, reached, there⟩ := begun_careful
  exact ⟨crashed_row, there ▸ careful_runs_evidence initial reached⟩

/-- A real call for the plan. -/
def realRequest : RunRequest := ⟨plan, [], false, true⟩

/-- The world that a call leaves when nothing interferes with it. -/
def left (i : Nat) (q : RunRequest) (w : World) : World :=
  (Prog.eval (answer i q services) (run coordinator (numbered 5) q .initial) w).2

/-- A real call whose orchestrator run has started and stopped. -/
def stopped : World := left 0 realRequest fresh

/-- A dry call after it. -/
def verified : World := left 1 (request true) stopped

theorem verified_dry : verified.realRuns = [0] ∧
    (verified.commits.map fun e => (e.checkpoint.state, e.request.dryRun)) =
      [("planned", false), ("executing", false), ("verifying", true), ("terminal", true)] := by
  decide +kernel

theorem left_reached (q : RunRequest) {p : Calls} {i : Nat} (size : p.threads.length = i) :
    ∃ t threads, Run (Step coordinator (numbered 5)) p t ⟨left i q p.world, threads⟩ ∧
      threads.length = i + 1 := by
  obtain rfl := size
  obtain ⟨t, reached⟩ := call_runs genuine q p
  exact ⟨t, _, reached, List.length_append⟩

/-- The calls are made one after the other. -/
theorem verified_reached : ∃ t threads, Run (Step coordinator (numbered 5)) ⟨fresh, []⟩ t
    ⟨verified, threads⟩ := by
  obtain ⟨t₁, threads, first, size⟩ := left_reached realRequest (p := ⟨fresh, []⟩) rfl
  obtain ⟨t₂, threads', second, _⟩ := left_reached (request true) (p := ⟨stopped, threads⟩) size
  exact ⟨_, _, first.append second⟩

/-- A dry call ends a run that has executed, with the receipt of a dry report. -/
theorem dry_resume_lies : ∃ w₀ t p, Initial (numbered 5) w₀ ∧
    Run (Step coordinator (numbered 5)) ⟨w₀, []⟩ t p ∧
      ¬RunEvidence coordinator (numbered 5) p.world := by
  obtain ⟨t, threads, reached⟩ := verified_reached
  refine ⟨fresh, t, _, initial, reached, fun evidence => ?_⟩
  obtain ⟨real, commits⟩ := verified_dry
  have ended : ("terminal", true) ∈
      verified.commits.map fun e => (e.checkpoint.state, e.request.dryRun) := by
    rw [commits]
    decide
  obtain ⟨e, member, same⟩ := List.mem_map.mp ended
  obtain ⟨state, dry⟩ := Prod.mk.inj same
  obtain ⟨report, receipt, proven, real_⟩ := evidence.terminal e member state
  have not_dry := real_ (real ▸ List.cons_ne_nil _ _)
  rw [(returns_report proven.returned).2.2, dry] at not_dry
  cases not_dry

end Samples

end MasterAgent.CapsuleRuns
