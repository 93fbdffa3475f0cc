import MasterAgent.Capsules.Coordinator

/-!
# The path of a coordinator run

What holds of the stored checkpoint in every reachable state, whatever calls are made and however
they interleave, crash or raise: the commits of a run follow the transition table.

Results:

1. `Sound.served`, `Sound.raised`: what one step preserves;
2. `reached_sound`: every reachable world is sound.
-/

namespace MasterAgent.CapsuleRuns
open Base

/-- A checkpoint written over another one. -/
structure Follows (a b : RunCheckpoint) : Prop where
  runId : b.runId = a.runId
  planId : b.planId = a.planId
  fingerprint : b.planFingerprint = a.planFingerprint
  digest : b.capsuleBindingsSha256 = a.capsuleBindingsSha256
  sequence : b.sequence = a.sequence + 1
  edge : ∃ s t : CapsuleRunState, a.state = s.str ∧ b.state = t.str ∧ t ∈ s.transitions

/-- The first checkpoint of a run. -/
structure Begins (runId : Uuid) (c : RunCheckpoint) : Prop where
  runId : c.runId = runId
  sequence : c.sequence = 0
  state : c.state = CapsuleRunState.planned.str

/-- The checkpoints of a run, in the order they were written. -/
inductive Path (runId : Uuid) : List RunCheckpoint → Prop
  | empty : Path runId []
  | created {c : RunCheckpoint} : Begins runId c → Path runId [c]
  | advanced {path : List RunCheckpoint} {a b : RunCheckpoint} :
      Path runId path → path.getLast? = some a → Follows a b → Path runId (path ++ [b])

variable {runId : Uuid}

namespace Path

/-- The checkpoints of a run are numbered from zero, and each is a checkpoint of the run in one of
its states. -/
theorem numbered {path : List RunCheckpoint} (p : Path runId path) (n : Nat) {c : RunCheckpoint}
    (found : path[n]? = some c) :
    c.sequence = n ∧ c.runId = runId ∧ ∃ s : CapsuleRunState, c.state = s.str := by
  induction p generalizing n c with
  | empty => cases found
  | created begins =>
    rw [List.getElem?_singleton] at found
    split at found
    · next zero =>
      cases found
      exact ⟨begins.sequence.trans zero.symm, begins.runId, _, begins.state⟩
    · cases found
  | @advanced path a b _ last follows ih =>
    rw [List.getElem?_append] at found
    split at found
    · exact ih n found
    · next late =>
      rw [List.getElem?_singleton] at found
      split at found
      · next here =>
        cases found
        rw [List.getLast?_eq_getElem?] at last
        obtain ⟨sequence, owner, _⟩ := ih _ last
        have inside : path.length - 1 < path.length := (List.getElem?_eq_some_iff.mp last).1
        obtain ⟨s, t, _, state, _⟩ := follows.edge
        exact ⟨by rw [follows.sequence, sequence]; omega, follows.runId.trans owner, t, state⟩
      · cases found

theorem last {path : List RunCheckpoint} (p : Path runId path) {c : RunCheckpoint}
    (found : path.getLast? = some c) :
    c.sequence + 1 = path.length ∧ c.runId = runId ∧ ∃ s : CapsuleRunState, c.state = s.str := by
  rw [List.getLast?_eq_getElem?] at found
  have inside : path.length - 1 < path.length := (List.getElem?_eq_some_iff.mp found).1
  obtain ⟨sequence, owner, state⟩ := p.numbered _ found
  exact ⟨by omega, owner, state⟩

/-- Every checkpoint after the first is written over one that it may follow. -/
theorem step {path : List RunCheckpoint} (p : Path runId path) {n : Nat} {b : RunCheckpoint}
    (found : path[n + 1]? = some b) : ∃ a, path[n]? = some a ∧ Follows a b := by
  induction p with
  | empty => cases found
  | created _ => cases found
  | @advanced path a c _ last follows ih =>
    rw [List.getElem?_append] at found
    split at found
    · next inside =>
      obtain ⟨a, before, follows⟩ := ih found
      exact ⟨a, by rw [List.getElem?_append_left (by omega)]; exact before, follows⟩
    · next late =>
      rw [List.getElem?_singleton] at found
      split at found
      · next here =>
        cases found
        rw [List.getLast?_eq_getElem?] at last
        have inside : path.length - 1 < path.length := (List.getElem?_eq_some_iff.mp last).1
        obtain rfl : n = path.length - 1 := by omega
        exact ⟨a, by rw [List.getElem?_append_left inside]; exact last, follows⟩
      · cases found

/-- A run begins planned. -/
theorem begins {path : List RunCheckpoint} (p : Path runId path) {c : RunCheckpoint}
    (found : path[0]? = some c) : c.state = CapsuleRunState.planned.str := by
  induction p with
  | empty => cases found
  | created begins =>
    cases found
    exact begins.state
  | @advanced path a b _ last _ ih =>
    have inside : 0 < path.length := by
      cases path with
      | nil => cases last
      | cons x rest => exact Nat.succ_pos _
    rw [List.getElem?_append_left inside] at found
    exact ih found

/-- Planned is never returned to. -/
theorem planned_first {path : List RunCheckpoint} (p : Path runId path) {n : Nat}
    {c : RunCheckpoint} (found : path[n]? = some c)
    (state : c.state = CapsuleRunState.planned.str) : n = 0 := by
  cases n with
  | zero => rfl
  | succ n =>
    obtain ⟨a, _, follows⟩ := p.step found
    obtain ⟨s, t, _, reached, edge⟩ := follows.edge
    rw [CapsuleRunState.str_inj (reached.symm.trans state)] at edge
    have never : ∀ s : CapsuleRunState, .planned ∉ s.transitions := by
      intro s
      cases s <;> decide
    exact absurd edge (never s)

/-- Terminal is never left. -/
theorem final {path : List RunCheckpoint} (p : Path runId path) {n : Nat} {c : RunCheckpoint}
    (found : path[n]? = some c) (state : c.state = CapsuleRunState.terminal.str) :
    n + 1 = path.length := by
  have inside : n < path.length := (List.getElem?_eq_some_iff.mp found).1
  by_contra more
  have room : n + 1 < path.length := by omega
  obtain ⟨a, before, follows⟩ := p.step (List.getElem?_eq_getElem room)
  obtain rfl := Option.some.inj (before.symm.trans found)
  obtain ⟨s, t, left, _, edge⟩ := follows.edge
  rw [CapsuleRunState.str_inj (left.symm.trans state)] at edge
  cases edge

/-- All checkpoints of a run are for the same plan and the same capsules. -/
theorem identity {path : List RunCheckpoint} (p : Path runId path) {c first : RunCheckpoint}
    (member : c ∈ path) (head : path.head? = some first) :
    c.planId = first.planId ∧ c.planFingerprint = first.planFingerprint ∧
      c.capsuleBindingsSha256 = first.capsuleBindingsSha256 := by
  induction p generalizing c with
  | empty => cases member
  | created _ =>
    cases head
    rw [List.mem_singleton.mp member]
    exact ⟨rfl, rfl, rfl⟩
  | @advanced path a b _ last follows ih =>
    have earlier : path.head? = some first := by
      cases path with
      | nil => cases last
      | cons x rest => exact head
    rcases List.mem_append.mp member with before | here
    · exact ih before earlier
    · rw [List.mem_singleton.mp here, follows.planId, follows.fingerprint, follows.digest]
      exact ih (List.mem_of_getLast? last) earlier

end Path

variable [Host]

/-- What every reachable world has. -/
structure Sound (runId : Uuid) (w : World) : Prop where
  audit : ∃ columns, w.audit = .ofColumns columns
  row : w.checkpoints runId = (w.commits.map Commit.checkpoint).getLast?
  path : Path runId (w.commits.map Commit.checkpoint)

/-- The requests that a call of `run` makes. -/
inductive Lawful (runId : Uuid) : CheckpointRequest → Prop
  | creates (plan : ChangePlan) : Lawful runId (creation runId plan)
  | advances {checkpoint : RunCheckpoint} {current target : CapsuleRunState} (plan : ChangePlan)
      (result : Option String) : checkpoint.runId = runId → target ∈ current.transitions →
      Lawful runId (advance checkpoint current target plan result)

theorem Lawful.owner {q : CheckpointRequest} (lawful : Lawful runId q) : q.runId = runId := by
  cases lawful with
  | creates plan => rfl
  | advances plan result owner edge => exact owner

/-- A call that writes a checkpoint asks for a lawful one. -/
def Asks (runId : Uuid) : CapsuleCall → Prop
  | .checkpointRun q => Lawful runId q
  | _ => True

omit [Host] in
/-- A written row extends the path. -/
theorem path_written {q : CheckpointRequest} {rows rows' : Checkpoints} {row : RunCheckpoint}
    {path : List RunCheckpoint} (p : Path runId path) [Host] (lawful : Lawful runId q)
    (stored : rows runId = path.getLast?) (written : checkpointRun q rows = .ok (row, rows')) :
    rows' runId = some row ∧ Path runId (path ++ [row]) := by
  obtain ⟨rfl, ⟨missing, expected, rfl⟩ | ⟨existing, found, same, rfl⟩⟩ := checkpointRun_ok written
  · rw [lawful.owner] at missing ⊢
    refine ⟨Function.update_self .., ?_⟩
    rw [missing] at stored
    rw [List.getLast?_eq_none_iff.mp stored.symm]
    cases lawful with
    | creates plan => exact .created ⟨rfl, rfl, rfl⟩
    | advances plan result owner edge => cases expected
  · rw [lawful.owner] at found ⊢
    refine ⟨Function.update_self .., ?_⟩
    rw [found] at stored
    refine .advanced p stored.symm ?_
    have owner := (p.last stored.symm).2.1
    cases lawful with
    | creates plan => cases same.state
    | @advances checkpoint current target plan result mine edge =>
      exact ⟨mine.trans owner.symm, same.planId.symm, same.fingerprint.symm, same.digest.symm, rfl,
        current, target, Option.some.inj same.state, rfl, edge⟩

theorem recorded_chain {calls : List RecordCall} {db db' : AuditDb}
    (chain : ∃ columns, db = .ofColumns columns) (recorded : recordAll calls db = .ok db') :
    ∃ columns, db' = .ofColumns columns := by
  obtain ⟨columns, rfl⟩ := chain
  rw [ChainLemmas.recordAll_ofColumns] at recorded
  exact ⟨_, (Except.ok.inj recorded).symm⟩

/-- One event more, and its hash is the head of the chain. -/
theorem recordEvent_chain (c : RecordCall) (columns : List AuditColumns) :
    recordEvent c (.ofColumns columns) =
      .ok (HashChain.head eventLink "GENESIS" (columns ++ [c.columns]),
        .ofColumns (columns ++ [c.columns])) := by
  unfold recordEvent
  rw [ChainLemmas.record_ofColumns]
  rfl

variable {k : CapsuleRunCoordinator} {reports : Reports} {i : Nat} {own : RunRequest}
  {v : Variables} {w w' : World}

theorem Sound.written (sound : Sound runId w) {q : CheckpointRequest} {row : RunCheckpoint}
    {rows : Checkpoints} (lawful : Lawful runId q)
    (written : checkpointRun q w.checkpoints = .ok (row, rows)) : Sound runId { w with
      checkpoints := rows
      commits := w.commits ++ [⟨i, own, row, v⟩] } := by
  obtain ⟨stored, path⟩ := path_written sound.path lawful sound.row written
  have extended : (w.commits ++ [Commit.mk i own row v]).map Commit.checkpoint =
      w.commits.map Commit.checkpoint ++ [row] := List.map_append
  refine ⟨sound.audit, stored.trans ?_, extended ▸ path⟩
  rw [extended]
  exact List.getLast?_concat.symm

/-- What a call of `run` preserves that is answered. -/
theorem Sound.served (sound : Sound runId w) {c : CapsuleCall} (asks : Asks runId c) {value : c.Value}
    (served : Served reports i own v c w value w') : Sound runId w' := by
  cases c with
  | checkpointRun q =>
    obtain ⟨rows, written, rfl⟩ := served
    exact sound.written asks written
  | record _ _ _ _ =>
    obtain ⟨now, db, recorded, rfl⟩ := served
    obtain ⟨columns, chain⟩ := sound.audit
    rw [chain, recordEvent_chain] at recorded
    cases recorded
    exact ⟨⟨_, rfl⟩, sound.row, sound.path⟩
  | orchestratorStarts _ _ dryRun =>
    obtain rfl := served
    cases dryRun
    · exact ⟨sound.audit, sound.row, sound.path⟩
    · exact sound
  | append receipt =>
    obtain rfl := served
    exact ⟨sound.audit, sound.row, sound.path⟩
  | runCheckpoint _ | orchestratorReturns _ _ _ | draw =>
    obtain ⟨_, rfl⟩ := served
    exact sound
  | sinkReady | authenticatedApprovals _ _ | emit _ =>
    obtain rfl := served
    exact sound

/-- What a call of `run` preserves that raises. -/
theorem Sound.raised (sound : Sound runId w) {c : CapsuleCall} (raised : Raised i c w w') :
    Sound runId w' := by
  obtain rfl | ⟨receipt, rfl, rfl⟩ := raised
  · exact sound
  · exact ⟨sound.audit, sound.row, sound.path⟩

theorem Sound.elsewhere (sound : Sound runId w) (moved : Elsewhere runId w w') : Sound runId w' := by
  obtain ⟨rows, calls, db, kept, recorded, rfl⟩ := moved
  exact ⟨recorded_chain sound.audit recorded, kept.trans sound.row, sound.path⟩

theorem Sound.initial (start : Initial runId w) : Sound runId w where
  audit := start.audit
  row := by rw [start.checkpoints, start.commits]; rfl
  path := by rw [start.commits]; exact .empty

/-! ## Every call asks for lawful checkpoints -/

section
variable (runId reports i own)

/-- Started in a sound world, a program keeps the worlds sound, and what it returns is as `Q` asks. -/
def KeepsSound {A : Type} (p : Coordination A) (Q : A → Prop) : Prop :=
  ∀ v w, Sound runId w →
    Proc.keeps (Pool.rely (Elsewhere runId) (fun _ w w' => Sound runId w → Sound runId w') i)
      (serve reports i own) (fun w w' => Sound runId w → Sound runId w') p
      (fun a _ w => Sound runId w ∧ Q a) (fun _ _ _ => True) v w

end

/-- What the others do keeps a world sound. -/
theorem sound_rely (sound : Sound runId w)
    (elapsed : Relation.ReflTransGen
      (Pool.rely (Elsewhere runId) (fun _ w w' => Sound runId w → Sound runId w') i) w w') :
    Sound runId w' := by
  induction elapsed with
  | refl => exact sound
  | tail _ moved ih =>
    obtain elsewhere | ⟨_, _, kept⟩ := moved
    · exact ih.elsewhere elsewhere
    · exact kept ih

namespace KeepsSound

variable {A B : Type} {Q : A → Prop}

theorem returning {a : A} (holds : Q a) : KeepsSound runId reports i own (pure a) Q :=
  fun _ _ sound => ⟨sound, holds⟩

theorem then_ {p : Coordination B} {f : B → Coordination A} {P : B → Prop}
    (first : KeepsSound runId reports i own p P) (rest : ∀ b, P b → KeepsSound runId reports i own (f b) Q) :
    KeepsSound runId reports i own (p >>= f) Q := by
  intro v w sound
  rw [Proc.keeps_bind]
  exact Proc.keeps_mono (first v w sound) (fun b v w ⟨sound, holds⟩ => rest b holds v w sound)
    fun _ _ _ _ => trivial

theorem lifting {x : Except Exn A} (holds : ∀ a, x = .ok a → Q a) :
    KeepsSound runId reports i own (Proc.lift x) Q := by
  intro v w sound
  cases x with
  | ok a => exact ⟨sound, holds a rfl⟩
  | error e => trivial

theorem modifying {f : Variables → Variables} :
    KeepsSound runId reports i own (Proc.modify f) fun _ => True :=
  fun _ _ sound => ⟨sound, trivial⟩

theorem ensuring {holds : Bool} {raised : Exn} :
    KeepsSound runId reports i own (ensure holds raised) fun _ => holds = true := by
  refine lifting fun _ passed => ?_
  cases holds
  · cases passed
  · rfl

/-- A call is made in whatever world the others left. -/
theorem performing {c : CapsuleCall} {Q : c.Value → Prop} (asks : Asks runId c)
    (answers : ∀ v w value w', Sound runId w → Served reports i own v c w value w' → Q value) :
    KeepsSound runId reports i own (perform c) Q := by
  intro v w sound
  rw [perform, Proc.keeps_bind, Proc.keeps_call]
  intro w₁ elapsed r w₂ served
  have before := sound_rely sound elapsed
  cases r with
  | ok value =>
    have after := before.served asks served
    exact ⟨fun _ => after, after, answers v w₁ value w₂ before served⟩
  | error e => exact ⟨fun _ => before.raised served, trivial⟩

/-- Nothing is asked of the answer. -/
theorem asking {c : CapsuleCall} (asks : Asks runId c) :
    KeepsSound runId reports i own (perform c) fun _ => True :=
  performing asks fun _ _ _ _ _ _ => trivial

theorem writing {q : CheckpointRequest} (lawful : Lawful runId q) :
    KeepsSound runId reports i own (perform (.checkpointRun q)) fun row => row.runId = runId := by
  refine performing lawful fun v w row w' _ served => ?_
  obtain ⟨rows, written, _⟩ := served
  obtain ⟨_, ⟨_, _, rfl⟩ | ⟨_, _, _, rfl⟩⟩ := checkpointRun_ok written <;> exact lawful.owner

end KeepsSound

open KeepsSound

theorem keeps_recordState (checkpoint : RunCheckpoint) :
    KeepsSound runId reports i own (recordState checkpoint) fun _ => True :=
  then_ (asking trivial) fun _ _ => returning trivial

theorem keeps_move {checkpoint : RunCheckpoint} (target : CapsuleRunState) (plan : ChangePlan)
    (result : Option String) (owner : checkpoint.runId = runId) :
    KeepsSound runId reports i own (move checkpoint target plan result) fun c => c.runId = runId := by
  refine then_ (P := fun c => c.runId = runId) ?_ fun updated mine =>
    then_ modifying fun _ _ => returning mine
  refine then_ (lifting (Q := fun _ => True) fun _ _ => trivial) fun current _ => ?_
  refine then_ ensuring fun _ allowed => ?_
  refine then_ (writing (.advances plan result owner (List.contains_iff_mem.mp allowed)))
    fun updated mine => ?_
  exact then_ (keeps_recordState updated) fun _ _ => returning mine

theorem keeps_obtain (plan : ChangePlan) :
    KeepsSound runId reports i own (obtainCheckpoint runId plan) fun c => c.runId = runId := by
  have loaded : KeepsSound runId reports i own (perform (.runCheckpoint runId))
      fun row : Option RunCheckpoint => ∀ c, row = some c → c.runId = runId := by
    refine performing trivial fun v w row w' sound served c found => ?_
    obtain ⟨stored, _⟩ := served
    exact (sound.path.last (sound.row.symm.trans (stored.symm.trans found))).2.1
  refine then_ loaded fun row owner => ?_
  cases row with
  | none =>
    refine then_ (writing (.creates plan)) fun checkpoint mine => ?_
    exact then_ (keeps_recordState checkpoint) fun _ _ =>
      then_ modifying fun _ _ => returning mine
  | some checkpoint =>
    refine then_ (lifting (Q := fun _ => True) fun _ _ => trivial) fun _ _ => ?_
    refine then_ ensuring fun _ _ => ?_
    exact then_ modifying fun _ _ => returning (owner checkpoint rfl)

theorem keeps_awaiting {checkpoint : RunCheckpoint} (target : CapsuleRunState) (plan : ChangePlan)
    (report : Option RunReport) (owner : checkpoint.runId = runId) :
    KeepsSound runId reports i own (awaiting runId checkpoint target plan report) fun _ => True :=
  then_ (keeps_move target plan none owner) fun _ _ => returning trivial

theorem keeps_orchestrate (q : RunRequest) (dryRun : Bool) :
    KeepsSound runId reports i own (orchestrate q dryRun) fun _ => True :=
  then_ (asking trivial) fun _ _ => asking trivial

theorem keeps_execute (q : RunRequest) {checkpoint : RunCheckpoint} (policyReport : RunReport)
    (owner : checkpoint.runId = runId) :
    KeepsSound runId reports i own (execute q checkpoint policyReport) fun settled =>
      settled.2.runId = runId := by
  unfold execute
  split
  · refine then_ modifying fun _ _ => ?_
    exact then_ (keeps_move .verifying q.plan none owner) fun _ mine => returning mine
  · refine then_ (keeps_move .executing q.plan none owner) fun _ mine => ?_
    refine then_ (keeps_orchestrate q false) fun report _ => ?_
    refine then_ modifying fun _ _ => ?_
    refine then_ (keeps_move .verifying q.plan none mine) fun _ mine => ?_
    split
    · exact then_ (keeps_move .compensating q.plan none mine) fun _ mine => returning mine
    · exact returning mine

theorem keeps_conclude (plan : ChangePlan) (authenticated : List (Approval × String))
    (report : RunReport) {checkpoint : RunCheckpoint} (owner : checkpoint.runId = runId) :
    KeepsSound runId reports i own (conclude k runId plan authenticated report checkpoint) fun _ => True := by
  refine then_ (lifting (Q := fun _ => True) fun _ _ => trivial) fun _ _ => ?_
  refine then_ (asking trivial) fun _ _ => ?_
  refine then_ (asking trivial) fun _ _ => ?_
  refine then_ (lifting (Q := fun _ => True) fun _ _ => trivial) fun receipt _ => ?_
  refine then_ modifying fun _ _ => ?_
  refine then_ (P := fun _ => True) ?_ fun _ _ => ?_
  · unfold exportReceipt
    split
    · exact returning trivial
    · refine then_ (asking trivial) fun _ _ => ?_
      refine then_ ensuring fun _ _ => ?_
      refine then_ (asking trivial) fun _ _ => ?_
      exact then_ ensuring fun _ _ => returning trivial
  · refine then_ (lifting (Q := fun _ => True) fun _ _ => trivial) fun _ _ => ?_
    refine then_ (P := fun _ => True) ?_ fun _ _ => ?_
    · unfold emitTelemetry
      by_cases telemetry : k.telemetrySink = true
      · rw [if_pos telemetry]
        exact asking trivial
      · rw [if_neg telemetry]
        exact returning trivial
    · refine then_ (keeps_move .terminal plan _ owner) fun _ _ => ?_
      exact then_ (asking trivial) fun _ _ => returning trivial

theorem keeps_run (q : RunRequest) : KeepsSound runId reports i own (run k runId q) fun _ => True := by
  refine then_ ensuring fun _ _ => ?_
  refine then_ (keeps_obtain q.plan) fun checkpoint owner => ?_
  split
  · exact keeps_awaiting .awaitingConnection q.plan none owner
  · refine then_ (P := fun _ => True) ?_ fun _ _ => ?_
    · unfold requireSink
      split
      · refine then_ ensuring fun _ _ => ?_
        exact then_ (asking trivial) fun _ _ => lifting fun _ _ => trivial
      · exact returning trivial
    · refine then_ (asking trivial) fun _ _ => ?_
      refine then_ (keeps_orchestrate q true) fun policyReport _ => ?_
      split
      · exact keeps_awaiting .awaitingApproval q.plan _ owner
      · exact then_ (keeps_execute q policyReport owner) fun settled mine =>
          keeps_conclude q.plan _ settled.1 mine

/-- Every reachable world is sound. -/
theorem reached_sound {t : List CallEvent} {p : Calls} (start : Initial runId w)
    (reached : Run (Step k runId) ⟨w, []⟩ t p) : Sound runId p.world := by
  have kept (i : Nat) (q : RunRequest) (w : World) (sound : Sound runId w) :
      (run k runId q .initial).keeps
        (Pool.rely (Elsewhere runId) (fun _ w w' => Sound runId w → Sound runId w') i)
        (serve (Returns k.orchestrator) i q) (fun w w' => Sound runId w → Sound runId w')
        (fun _ _ => True) w :=
    Prog.keeps_mono (keeps_run q .initial w sound) fun _ _ _ => trivial
  have settled := Pool.guaranteed kept (fun i w w' sound moved => sound_rely sound (.single moved))
    (.empty fun _ => .initial start) reached
  exact settled.1.fresh _ le_rfl

end MasterAgent.CapsuleRuns
