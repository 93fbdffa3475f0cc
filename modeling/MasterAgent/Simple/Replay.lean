import MasterAgent.Simple.Runs

/-!
# Interrupted writes are not replayed

What any number of instances may do to one database, in any order, with instances that stop or are
superseded at any point.

Results:

1. `Attempted.step`: every step belongs to the last `begin_step` that returned it as running, and
   what became of it is on record;
2. `Superseded.step`: an instance that another one superseded stays so until it reopens the task;
3. `interrupted_writes_not_replayed`: the guarantees of every run.
-/

namespace MasterAgent.Simple
open Base

section
variable {σ σ' : System} {e : Event} {id name : String} {t : List Event}

/-! ## Attempts -/

theorem Event.FailsCertainly.saves (h : e.FailsCertainly id name) : e.Saves id name := by
  obtain ⟨succeeded, error, asked⟩ := h
  refine ⟨succeeded, .failed, "null", some error, ?_⟩
  rw [asked]
  rfl

/-- The last attempt at a step: `x` began it, and `rest` followed. -/
structure LastAttempt (t : List Event) (id name : String) (x : Event) (rest : List Event) : Prop where
  split : ∃ before, t = before ++ x :: rest
  begins : x.Begins id name
  last : ∀ y ∈ rest, ¬y.Begins id name

/-- What is on record of a step. -/
structure OnRecord (σ : System) (t : List Event) (id name : String) (step : Simple.Step) (x : Event)
    (rest : List Event) : Prop extends LastAttempt t id name x rest where
  /-- A running step carries the claim of its last attempt, which only the instance that made the
  attempt holds, and which was not saved. -/
  running : step.status = .running → step.claim = some x.fresh ∧
    (∀ w id' name', (σ.workers w).claims id' name' = some x.fresh → w = x.worker) ∧
    ∀ y ∈ rest, ¬y.Saves id name
  /-- A failed write was reported as failed by the instance, or may be retried. -/
  failed : step.status = .failed → step.isWrite = true →
    ∃ y ∈ rest, y.Retries id name ∨ y.FailsCertainly id name ∧ y.worker = x.worker

structure Attempted (t : List Event) (σ : System) : Prop where
  valid : σ.Valid
  attempts : ∀ id name step, σ.step id name = some step → ∃ x rest, OnRecord σ t id name step x rest

theorem LastAttempt.snoc {x : Event} {rest : List Event} (h : LastAttempt t id name x rest)
    (quiet : ¬e.Begins id name) : LastAttempt (t ++ [e]) id name x (rest ++ [e]) where
  split := by
    obtain ⟨before, rfl⟩ := h.split
    exact ⟨before, by simp⟩
  begins := h.begins
  last y member := by
    rcases List.mem_append.mp member with old | new
    · exact h.last y old
    · exact List.mem_singleton.mp new ▸ quiet

theorem Attempted.step (h : Attempted t σ) (moves : σ.Step e σ') : Attempted (t ++ [e]) σ' where
  valid := h.valid.step moves
  attempts id name step found := by
    have moved := step_moved h.valid moves id name
    rw [found] at moved
    generalize before : σ.step id name = old at moved
    cases moved with
    | kept quiet unsaved =>
        obtain ⟨x, rest, record⟩ := h.attempts id name step before
        refine ⟨x, rest ++ [e], { toLastAttempt := record.snoc quiet, running := ?_, failed := ?_ }⟩
        · intro running
          obtain ⟨claimed, holder, unsaved_before⟩ := record.running running
          refine ⟨claimed, fun w id' name' held => ?_, fun y member => ?_⟩
          · rcases moves.claims held with held | ⟨-, drawn⟩
            · exact holder w id' name' held
            · exact absurd (drawn ▸ h.valid.rows _ _ _ _ before claimed) moves.1
          · rcases List.mem_append.mp member with old | new
            · exact unsaved_before y old
            · exact List.mem_singleton.mp new ▸ unsaved
        · intro failed write
          obtain ⟨y, member, released⟩ := record.failed failed write
          exact ⟨y, List.mem_append_left _ member, released⟩
    | begun begins free asked claimed running =>
        refine ⟨e, [], { split := ⟨t, rfl⟩, begins := begins, last := ?_, running := ?_, failed := ?_ }⟩
        · exact fun y member => absurd member List.not_mem_nil
        · refine fun _ => ⟨claimed, fun w id' name' held => ?_, fun y member =>
            absurd member List.not_mem_nil⟩
          rcases moves.claims held with old | ⟨mine, -⟩
          · exact absurd (h.valid.claims _ _ _ _ old) moves.1
          · exact mine
        · exact fun failed => absurd (running.symm.trans failed) nofun
    | @ended before_step _ quiet unfinished stopped unclaimed same failed saved =>
        obtain ⟨x, rest, record⟩ := h.attempts id name before_step before
        refine ⟨x, rest ++ [e], { toLastAttempt := record.snoc quiet, running := ?_, failed := ?_ }⟩
        · exact fun running => absurd running stopped
        · intro now write
          refine ⟨e, by simp, (failed now (same ▸ write)).imp_right fun certain => ⟨certain, ?_⟩⟩
          obtain ⟨running, mine, -⟩ := saved certain.saves
          obtain ⟨claimed, holder, -⟩ := record.running running
          exact holder _ _ _ (mine.symm.trans claimed)

theorem Attempted.run (h : Run System.Step System.initial t σ) : Attempted t σ := by
  have start : Attempted [] System.initial := ⟨System.Valid.initial, nofun⟩
  simpa using h.history (fun _ _ _ _ before moves => before.step moves) start

/-- The last attempt is the only one with its property. -/
theorem LastAttempt.unique {x y : Event} {rest rest' : List Event}
    (h : LastAttempt t id name x rest) (g : LastAttempt t id name y rest') :
    x = y ∧ rest = rest' := by
  obtain ⟨before, rfl⟩ := h.split
  obtain ⟨before', same⟩ := g.split
  rcases List.append_eq_append_iff.mp same with ⟨more, -, tail⟩ | ⟨more, -, tail⟩
  · cases more with
    | nil => exact List.cons.inj tail
    | cons z more =>
        obtain ⟨rfl, rfl⟩ := List.cons.inj tail
        exact absurd g.begins (h.last y (by simp))
  · cases more with
    | nil =>
        obtain ⟨rfl, rfl⟩ := List.cons.inj tail
        exact ⟨rfl, rfl⟩
    | cons z more =>
        obtain ⟨rfl, rfl⟩ := List.cons.inj tail
        exact absurd h.begins (g.last x (by simp))

/-! ## What is final -/

/-- A completed step is not touched again. -/
theorem System.Valid.completed_step (valid : σ.Valid) (h : σ.Step e σ') {step : Simple.Step}
    (found : σ.step id name = some step) (completed : step.status = .completed) :
    σ'.step id name = some step ∧ ¬e.Begins id name := by
  have moved := step_moved valid h id name
  rw [found] at moved
  generalize after : σ'.step id name = new at moved
  cases moved with
  | kept quiet => exact ⟨rfl, quiet⟩
  | begun begins free =>
      obtain ⟨-, failed | ⟨-, unfinished⟩⟩ := free step rfl
      · exact absurd (completed.symm.trans failed) nofun
      · exact absurd completed unfinished
  | ended quiet unfinished =>
      obtain running | ⟨-, uncertain⟩ := unfinished
      · exact absurd (completed.symm.trans running) nofun
      · exact absurd (completed.symm.trans uncertain) nofun

/-- A completed task is not touched again. -/
theorem System.Valid.completed_task (valid : σ.Valid) (h : σ.Step e σ') {task : Task}
    (found : σ.db id = some task) (completed : task.status = .completed) :
    σ'.db id = some task := by
  have fits := valid.tasks id task found
  -- an operation on the task itself would find it running, or a write interrupted
  have write {taskId : String} {row row' : Task} (at_id : σ.db taskId = some row)
      (open_ : id = taskId → row = task → False) :
      Function.update σ.db taskId (some row') id = some task := by
    have other : id ≠ taskId := by
      rintro rfl
      exact open_ rfl (Option.some.inj (at_id.symm.trans found))
    rw [Function.update_of_ne other, found]
  have running {taskId : String} {row : Task} {store : TaskStore}
      (active : store.Active σ.db taskId row) : id = taskId → row = task → False := by
    rintro - rfl
    exact absurd (active.running.symm.trans completed) nofun
  have interrupted_one {target : String} {row : Task}
      (one : row.steps.countP (interrupted target) = 1) {taskId : String} :
      id = taskId → row = task → False := by
    rintro - rfl
    obtain ⟨step, member, hit⟩ := List.countP_pos_iff.mp (one ▸ Nat.one_pos)
    rw [fits.uninterrupted completed step member] at hit
    cases hit
  rcases h.cases with ⟨value, self, -, effect, -⟩ | ⟨raised, self, -, same, -⟩
  · generalize σ'.db = db' at effect
    generalize e.op = op at effect
    cases effect with
    | create =>
        have other : id ≠ e.fresh := by
          rintro rfl
          cases (valid.drawn h).symm.trans found
        rw [Function.update_of_ne other, found]
    | insert active | again active => exact write active.found (running active)
    | checkpoint => exact found
    | save _ active | saveTask _ active => exact write active.found (running active)
    | cancel at_id unfinished | resume at_id unfinished =>
        exact write at_id fun _ same => unfinished (same ▸ completed)
    | resolve at_id one | retry at_id one => exact write at_id (interrupted_one one)
  · rw [same, found]

/-! ## Superseded instances -/

/-- The operations of an instance that works on a task. -/
def TaskStore.Op.acts : TaskStore.Op → Option String
  | .beginStep taskId _ _ | .completeStep taskId _ _ | .failStep taskId _ _ _ => some taskId
  | .finish taskId _ | .wait taskId _ | .fail taskId _ _ => some taskId
  | _ => none

namespace Event

/-- The instance began to work on a task. -/
def Opens (id : String) (e : Event) : Prop :=
  (e.Succeeds ∧ ∃ name isWrite, e.op = .beginStep id name isWrite) ∨
    e.answer = .ok (.created id)

/-- A task was cancelled, resumed or retried. -/
def Supersedes (id : String) (e : Event) : Prop :=
  e.Succeeds ∧ (e.op = .cancel id ∨ e.op = .resume id ∨ ∃ name, e.op = .retryStep id name)

/-- The instance took a task over. -/
def Reopens (id : String) (e : Event) : Prop :=
  e.Succeeds ∧ (e.op = .resume id ∨ ∃ name, e.op = .retryStep id name)

end Event

/-- An instance remembers an older generation of a task. -/
def Superseded (w : Nat) (id : String) (σ : System) : Prop :=
  ∃ generation task, (σ.workers w).generations id = some generation ∧ σ.db id = some task ∧
    generation < task.generation

/-- A superseded instance cannot work on the task. -/
theorem Superseded.inactive {w : Nat} (h : Superseded w id σ) {task : Task}
    (active : (σ.workers w).Active σ.db id task) : False := by
  obtain ⟨generation, task', known, found, older⟩ := h
  obtain rfl := Option.some.inj (found.symm.trans active.found)
  exact absurd (active.current generation known) older.ne

section
variable {fresh : String} {store self' : TaskStore} {db db' : Database} {op : TaskStore.Op}
  {value : TaskStore.Value}

theorem TaskStore.Op.acts_of_saves {taskId encoded : String} {status : StepStatus}
    {error : Option String} (of : op.saves = some (taskId, name, status, encoded, error)) :
    op.acts = some taskId := by
  unfold TaskStore.Op.saves at of
  split at of
  · cases of
    rfl
  · cases of
    rfl
  · cases of

theorem TaskStore.Op.acts_of_savesTask {taskId : String} (of : op.savesTask = some taskId) :
    op.acts = some taskId := by
  cases op with
  | finish | wait | fail => exact of
  | _ => cases of

/-- An instance works on tasks that are active for it. -/
theorem TaskStore.Effect.active (h : TaskStore.Effect fresh store db op value self' db')
    (acts : op.acts = some id) : ∃ task, store.Active db id task := by
  have same {taskId : String} {task : Task} (about : op.acts = some taskId)
      (active : store.Active db taskId task) : ∃ task, store.Active db id task := by
    obtain rfl := Option.some.inj (about.symm.trans acts)
    exact ⟨task, active⟩
  cases h with
  | create | cancel | resume | resolve | retry => cases acts
  | insert active | again active | checkpoint active => exact same rfl active
  | save of active => exact same (TaskStore.Op.acts_of_saves of) active
  | saveTask of active => exact same (TaskStore.Op.acts_of_savesTask of) active

/-- Noting a generation forgets no other. -/
theorem note_knows {generations : String → Option Nat} (known : generations id ≠ none)
    (taskId : String) (noted : Nat) :
    Function.update generations taskId (some noted) id ≠ none := by
  by_cases mine : id = taskId
  · subst mine
    rw [Function.update_self]
    exact Option.some_ne_none _
  · rwa [Function.update_of_ne mine]

/-- What an instance remembers of a task is not forgotten. -/
theorem TaskStore.Effect.knows (h : TaskStore.Effect fresh store db op value self' db')
    (known : store.generations id ≠ none) : self'.generations id ≠ none := by
  cases h with
  | create | insert | again | checkpoint | resume | retry => exact note_knows known _ _
  | save | saveTask | cancel | resolve => exact known

/-- Only taking a task over changes what a superseded instance remembers of it. -/
theorem TaskStore.Effect.remains (h : TaskStore.Effect fresh store db op value self' db')
    (inactive : ∀ task, ¬store.Active db id task) (other : id ≠ fresh)
    (keeps : ¬(op = .resume id ∨ ∃ name, op = .retryStep id name)) :
    self'.generations id = store.generations id := by
  have note {taskId : String} (ne : id ≠ taskId) (noted : Nat) :
      Function.update store.generations taskId (some noted) id = store.generations id :=
    Function.update_of_ne ne _ _
  have elsewhere {taskId : String} {task : Task} (active : store.Active db taskId task) :
      id ≠ taskId := by
    rintro rfl
    exact inactive task active
  cases h with
  | create => exact note other _
  | insert active | again active | checkpoint active => exact note (elsewhere active) _
  | resume => exact note (fun same => keeps (.inl (by rw [same]))) _
  | retry => exact note (fun same => keeps (.inr ⟨_, by rw [same]⟩)) _
  | save | saveTask | cancel | resolve => rfl

/-- Cancelling, resuming or retrying begins a new generation of the task. -/
theorem TaskStore.Effect.supersedes (h : TaskStore.Effect fresh store db op value self' db')
    (asked : op = .cancel id ∨ op = .resume id ∨ ∃ name, op = .retryStep id name) :
    ∃ task task', db id = some task ∧ db' id = some task' ∧
      task'.generation = task.generation + 1 := by
  rcases asked with rfl | rfl | ⟨name, rfl⟩
  · cases h with
    | save of | saveTask of => cases of
    | cancel found => exact ⟨_, _, found, Function.update_self _ _ _, rfl⟩
  · cases h with
    | save of | saveTask of => cases of
    | resume found => exact ⟨_, _, found, Function.update_self _ _ _, rfl⟩
  · cases h with
    | save of | saveTask of => cases of
    | retry found => exact ⟨_, _, found, Function.update_self _ _ _, rfl⟩

end

/-- An instance is superseded when another one begins a new generation of a task it works on. -/
theorem Superseded.begin (valid : σ.Valid) (h : σ.Step e σ') {w : Nat} (other : e.worker ≠ w)
    (known : (σ.workers w).generations id ≠ none) (supersedes : e.Supersedes id) :
    Superseded w id σ' := by
  obtain ⟨generation, at_w⟩ := Option.ne_none_iff_exists'.mp known
  obtain ⟨⟨value, answer⟩, asked⟩ := supersedes
  rcases h.cases with ⟨value', self, -, effect, workers⟩ | ⟨raised, self, failed, -⟩
  · obtain ⟨task, task', found, found', next⟩ := effect.supersedes asked
    obtain ⟨old, at_id, earlier⟩ := valid.generations w id generation at_w
    obtain rfl := Option.some.inj (found.symm.trans at_id)
    refine ⟨generation, task', ?_, found', next ▸ Nat.lt_succ_of_le earlier⟩
    rw [workers, Function.update_of_ne other.symm, at_w]
  · cases answer.symm.trans failed

/-- A superseded instance stays so until it takes the task over. -/
theorem Superseded.step (valid : σ.Valid) (h : σ.Step e σ') {w : Nat} (superseded : Superseded w id σ)
    (keeps : e.worker = w → ¬e.Reopens id) : Superseded w id σ' := by
  obtain ⟨generation, task, known, found, older⟩ := superseded
  obtain ⟨task', found', later⟩ := valid.generation h found
  refine ⟨generation, task', ?_, found', older.trans_le later⟩
  have inactive (row : Task) : ¬(σ.workers w).Active σ.db id row := fun active =>
    Superseded.inactive ⟨generation, task, known, found, older⟩ active
  rw [← known]
  rcases h.cases with ⟨value, self, answer, effect, workers⟩ | ⟨raised, self, -, -, workers, noted⟩
  · rw [workers]
    by_cases mine : w = e.worker
    · subst mine
      rw [Function.update_self]
      refine effect.remains inactive ?_ fun asked => keeps rfl ⟨⟨value, answer⟩, asked⟩
      rintro rfl
      cases (valid.drawn h).symm.trans found
    · rw [Function.update_of_ne mine]
  · rw [workers]
    by_cases mine : w = e.worker
    · subst mine
      rw [Function.update_self]
      obtain rfl | ⟨taskId, row, active, rfl⟩ := noted
      · rfl
      · have ne : id ≠ taskId := by
          rintro rfl
          exact inactive row active
        exact Function.update_of_ne ne _ _
    · rw [Function.update_of_ne mine]

/-- What an instance remembers of a task is not forgotten. -/
theorem System.Step.knows (h : σ.Step e σ') {w : Nat}
    (known : (σ.workers w).generations id ≠ none) : (σ'.workers w).generations id ≠ none := by
  rcases h.cases with ⟨value, self, -, effect, workers⟩ | ⟨raised, self, -, -, workers, noted⟩
  · rw [workers]
    by_cases mine : w = e.worker
    · subst mine
      rw [Function.update_self]
      exact effect.knows known
    · rwa [Function.update_of_ne mine]
  · rw [workers]
    by_cases mine : w = e.worker
    · subst mine
      rw [Function.update_self]
      obtain rfl | ⟨taskId, row, active, rfl⟩ := noted
      · exact known
      · exact note_knows known taskId row.generation
    · rwa [Function.update_of_ne mine]

/-- An instance remembers the generation of a task it began to work on. -/
theorem System.Step.opens (h : σ.Step e σ') (opens : e.Opens id) :
    (σ'.workers e.worker).generations id ≠ none := by
  rcases h.cases with ⟨value, self, answer, effect, workers⟩ | ⟨raised, self, failed, -⟩
  · rw [workers, Function.update_self]
    have noted (generations : String → Option Nat) (generation : Nat) :
        Function.update generations id (some generation) id ≠ none := by
      rw [Function.update_self]
      exact Option.some_ne_none _
    rcases opens with ⟨-, name, isWrite, asked⟩ | created
    · rw [asked] at effect
      generalize σ'.db = db' at effect
      cases effect with
      | insert | again | checkpoint => exact noted _ _
      | save of | saveTask of => cases of
    · obtain rfl := Except.ok.inj (created.symm.trans answer)
      generalize σ'.db = db' at effect
      generalize e.op = op at effect
      cases effect with
      | create => exact noted _ _
  · rcases opens with ⟨⟨value, answer⟩, -⟩ | answer
    · cases answer.symm.trans failed
    · cases answer.symm.trans failed

/-! ## Every run -/

/-- What a run guarantees. -/
structure NotReplayed (t : List Event) (σ : System) : Prop where
  /-- Between two attempts at a write, it was confirmed that the first one was not applied. -/
  replays : ∀ before e between e' after id name, t = before ++ e :: (between ++ e' :: after) →
    e.Begins id name → e'.Begins id name → e.op = .beginStep id name true →
    ∃ y ∈ between, y.Retries id name ∨ y.FailsCertainly id name ∧ y.worker = e.worker
  /-- An attempt is saved once, by the instance that made it. -/
  saves : ∀ before e after id name, t = before ++ e :: after → e.Saves id name →
    ∃ x rest, LastAttempt before id name x rest ∧ x.worker = e.worker ∧
      ∀ y ∈ rest, ¬y.Saves id name
  /-- What is completed stays as it is, and is not begun again. -/
  final : ∀ u σ', Run System.Step σ u σ' → (∀ id name step, σ.step id name = some step →
      step.status = .completed → σ'.step id name = some step ∧ ∀ e ∈ u, ¬e.Begins id name) ∧
    ∀ id task, σ.db id = some task → task.status = .completed → σ'.db id = some task
  /-- Claims, positions and the steps of completed tasks. -/
  tasks : ∀ id task, σ.db id = some task → task.Valid
  /-- A superseded instance can do no more work on a task until it takes it over. -/
  superseded : ∀ before e between e' after id y, t = before ++ e :: (between ++ e' :: after) →
    y ∈ before → y.Opens id → e.Supersedes id → e.worker ≠ y.worker →
    (∀ z ∈ between, z.worker = y.worker → ¬z.Reopens id) →
    e'.worker = y.worker → e'.op.acts = some id → ¬e'.Succeeds

/-- A completed step stays as it is over any run. -/
theorem completed_step_stays {u : List Event} (later : Run System.Step σ u σ') (valid : σ.Valid)
    {step : Simple.Step} (found : σ.step id name = some step) (completed : step.status = .completed) :
    σ'.step id name = some step ∧ ∀ e ∈ u, ¬e.Begins id name := by
  induction later with
  | nil _ => exact ⟨found, fun e member => absurd member List.not_mem_nil⟩
  | cons now _ ih =>
      obtain ⟨kept, quiet⟩ := valid.completed_step now found completed
      obtain ⟨stays, none⟩ := ih (valid.step now) kept
      refine ⟨stays, fun e member => ?_⟩
      rcases List.mem_cons.mp member with rfl | rest
      · exact quiet
      · exact none e rest

/-- A step that exists keeps its write classification. -/
theorem System.Valid.classified (valid : σ.Valid) (h : σ.Step e σ') {isWrite : Bool}
    (found : ∃ step, σ.step id name = some step ∧ step.isWrite = isWrite) :
    ∃ step, σ'.step id name = some step ∧ step.isWrite = isWrite := by
  obtain ⟨step, at_name, classified⟩ := found
  have moved := step_moved valid h id name
  rw [at_name] at moved
  generalize σ'.step id name = new at moved
  cases moved with
  | kept => exact ⟨step, rfl, classified⟩
  | begun _ free => exact ⟨_, rfl, (free step rfl).1.symm.trans classified⟩
  | ended _ _ _ _ same => exact ⟨_, rfl, same.trans classified⟩

/-- An event that begins a step leaves it classified as it asked. -/
theorem System.Valid.begun (valid : σ.Valid) (h : σ.Step e σ') {isWrite : Bool}
    (begins : e.Begins id name) (asked : e.op = .beginStep id name isWrite) :
    ∃ step, σ'.step id name = some step ∧ step.isWrite = isWrite := by
  have moved := step_moved valid h id name
  generalize σ.step id name = old at moved
  generalize σ'.step id name = new at moved
  cases moved with
  | kept quiet => exact absurd begins quiet
  | begun _ _ asked' =>
      rw [asked] at asked'
      cases asked'
      exact ⟨_, rfl, rfl⟩
  | ended quiet => exact absurd begins quiet

/-- A write that is begun again failed before. -/
theorem System.Valid.begins_failed (valid : σ.Valid) (h : σ.Step e σ') (begins : e.Begins id name)
    {step : Simple.Step} (found : σ.step id name = some step) (write : step.isWrite = true) :
    step.status = .failed := by
  have moved := step_moved valid h id name
  rw [found] at moved
  generalize σ'.step id name = new at moved
  cases moved with
  | kept quiet => exact absurd begins quiet
  | begun _ free =>
      rcases (free step rfl).2 with failed | ⟨read, -⟩
      · exact failed
      · rw [write] at read
        cases read
  | ended quiet => exact absurd begins quiet

/-- In every run of any number of instances, interrupted writes are not replayed. -/
theorem interrupted_writes_not_replayed (h : Run System.Step System.initial t σ) :
    NotReplayed t σ where
  replays := by
    rintro before e between e' after id name rfl begins begins' asked
    -- the first attempt after `e`
    obtain ⟨middle, e₁, rest, split, begins₁, none, inside⟩ := exists_first begins' between after
    rw [split] at h
    obtain ⟨a, b, prior, now, later⟩ := h.split
    obtain ⟨c, d, during, again, -⟩ := later.split
    have attempted := Attempted.run (prior.append (Run.cons now during))
    have valid_b := (Attempted.run prior).valid.step now
    obtain ⟨step, found, write⟩ := during.invariant
      (I := fun σ => σ.Valid ∧ ∃ step, σ.step id name = some step ∧ step.isWrite = true)
      (fun _ _ _ both moves => ⟨both.1.step moves, both.1.classified moves both.2⟩)
      ⟨valid_b, (Attempted.run prior).valid.begun now begins asked⟩ |>.2
    have failed := attempted.valid.begins_failed again begins₁ found write
    obtain ⟨x, after_x, record⟩ := attempted.attempts id name step found
    obtain ⟨rfl, rfl⟩ := record.unique ⟨⟨before, rfl⟩, begins, none⟩
    obtain ⟨y, member, released⟩ := record.failed failed write
    exact ⟨y, inside member, released⟩
  saves := by
    rintro before e after id name rfl saves
    obtain ⟨a, b, prior, now, -⟩ := h.split
    have attempted := Attempted.run prior
    have moved := step_moved attempted.valid now id name
    generalize found : a.step id name = old at moved
    generalize b.step id name = new at moved
    cases moved with
    | kept _ unsaved => exact absurd saves unsaved
    | begun _ _ asked =>
        obtain ⟨-, status, encoded, error, of⟩ := saves
        rw [asked] at of
        cases of
    | ended _ _ _ _ _ _ saved =>
        obtain ⟨running, mine, -⟩ := saved saves
        obtain ⟨x, rest, record⟩ := attempted.attempts id name _ found
        obtain ⟨claimed, holder, unsaved⟩ := record.running running
        exact ⟨x, rest, record.toLastAttempt, (holder _ _ _ (mine.symm.trans claimed)).symm, unsaved⟩
  final u σ' later := by
    have valid := (Attempted.run h).valid
    refine ⟨fun id name step found completed => completed_step_stays later valid found completed,
      fun id task found completed => ?_⟩
    exact (later.invariant (I := fun σ => σ.Valid ∧ σ.db id = some task)
      (fun _ _ _ both moves => ⟨both.1.step moves, both.1.completed_task moves both.2 completed⟩)
      ⟨valid, found⟩).2
  tasks := (Attempted.run h).valid.tasks
  superseded := by
    rintro before e between e' after id y rfl member opens supersedes other kept mine acts
      ⟨value, answer⟩
    obtain ⟨a, b, prior, now, later⟩ := h.split
    obtain ⟨c, d, during, acted, -⟩ := later.split
    have valid_a := (Attempted.run prior).valid
    -- the instance remembers the task since it opened it
    have known : (a.workers y.worker).generations id ≠ none := by
      obtain ⟨earlier, since, rfl⟩ := List.append_of_mem member
      obtain ⟨_, _, -, opened, rest⟩ := prior.split
      exact rest.invariant (I := fun σ => (σ.workers y.worker).generations id ≠ none)
        (fun _ _ _ known moves => moves.knows known) (opened.opens opens)
    have superseded : c.Valid ∧ Superseded y.worker id c := during.preserves
      (I := fun σ => σ.Valid ∧ Superseded y.worker id σ)
      (fun _ z listed _ both moves => ⟨both.1.step moves,
        Superseded.step both.1 moves both.2 (kept z listed)⟩)
      ⟨valid_a.step now, Superseded.begin valid_a now other known supersedes⟩
    rcases acted.cases with ⟨value', self, -, effect, -⟩ | ⟨raised, self, failed, -⟩
    · obtain ⟨task, active⟩ := effect.active acts
      exact superseded.2.inactive (mine ▸ active)
    · cases answer.symm.trans failed

end

/-- A write is begun, another instance cancels the task, and the first one resolves the write. -/
def resolvedAfterCancel : List (Nat × TaskStore.Op × String) :=
  [(0, .create "review" (.ok "null"), "t"), (0, .beginStep "t" "post" true, "c"),
    (1, .cancel "t", "u"), (0, .resolveStep "t" "post" (.ok "17"), "v")]

theorem resolvedAfterCancel_run : Run System.Step System.initial
    (System.initial.drive resolvedAfterCancel).1 (System.initial.drive resolvedAfterCancel).2 :=
  System.run_drive (by decide) fun _ _ => List.not_mem_nil

theorem resolved_not_replayed : ∃ t σ, t.length = 4 ∧ NotReplayed t σ :=
  ⟨_, _, by decide +kernel, interrupted_writes_not_replayed resolvedAfterCancel_run⟩

/-- An instance whose task another one cancelled saves a result without taking the task over. -/
theorem superseded_instance_resolves : ∃ opens begins cancels resolves σ,
    Run System.Step System.initial [opens, begins, cancels, resolves] σ ∧
    opens.Opens "t" ∧ cancels.Supersedes "t" ∧ cancels.worker ≠ opens.worker ∧
    resolves.worker = opens.worker ∧ resolves.Succeeds ∧
    resolves.op = .resolveStep "t" "post" (.ok "17") ∧
    (σ.step "t" "post").map Step.result = some (some "17") := by
  have events : (System.initial.drive resolvedAfterCancel).1 =
      [⟨0, .create "review" (.ok "null"), "t", .ok (.created "t")⟩,
        ⟨0, .beginStep "t" "post" true, "c",
          .ok (.begun ⟨"post", 0, true, .running, none, none, 1, some "c"⟩)⟩,
        ⟨1, .cancel "t", "u", .ok .nothing⟩,
        ⟨0, .resolveStep "t" "post" (.ok "17"), "v", .ok .nothing⟩] := by decide +kernel
  have saved : ((System.initial.drive resolvedAfterCancel).2.step "t" "post").map Step.result =
      some (some "17") := by decide +kernel
  have run := resolvedAfterCancel_run
  rw [events] at run
  exact ⟨_, _, _, _, _, run, .inr rfl, ⟨⟨_, rfl⟩, .inl rfl⟩, Nat.one_ne_zero, rfl, ⟨_, rfl⟩, rfl,
    saved⟩

end MasterAgent.Simple
