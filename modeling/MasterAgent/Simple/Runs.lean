import MasterAgent.Base.Transition
import MasterAgent.Simple.State

/-!
# Instances on one database

Any number of instances of a `TaskStore` act on one database, each operation in a transaction of
its own. An instance that stops has no more events; one that is opened is an instance that had none.

Results:

1. `System.Valid.step`: what every operation keeps of the tables and of what instances remember;
2. `step_moved`: what an event does to the step under one name.
-/

namespace MasterAgent.Simple
open Base

structure System where
  db : Database
  workers : Nat → TaskStore
  /-- The UUIDs drawn so far. -/
  issued : List String

/-- An empty database. -/
def System.initial : System := ⟨fun _ => none, fun _ => .fresh, []⟩

/-- An operation of an instance, the UUID it drew and what it answered. -/
structure Event where
  worker : Nat
  op : TaskStore.Op
  fresh : String
  answer : Except Exn TaskStore.Value
deriving DecidableEq

/-- One operation of one instance. A UUID is never drawn twice. -/
def System.Step (σ : System) (e : Event) (σ' : System) : Prop :=
  e.fresh ∉ σ.issued ∧ ∃ self db,
    TaskStore.perform e.fresh e.op (σ.workers e.worker) σ.db = (e.answer, self, db) ∧
    σ' = ⟨db, Function.update σ.workers e.worker self, e.fresh :: σ.issued⟩

/-- The operations of some instances in turn, each with the UUID it draws. -/
def System.drive (σ : System) : List (Nat × TaskStore.Op × String) → List Event × System
  | [] => ([], σ)
  | (worker, op, fresh) :: rest =>
      let (answer, self, db) := TaskStore.perform fresh op (σ.workers worker) σ.db
      let next := System.drive
        ⟨db, Function.update σ.workers worker self, fresh :: σ.issued⟩ rest
      (⟨worker, op, fresh, answer⟩ :: next.1, next.2)

/-- The step of a task under a name. -/
def System.step (σ : System) (taskId name : String) : Option Simple.Step :=
  (σ.db taskId).bind (·.step name)

theorem System.run_drive : ∀ {script : List (Nat × TaskStore.Op × String)} {σ : System},
    (script.map (·.2.2)).Nodup → (∀ entry ∈ script, entry.2.2 ∉ σ.issued) →
    Run System.Step σ (σ.drive script).1 (σ.drive script).2
  | [], σ, _, _ => .nil σ
  | (worker, op, fresh) :: rest, σ, nodup, drawn => by
      rw [List.map_cons, List.nodup_cons] at nodup
      refine .cons ⟨drawn _ List.mem_cons_self, _, _, rfl, rfl⟩
        (System.run_drive nodup.2 fun entry member issued => ?_)
      rcases List.mem_cons.mp issued with same | old
      · exact nodup.1 (List.mem_map.mpr ⟨entry, member, same⟩)
      · exact drawn entry (List.mem_cons_of_mem _ member) old

/-! ## Events -/

namespace Event

/-- The operation returned. -/
def Succeeds (e : Event) : Prop := ∃ value, e.answer = .ok value

/-- `begin_step` returned the step as running. -/
def Begins (taskId name : String) (e : Event) : Prop :=
  ∃ isWrite row, e.op = .beginStep taskId name isWrite ∧ e.answer = .ok (.begun row) ∧
    row.status = .running

/-- `complete_step` or `fail_step` saved the outcome of an attempt. -/
def Saves (taskId name : String) (e : Event) : Prop :=
  e.Succeeds ∧ ∃ status encoded error, e.op.saves = some (taskId, name, status, encoded, error)

/-- `fail_step` saved a failure that is certain. -/
def FailsCertainly (taskId name : String) (e : Event) : Prop :=
  e.Succeeds ∧ ∃ error, e.op = .failStep taskId name error false

/-- `retry_step` confirmed that a write was not applied. -/
def Retries (taskId name : String) (e : Event) : Prop :=
  e.Succeeds ∧ e.op = .retryStep taskId name

end Event

/-- The step an operation is about. -/
def TaskStore.Op.key : TaskStore.Op → Option (String × String)
  | .beginStep taskId name _ | .completeStep taskId name _ => some (taskId, name)
  | .failStep taskId name _ _ | .resolveStep taskId name _ => some (taskId, name)
  | .retryStep taskId name => some (taskId, name)
  | _ => none

theorem TaskStore.Op.key_of_saves {op : TaskStore.Op} {taskId name encoded : String}
    {status : StepStatus} {error : Option String}
    (h : op.saves = some (taskId, name, status, encoded, error)) : op.key = some (taskId, name) := by
  unfold TaskStore.Op.saves at h
  split at h
  · cases h
    rfl
  · cases h
    rfl
  · cases h

/-! ## What is kept -/

/-- The rows of a task are numbered in order, a step has a claim exactly when it is running, and a
completed task has completed steps only. -/
structure Task.Valid (task : Task) : Prop where
  names : (task.steps.map Step.name).Nodup
  positions : task.steps.map Step.position = List.range task.steps.length
  claimed : ∀ step ∈ task.steps, step.claim.isSome = true ↔ step.status = .running
  done : task.status = .completed → ∀ step ∈ task.steps, step.status = .completed

/-- An update that keeps names and positions keeps a task valid. -/
theorem Task.Valid.update {task : Task} (h : task.Valid) {rows : Step → Bool} {set : Step → Step}
    (named : ∀ step, (set step).name = step.name)
    (placed : ∀ step, (set step).position = step.position)
    (claimed : ∀ step, (set step).claim.isSome = true ↔ (set step).status = .running)
    (done : task.status = .completed → ∀ step ∈ task.steps, rows step = false) :
    (task.update rows set).Valid where
  names := by
    have same : (Step.name ∘ fun step => if rows step then set step else step) = Step.name := by
      funext step
      rw [Function.comp_apply]
      split
      · exact named step
      · rfl
    unfold Task.update
    rw [List.map_map, same]
    exact h.names
  positions := by
    have same : (Step.position ∘ fun step => if rows step then set step else step) =
        Step.position := by
      funext step
      rw [Function.comp_apply]
      split
      · exact placed step
      · rfl
    unfold Task.update
    rw [List.map_map, List.length_map, same]
    exact h.positions
  claimed step member := by
    obtain ⟨old, listed, rfl⟩ := List.mem_map.mp member
    split
    · exact claimed old
    · exact h.claimed old listed
  done completed step member := by
    obtain ⟨old, listed, rfl⟩ := List.mem_map.mp member
    rw [done completed old listed]
    exact h.done completed old listed

/-- A new step is the last one. -/
theorem Task.Valid.insert {task : Task} (h : task.Valid) (running : task.status = .running)
    {name claim : String} (missing : task.step name = none) (isWrite : Bool) :
    Task.Valid { task with steps := task.steps ++ [task.newStep name isWrite claim] } where
  names := by
    rw [List.map_append]
    refine List.nodup_append.mpr ⟨h.names, List.nodup_singleton _, ?_⟩
    rintro _ listed _ new rfl
    obtain ⟨step, member, same⟩ := List.mem_map.mp listed
    obtain rfl := List.mem_singleton.mp new
    exact List.find?_eq_none.mp missing step member (by simpa using same)
  positions := by
    rw [List.map_append, List.length_append, h.positions]
    exact List.range_succ.symm
  claimed step member := by
    rcases List.mem_append.mp member with old | new
    · exact h.claimed step old
    · obtain rfl := List.mem_singleton.mp new
      exact ⟨fun _ => rfl, fun _ => rfl⟩
  done completed := absurd (running.symm.trans completed) nofun

/-- The same rows under another status. -/
theorem Task.Valid.restate {task task' : Task} (h : task.Valid) (steps : task'.steps = task.steps)
    (done : task'.status = .completed → ∀ step ∈ task.steps, step.status = .completed) :
    task'.Valid :=
  ⟨steps ▸ h.names, steps ▸ h.positions, steps ▸ h.claimed, steps ▸ done⟩

structure System.Valid (σ : System) : Prop where
  tasks : ∀ id task, σ.db id = some task → task.Valid
  ids : ∀ id task, σ.db id = some task → id ∈ σ.issued
  rows : ∀ id name step claim, σ.step id name = some step → step.claim = some claim →
    claim ∈ σ.issued
  claims : ∀ w id name claim, (σ.workers w).claims id name = some claim → claim ∈ σ.issued
  generations : ∀ w id generation, (σ.workers w).generations id = some generation →
    ∃ task, σ.db id = some task ∧ generation ≤ task.generation

theorem System.Valid.initial : System.initial.Valid :=
  ⟨nofun, nofun, nofun, nofun, nofun⟩

section
variable {σ σ' : System} {e : Event} {id name : String}

theorem interrupted_open {name : String} {step : Step} (h : interrupted name step = true) :
    step.name = name ∧ step.isWrite = true ∧
      (step.status = .running ∨ step.status = .uncertain) := by
  simpa [interrupted, and_assoc] using h

theorem owned_open {name : String} {claim : Option String} {step : Step}
    (h : owned name claim step = true) : step.name = name ∧ claim.isSome = true ∧
      step.claim = claim ∧ step.status = .running := by
  simpa [owned, and_assoc] using h

/-- The outcome of an attempt ends it. -/
theorem ended_of_saves {op : TaskStore.Op} {taskId name encoded : String} {status : StepStatus}
    {error : Option String} (h : op.saves = some (taskId, name, status, encoded, error)) :
    status ≠ .running := by
  unfold TaskStore.Op.saves at h
  split at h
  · cases h
    nofun
  · cases h
    split <;> nofun
  · cases h

/-- Nothing was interrupted in a completed task. -/
theorem Task.Valid.uninterrupted {task : Task} (h : task.Valid) (completed : task.status = .completed)
    (step : Simple.Step) (member : step ∈ task.steps) : interrupted name step = false := by
  rw [← Bool.not_eq_true]
  intro hit
  obtain ⟨-, -, running | uncertain⟩ := interrupted_open hit
  · exact absurd ((h.done completed step member).symm.trans running) nofun
  · exact absurd ((h.done completed step member).symm.trans uncertain) nofun

theorem Task.Valid.cancelled {task : Task} (h : task.Valid) : task.cancelled.Valid := by
  unfold Task.cancelled
  have stopped : Task.Valid { task with
      status := .cancelled
      generation := task.generation + 1 } :=
    h.restate rfl fun completed => TaskStatus.noConfusion completed
  refine stopped.update (fun _ => rfl) (fun _ => rfl) (fun step => ?_)
    fun completed => TaskStatus.noConfusion completed
  unfold Simple.Step.cancelled
  cases step.isWrite <;> simp

theorem Task.Valid.retried {task : Task} (h : task.Valid) (name : String) :
    (task.retried name).Valid := by
  unfold Task.retried
  have superseding : Task.Valid { task with generation := task.generation + 1 } :=
    h.restate rfl h.done
  exact superseding.update (fun _ => rfl) (fun _ => rfl) (fun _ => by simp [Simple.Step.retried])
    superseding.uninterrupted

/-- A successful operation keeps the tasks valid. -/
theorem TaskStore.Effect.tasks {fresh : String} {self self' : TaskStore} {db db' : Database}
    {op : TaskStore.Op} {value : TaskStore.Value}
    (h : TaskStore.Effect fresh self db op value self' db')
    (valid : ∀ id task, db id = some task → task.Valid) :
    ∀ id task, db' id = some task → task.Valid := by
  have write : ∀ {taskId : String} {task : Task}, task.Valid → ∀ id row,
      Function.update db taskId (some task) id = some row → row.Valid := by
    intro taskId task fits id row found
    by_cases same : id = taskId
    · subst same
      rw [Function.update_self] at found
      exact Option.some.inj found ▸ fits
    · rw [Function.update_of_ne same] at found
      exact valid id row found
  cases h with
  | create => exact write ⟨List.nodup_nil, rfl, nofun, nofun⟩
  | insert active missing => exact write ((valid _ _ active.found).insert active.running missing _)
  | again active found allowed unfinished =>
      exact write ((valid _ _ active.found).update (fun _ => rfl) (fun _ => rfl)
        (fun _ => ⟨fun _ => rfl, fun _ => rfl⟩)
        fun completed => absurd (active.running.symm.trans completed) nofun)
  | checkpoint => exact valid
  | save of active mine =>
      refine write ((valid _ _ active.found).update (fun _ => rfl) (fun _ => rfl) (fun _ => ?_)
        fun completed => absurd (active.running.symm.trans completed) nofun)
      have settled := ended_of_saves of
      simp [Simple.Step.saved, settled]
  | saveTask of active steps generation done =>
      exact write ((valid _ _ active.found).restate steps done)
  | cancel found unfinished => exact write (valid _ _ found).cancelled
  | resume found unfinished => exact write ((valid _ _ found).restate rfl fun completed =>
      TaskStatus.noConfusion completed)
  | resolve found one =>
      refine write ((valid _ _ found).update (fun _ => rfl) (fun _ => rfl)
        (fun _ => by simp [Simple.Step.saved]) fun completed => ?_)
      exact (valid _ _ found).uninterrupted completed
  | retry found one => exact write ((valid _ _ found).retried _)

/-! ## One step -/

/-- What an event of an instance does to the step under a name. -/
inductive Moved (e : Event) (store : TaskStore) (id name : String) :
    Option Simple.Step → Option Simple.Step → Prop
  | kept {before : Option Simple.Step} (quiet : ¬e.Begins id name) (unsaved : ¬e.Saves id name) :
      Moved e store id name before before
  | begun {before : Option Simple.Step} {row : Simple.Step} (begins : e.Begins id name)
      (free : ∀ step ∈ before, step.isWrite = row.isWrite ∧
        (step.status = .failed ∨ step.isWrite = false ∧ step.status ≠ .completed))
      (asked : e.op = .beginStep id name row.isWrite) (claimed : row.claim = some e.fresh)
      (running : row.status = .running) : Moved e store id name before (some row)
  | ended {step step' : Simple.Step} (quiet : ¬e.Begins id name)
      (unfinished : step.status = .running ∨ step.isWrite = true ∧ step.status = .uncertain)
      (stopped : step'.status ≠ .running) (unclaimed : step'.claim = none)
      (same : step'.isWrite = step.isWrite)
      (failed : step'.status = .failed → step.isWrite = true →
        e.Retries id name ∨ e.FailsCertainly id name)
      (saved : e.Saves id name → step.status = .running ∧ step.claim = store.claims id name ∧
        step.claim.isSome = true) :
      Moved e store id name (some step) (some step')

theorem Event.Begins.key (h : e.Begins id name) : e.op.key = some (id, name) := by
  obtain ⟨isWrite, row, asked, -⟩ := h
  rw [asked]
  rfl

theorem Event.Saves.key (h : e.Saves id name) : e.op.key = some (id, name) := by
  obtain ⟨-, status, encoded, error, of⟩ := h
  exact TaskStore.Op.key_of_saves of

/-- An operation about another step, or about none, leaves a step alone. -/
theorem Moved.elsewhere {store : TaskStore} (h : e.op.key ≠ some (id, name))
    (before : Option Simple.Step) : Moved e store id name before before :=
  .kept (fun begins => h begins.key) fun saves => h saves.key

/-- An update of rows of one name leaves the other names alone. -/
theorem Task.step_update_other {task : Task} {rows : Simple.Step → Bool}
    {set : Simple.Step → Simple.Step} (named : ∀ step, (set step).name = step.name) {other : String}
    (only : ∀ step, rows step = true → step.name = name) (ne : other ≠ name) :
    (task.update rows set).step other = task.step other := by
  rw [Task.step_update named]
  cases found : task.step other with
  | none => rfl
  | some step =>
      have mine : step.name = other := by simpa using List.find?_some found
      have miss : rows step = false := by
        rw [← Bool.not_eq_true]
        exact fun hit => ne (mine.symm.trans (only step hit))
      simp [miss]

/-- A write to one task moves the steps of that task only. -/
theorem Moved.write {store : TaskStore} {db : Database} {taskId : String} {task task' : Task}
    (found : db taskId = some task) (about : ∀ id name, e.op.key = some (id, name) → id = taskId)
    (moved : ∀ name, Moved e store taskId name (task.step name) (task'.step name))
    (id name : String) : Moved e store id name ((db id).bind (·.step name))
      ((Function.update db taskId (some task') id).bind (·.step name)) := by
  by_cases same : id = taskId
  · subst same
    rw [Function.update_self, found]
    exact moved name
  · rw [Function.update_of_ne same]
    exact .elsewhere (fun key => same (about id name key)) _

/-- An update of the one row under a name ends its attempt. -/
theorem Moved.update {store : TaskStore} {taskId target : String} {task task' : Task}
    {rows : Simple.Step → Bool} {set : Simple.Step → Simple.Step} (valid : task.Valid)
    (steps : task'.steps = (task.update rows set).steps)
    (named : ∀ step, (set step).name = step.name)
    (only : ∀ step, rows step = true → step.name = target) (one : task.steps.countP rows = 1)
    (key : ∀ id name, e.op.key = some (id, name) → name = target)
    (ended : ∀ step, rows step = true →
      Moved e store taskId target (some step) (some (set step))) (name : String) :
    Moved e store taskId name (task.step name) (task'.step name) := by
  have same : task'.step name = (task.update rows set).step name := by
    unfold Task.step
    rw [steps]
  rw [same]
  by_cases mine : name = target
  · subst mine
    obtain ⟨step, found, hit⟩ := Task.step_of_countP valid.names only one
    rw [Task.step_update named, found, Option.map_some, if_pos hit]
    exact ended step hit
  · rw [Task.step_update_other named only mine]
    exact .elsewhere (fun about => mine (key _ _ about)) _

/-- What a successful operation does to the step under a name. -/
theorem TaskStore.Effect.moved {e : Event} {store self' : TaskStore} {db db' : Database}
    {value : TaskStore.Value} (succeeded : e.answer = .ok value)
    (h : TaskStore.Effect e.fresh store db e.op value self' db')
    (valid : ∀ id task, db id = some task → task.Valid) (drawn : db e.fresh = none)
    (id name : String) :
    Moved e store id name ((db id).bind (·.step name)) ((db' id).bind (·.step name)) := by
  obtain ⟨worker, op, fresh, answer⟩ := e
  dsimp only at succeeded h drawn
  subst succeeded
  -- operations that name a step name one of their own task
  have mine {taskId target : String} (key : op.key = some (taskId, target)) :
      (∀ id name, op.key = some (id, name) → id = taskId) ∧
        ∀ id name, op.key = some (id, name) → name = target := by
    constructor <;> intro id name also <;> cases key.symm.trans also <;> rfl
  have unnamed (key : op.key = none) {taskId : String} (id name : String)
      (also : op.key = some (id, name)) : id = taskId :=
    absurd (also.symm.trans key) (Option.some_ne_none _)
  have nameless (key : op.key = none) (step : Option Simple.Step) (id name : String) :
      Moved ⟨worker, op, fresh, .ok value⟩ store id name step step :=
    .elsewhere (fun also => Option.some_ne_none _ (also.symm.trans key)) step
  cases h with
  | @create workflow encoded =>
      have none_yet : (Function.update db fresh (some ⟨workflow, encoded, .running, none, none, 0, []⟩)
          id).bind (·.step name) = (db id).bind (·.step name) := by
        by_cases same : id = fresh
        · subst same
          rw [Function.update_self, drawn]
          rfl
        · rw [Function.update_of_ne same]
      rw [none_yet]
      exact nameless rfl _ id name
  | @insert taskId target isWrite task active missing =>
      refine Moved.write active.found (mine rfl).1 (fun n => ?_) id name
      by_cases same : n = target
      · subst same
        have new : Task.step { task with steps := task.steps ++ [task.newStep n isWrite fresh] } n =
            some (task.newStep n isWrite fresh) := by
          unfold Task.step at missing ⊢
          rw [List.find?_append, missing]
          simp [Task.newStep]
        rw [new, missing]
        exact .begun ⟨isWrite, _, rfl, rfl, rfl⟩ nofun rfl rfl rfl
      · have old : Task.step { task with steps := task.steps ++ [task.newStep target isWrite fresh] } n =
            task.step n := by
          unfold Task.step
          rw [List.find?_append]
          simp [Task.newStep, Ne.symm same]
        rw [old]
        exact .elsewhere (fun also => same ((mine rfl).2 _ _ also)) _
  | @again taskId target isWrite task step active found allowed unfinished =>
      refine Moved.write active.found (mine rfl).1 (fun n => ?_) id name
      by_cases same : n = target
      · subst same
        have hit : step.name = n := by simpa using List.find?_some found
        rw [Task.step_update (Step.again_name fresh), found, Option.map_some,
          if_pos (by simpa using hit)]
        unfold stepRefusal at allowed
        split at allowed
        · cases allowed
        · next agreed =>
            split at allowed
            · cases allowed
            · next free =>
                obtain rfl := not_not.mp agreed
                refine .begun ⟨step.isWrite, _, rfl, rfl, rfl⟩ ?_ rfl rfl rfl
                rintro _ ⟨⟩
                refine ⟨rfl, ?_⟩
                cases write : step.isWrite with
                | false => exact .inr ⟨rfl, unfinished⟩
                | true =>
                    simp only [write, true_and, not_or] at free
                    cases status : step.status with
                    | failed => exact .inl rfl
                    | completed => exact absurd status unfinished
                    | running => exact absurd status free.1
                    | uncertain => exact absurd status free.2
      · rw [Task.step_update_other (Step.again_name fresh) (fun _ => of_decide_eq_true) same]
        exact .elsewhere (fun also => same ((mine rfl).2 _ _ also)) _
  | @checkpoint taskId target isWrite task step active found completed =>
      refine .kept ?_ ?_
      · rintro ⟨mode, row, -, answered, running⟩
        cases answered
        exact absurd (completed.symm.trans running) nofun
      · rintro ⟨-, status, encoded, error, of⟩
        cases of
  | @save _ taskId target encoded status error task of active one =>
      have key := TaskStore.Op.key_of_saves of
      refine Moved.write active.found (mine key).1 (Moved.update (valid _ _ active.found) rfl
        (Step.saved_name status encoded error) (fun step hit => (owned_open hit).1) one
        (mine key).2 fun step hit => ?_) id name
      obtain ⟨-, claimed, held, running⟩ := owned_open hit
      refine .ended ?_ (.inl running) (ended_of_saves of) rfl rfl (fun failed _ => .inr ?_)
        fun _ => ⟨running, held, held ▸ claimed⟩
      · rintro ⟨mode, row, asked, -⟩
        subst asked
        cases of
      · refine ⟨⟨_, rfl⟩, ?_⟩
        unfold TaskStore.Op.saves at of
        split at of
        · cases of
          cases failed
        · next uncertain =>
            cases of
            cases uncertain with
            | true => cases failed
            | false => exact ⟨_, rfl⟩
        · cases of
  | @saveTask _ taskId task task' of active steps generation done =>
      have key : op.key = none := by
        cases op <;> first | rfl | cases of
      refine Moved.write active.found (unnamed key)
        (fun n => ?_) id name
      have same : task'.step n = task.step n := by
        unfold Task.step
        rw [steps]
      rw [same]
      exact nameless key _ _ _
  | @cancel taskId task found unfinished =>
      refine Moved.write found (unnamed rfl) (fun n => ?_) id name
      unfold Task.cancelled
      rw [Task.step_update Step.cancelled_name]
      show Moved _ _ _ _ (task.step n) ((task.step n).map _)
      cases task.step n with
      | none => exact nameless rfl _ _ _
      | some step =>
          rw [Option.map_some]
          split
          · next running =>
              refine .ended ?_ (.inl (of_decide_eq_true running)) ?_ rfl rfl ?_ ?_
              · rintro ⟨mode, row, asked, -⟩
                cases asked
              · unfold Step.cancelled
                cases step.isWrite <;> simp
              · intro failed write
                unfold Step.cancelled at failed
                rw [write] at failed
                cases failed
              · rintro ⟨-, status, encoded, error, of⟩
                cases of
          · exact nameless rfl _ _ _
  | @resume taskId task found unfinished =>
      refine Moved.write found (unnamed rfl) (fun n => ?_) id name
      exact nameless rfl _ _ _
  | @resolve taskId target encoded task found one =>
      refine Moved.write found (mine rfl).1 (Moved.update (valid _ _ found) rfl
        (Step.saved_name .completed encoded none) (fun step hit => (interrupted_open hit).1) one
        (mine rfl).2 fun step hit => ?_) id name
      obtain ⟨-, write, open_⟩ := interrupted_open hit
      refine .ended ?_ (open_.imp_right fun uncertain => ⟨write, uncertain⟩) nofun rfl rfl nofun ?_
      · rintro ⟨mode, row, asked, -⟩
        cases asked
      · rintro ⟨-, status, encoded, error, of⟩
        cases of
  | @retry taskId target task found one =>
      have moved : ∀ n, Moved ⟨worker, .retryStep taskId target, fresh, .ok .nothing⟩ store taskId n
          (task.step n) ((task.retried target).step n) := by
        refine Moved.update (valid _ _ found) rfl Step.retried_name
          (fun step hit => (interrupted_open hit).1) one (mine rfl).2 fun step hit => ?_
        obtain ⟨-, write, open_⟩ := interrupted_open hit
        refine .ended ?_ (open_.imp_right fun uncertain => ⟨write, uncertain⟩) nofun rfl rfl
          (fun _ _ => .inl ⟨⟨_, rfl⟩, rfl⟩) ?_
        · rintro ⟨mode, row, asked, -⟩
          cases asked
        · rintro ⟨-, status, encoded, error, of⟩
          cases of
      exact Moved.write found (mine rfl).1 moved id name

/-! ## Validity -/

/-- What an event leaves: a failed operation leaves the database as it was. -/
theorem System.Step.cases (h : σ.Step e σ') :
    (∃ value self, e.answer = .ok value ∧ TaskStore.Effect e.fresh (σ.workers e.worker) σ.db e.op
      value self σ'.db ∧ σ'.workers = Function.update σ.workers e.worker self) ∨
    (∃ raised self, e.answer = .error raised ∧ σ'.db = σ.db ∧
      σ'.workers = Function.update σ.workers e.worker self ∧ (self = σ.workers e.worker ∨
        ∃ taskId task, (σ.workers e.worker).Active σ.db taskId task ∧
          self = (σ.workers e.worker).note taskId task.generation)) := by
  obtain ⟨-, self, db, performed, rfl⟩ := h
  cases answer : e.answer with
  | ok value =>
      rw [answer] at performed
      exact .inl ⟨value, self, rfl, TaskStore.perform_ok performed, rfl⟩
  | error raised =>
      rw [answer] at performed
      obtain ⟨rfl, noted⟩ := TaskStore.perform_error performed
      exact .inr ⟨raised, self, rfl, rfl, rfl, noted⟩

/-- What an event does to the step under a name. -/
theorem step_moved (valid : σ.Valid) (h : σ.Step e σ') (id name : String) :
    Moved e (σ.workers e.worker) id name (σ.step id name) (σ'.step id name) := by
  rcases h.cases with ⟨value, self, succeeded, effect, -⟩ | ⟨raised, self, failed, same, -⟩
  · refine effect.moved succeeded valid.tasks ?_ id name
    cases found : σ.db e.fresh with
    | none => rfl
    | some task => exact absurd (valid.ids _ _ found) h.1
  · have kept : σ'.step id name = σ.step id name := by
      unfold System.step
      rw [same]
    rw [kept]
    refine .kept ?_ ?_
    · rintro ⟨mode, row, -, answered, -⟩
      cases failed.symm.trans answered
    · rintro ⟨⟨value, answered⟩, -⟩
      cases failed.symm.trans answered

section
variable {fresh : String} {store self' : TaskStore} {db db' : Database} {op : TaskStore.Op}
  {value : TaskStore.Value}

/-- A claim an instance holds is an old one, or the one it drew. -/
theorem TaskStore.Effect.claims (h : TaskStore.Effect fresh store db op value self' db')
    {id name claim : String} (held : self'.claims id name = some claim) :
    store.claims id name = some claim ∨ claim = fresh := by
  have hold {taskId target : String} {new : Option String} {other : TaskStore}
      (same : other.claims = store.claims) (drawn : ∀ c, new = some c → c = fresh)
      (held : (other.hold taskId target new).claims id name = some claim) :
      store.claims id name = some claim ∨ claim = fresh := by
    unfold TaskStore.hold at held
    dsimp only at held
    by_cases mine : id = taskId
    · subst mine
      rw [Function.update_self] at held
      by_cases also : name = target
      · subst also
        rw [Function.update_self] at held
        exact .inr (drawn claim held)
      · rw [Function.update_of_ne also, same] at held
        exact .inl held
    · rw [Function.update_of_ne mine, same] at held
      exact .inl held
  cases h with
  | create | checkpoint | saveTask | cancel | resume | resolve => exact .inl held
  | insert | again => exact hold rfl (fun _ same => (Option.some.inj same).symm) held
  | save => exact hold rfl (fun _ impossible => absurd impossible.symm (Option.some_ne_none _)) held
  | retry =>
      have held' : (store.hold _ _ none).claims id name = some claim := held
      exact hold rfl (fun _ impossible => absurd impossible.symm (Option.some_ne_none _)) held'

/-- Tasks are not deleted, and their generations do not decrease. -/
theorem TaskStore.Effect.generation (h : TaskStore.Effect fresh store db op value self' db')
    (drawn : db fresh = none) {id : String} {task : Task} (found : db id = some task) :
    ∃ task', db' id = some task' ∧ task.generation ≤ task'.generation := by
  have write {taskId : String} {row row' : Task} (at_id : db taskId = some row)
      (later : row.generation ≤ row'.generation) :
      ∃ task', Function.update db taskId (some row') id = some task' ∧
        task.generation ≤ task'.generation := by
    by_cases same : id = taskId
    · subst same
      obtain rfl := Option.some.inj (found.symm.trans at_id)
      exact ⟨row', by rw [Function.update_self], later⟩
    · exact ⟨task, by rw [Function.update_of_ne same, found], le_rfl⟩
  cases h with
  | create =>
      have other : id ≠ fresh := by
        rintro rfl
        cases drawn.symm.trans found
      exact ⟨task, by rw [Function.update_of_ne other, found], le_rfl⟩
  | insert active | again active => exact write active.found le_rfl
  | checkpoint => exact ⟨task, found, le_rfl⟩
  | save _ active => exact write active.found le_rfl
  | saveTask _ active _ generation => exact write active.found generation.ge
  | cancel at_id | resume at_id | retry at_id => exact write at_id (Nat.le_succ _)
  | resolve at_id => exact write at_id le_rfl

/-- A generation that an instance remembers is an old one, or that of the task. -/
theorem TaskStore.Effect.remembers (h : TaskStore.Effect fresh store db op value self' db')
    {id : String} {generation : Nat} (known : self'.generations id = some generation) :
    store.generations id = some generation ∨
      ∃ task, db' id = some task ∧ generation = task.generation := by
  have note {taskId : String} {noted : Nat} {task : Task} (at_id : db' taskId = some task)
      (current : noted = task.generation)
      (known : Function.update store.generations taskId (some noted) id = some generation) :
      store.generations id = some generation ∨
        ∃ task, db' id = some task ∧ generation = task.generation := by
    by_cases mine : id = taskId
    · subst mine
      rw [Function.update_self] at known
      exact .inr ⟨task, at_id, (Option.some.inj known).symm.trans current⟩
    · rw [Function.update_of_ne mine] at known
      exact .inl known
  cases h with
  | create | resume | retry => exact note (Function.update_self _ _ _) rfl known
  | insert | again => exact note (Function.update_self _ _ _) rfl known
  | checkpoint active => exact note active.found rfl known
  | save | saveTask | cancel | resolve => exact .inl known

/-- A task is an old one, or the one that was created. -/
theorem TaskStore.Effect.ids (h : TaskStore.Effect fresh store db op value self' db') {id : String}
    {task : Task} (found : db' id = some task) : (∃ old, db id = some old) ∨ id = fresh := by
  have write {taskId : String} {row : Task} (at_id : (∃ old, db taskId = some old) ∨ taskId = fresh)
      (found : Function.update db taskId (some row) id = some task) :
      (∃ old, db id = some old) ∨ id = fresh := by
    by_cases same : id = taskId
    · exact same ▸ at_id
    · rw [Function.update_of_ne same] at found
      exact .inl ⟨task, found⟩
  cases h with
  | create => exact write (.inr rfl) found
  | insert active | again active | save _ active | saveTask _ active =>
      exact write (.inl ⟨_, active.found⟩) found
  | checkpoint => exact .inl ⟨task, found⟩
  | cancel at_id | resume at_id | resolve at_id | retry at_id => exact write (.inl ⟨_, at_id⟩) found

end

theorem System.Step.issued (h : σ.Step e σ') : σ'.issued = e.fresh :: σ.issued := by
  obtain ⟨-, self, db, -, rfl⟩ := h
  rfl

/-- The UUID that is drawn is not that of a task. -/
theorem System.Valid.drawn (valid : σ.Valid) (h : σ.Step e σ') : σ.db e.fresh = none := by
  cases found : σ.db e.fresh with
  | none => rfl
  | some task => exact absurd (valid.ids _ _ found) h.1

/-- Tasks are not deleted, and their generations do not decrease. -/
theorem System.Valid.generation (valid : σ.Valid) (h : σ.Step e σ') {task : Task}
    (found : σ.db id = some task) :
    ∃ task', σ'.db id = some task' ∧ task.generation ≤ task'.generation := by
  rcases h.cases with ⟨value, self, -, effect, -⟩ | ⟨raised, self, -, same, -⟩
  · exact effect.generation (valid.drawn h) found
  · exact ⟨task, same ▸ found, le_rfl⟩

/-- A claim an instance holds is an old one, or the one it drew. -/
theorem System.Step.claims (h : σ.Step e σ') {w : Nat} {claim : String}
    (held : (σ'.workers w).claims id name = some claim) :
    (σ.workers w).claims id name = some claim ∨ w = e.worker ∧ claim = e.fresh := by
  have update {self : TaskStore} (workers : σ'.workers = Function.update σ.workers e.worker self)
      (mine : self.claims id name = some claim →
        (σ.workers e.worker).claims id name = some claim ∨ claim = e.fresh) :
      (σ.workers w).claims id name = some claim ∨ w = e.worker ∧ claim = e.fresh := by
    rw [workers] at held
    by_cases same : w = e.worker
    · subst same
      rw [Function.update_self] at held
      exact (mine held).imp_right fun drawn => ⟨rfl, drawn⟩
    · rw [Function.update_of_ne same] at held
      exact .inl held
  rcases h.cases with ⟨value, self, -, effect, workers⟩ | ⟨raised, self, -, -, workers, noted⟩
  · exact update workers effect.claims
  · refine update workers fun held => .inl ?_
    obtain rfl | ⟨taskId, task, -, rfl⟩ := noted
    · exact held
    · exact held

/-- A generation that an instance remembers is an old one, or that of the task. -/
theorem System.Step.remembers (h : σ.Step e σ') {w generation : Nat}
    (known : (σ'.workers w).generations id = some generation) :
    (σ.workers w).generations id = some generation ∨
      w = e.worker ∧ ∃ task, σ'.db id = some task ∧ generation = task.generation := by
  have update {self : TaskStore} (workers : σ'.workers = Function.update σ.workers e.worker self)
      (mine : self.generations id = some generation →
        (σ.workers e.worker).generations id = some generation ∨
          ∃ task, σ'.db id = some task ∧ generation = task.generation) :
      (σ.workers w).generations id = some generation ∨
        w = e.worker ∧ ∃ task, σ'.db id = some task ∧ generation = task.generation := by
    rw [workers] at known
    by_cases same : w = e.worker
    · subst same
      rw [Function.update_self] at known
      exact (mine known).imp_right fun current => ⟨rfl, current⟩
    · rw [Function.update_of_ne same] at known
      exact .inl known
  rcases h.cases with ⟨value, self, -, effect, workers⟩ | ⟨raised, self, -, db, workers, noted⟩
  · exact update workers effect.remembers
  · refine update workers fun known => ?_
    obtain rfl | ⟨taskId, task, active, rfl⟩ := noted
    · exact .inl known
    · unfold TaskStore.note at known
      dsimp only at known
      by_cases mine : id = taskId
      · subst mine
        rw [Function.update_self] at known
        exact .inr ⟨task, db ▸ active.found, (Option.some.inj known).symm⟩
      · rw [Function.update_of_ne mine] at known
        exact .inl known

/-- Every operation keeps the tables valid. -/
theorem System.Valid.step (valid : σ.Valid) (h : σ.Step e σ') : σ'.Valid where
  tasks := by
    rcases h.cases with ⟨value, self, -, effect, -⟩ | ⟨raised, self, -, same, -⟩
    · exact effect.tasks valid.tasks
    · exact same ▸ valid.tasks
  ids id task found := by
    rw [h.issued]
    have old : (∃ old, σ.db id = some old) ∨ id = e.fresh := by
      rcases h.cases with ⟨value, self, -, effect, -⟩ | ⟨raised, self, -, same, -⟩
      · exact effect.ids found
      · exact .inl ⟨task, same ▸ found⟩
    rcases old with ⟨old, at_id⟩ | rfl
    · exact List.mem_cons_of_mem _ (valid.ids _ _ at_id)
    · exact List.mem_cons_self
  rows id name step claim found claimed := by
    rw [h.issued]
    have moved := step_moved valid h id name
    rw [found] at moved
    generalize before : σ.step id name = old at moved
    cases moved with
    | kept => exact List.mem_cons_of_mem _ (valid.rows _ _ _ _ before claimed)
    | begun _ _ _ drawn =>
        obtain rfl := Option.some.inj (drawn.symm.trans claimed)
        exact List.mem_cons_self
    | ended _ _ _ unclaimed =>
        exact absurd (unclaimed.symm.trans claimed) (Option.some_ne_none _).symm
  claims w id name claim held := by
    rw [h.issued]
    rcases h.claims held with old | ⟨-, rfl⟩
    · exact List.mem_cons_of_mem _ (valid.claims _ _ _ _ old)
    · exact List.mem_cons_self
  generations w id generation known := by
    rcases h.remembers known with old | ⟨-, task, found, rfl⟩
    · obtain ⟨task, found, earlier⟩ := valid.generations w id generation old
      obtain ⟨task', found', later⟩ := valid.generation h found
      exact ⟨task', found', earlier.trans later⟩
    · exact ⟨task, found, le_rfl⟩

end

end MasterAgent.Simple
