import Mathlib.Logic.Function.Basic
import MasterAgent.Models.Checks

/-!
# The task store

The SQLite tables of a `TaskStore` and the operations of one of its instances. A task is held with
its steps in the order they were inserted. Every operation is one transaction: it changes the
database and succeeds, or raises and leaves it as it was. Times are left out. What `_encode` gives
for an argument, a text or an exception, stands for the argument.

Results, one for each operation: what it asks for and what it changes when it succeeds
(`beginStep_ok`, `saveStep_ok`, `transact_ok`, …).
-/

namespace MasterAgent.Simple
open Base

/-! ## Tables -/

inductive TaskStatus where
  | running | waiting | completed | failed | cancelled
deriving DecidableEq, Repr

def TaskStatus.str : TaskStatus → String
  | running => "running"
  | waiting => "waiting"
  | completed => "completed"
  | failed => "failed"
  | cancelled => "cancelled"

inductive StepStatus where
  | running | completed | failed | uncertain
deriving DecidableEq, Repr

/-- A row of `steps`. -/
structure Step where
  name : String
  position : Nat
  isWrite : Bool
  status : StepStatus
  result : Option String
  error : Option String
  attempt : Nat
  claim : Option String
deriving DecidableEq

/-- A row of `tasks`, with the rows of `steps` that refer to it. -/
structure Task where
  workflow : String
  inputs : String
  status : TaskStatus
  result : Option String
  error : Option String
  generation : Nat
  steps : List Step
deriving DecidableEq

/-- The tables, by the primary key of `tasks`. -/
abbrev Database := String → Option Task

/-- The step under a name. -/
def Task.step (task : Task) (name : String) : Option Step :=
  task.steps.find? (·.name = name)

/-- `UPDATE steps SET … WHERE …` within a task. -/
def Task.update (task : Task) (rows : Step → Bool) (set : Step → Step) : Task :=
  { task with steps := task.steps.map fun step => if rows step then set step else step }

/-- The next attempt of a step. -/
def Step.again (step : Step) (claim : String) : Step :=
  { step with
    status := .running
    result := none
    error := none
    attempt := step.attempt + 1
    claim := some claim }

/-- The first attempt of a step. -/
def Task.newStep (task : Task) (name : String) (isWrite : Bool) (claim : String) : Step :=
  ⟨name, task.steps.length, isWrite, .running, none, none, 1, some claim⟩

/-- What becomes of a step that is running when its task is cancelled. -/
def Step.cancelled (step : Step) : Step :=
  { step with
    status := if step.isWrite then .uncertain else .failed
    error := some "Task cancelled during step"
    claim := none }

/-- The outcome of an attempt is saved. -/
def Step.saved (step : Step) (status : StepStatus) (result : String) (error : Option String) : Step :=
  { step with
    status := status
    result := some result
    error := error
    claim := none }

/-- A caller confirmed that an interrupted write was not applied. -/
def Step.retried (step : Step) : Step :=
  { step with
    status := .failed
    result := none
    error := none
    claim := none }

/-- The rows that the holder of a claim may save. -/
def owned (name : String) (claim : Option String) (step : Step) : Bool :=
  step.name = name && claim.isSome && step.claim = claim && step.status = .running

/-- The writes that were interrupted, or whose outcome is uncertain. -/
def interrupted (name : String) (step : Step) : Bool :=
  step.name = name && step.isWrite && (step.status = .running || step.status = .uncertain)

/-- A cancelled task. -/
def Task.cancelled (task : Task) : Task :=
  let stopped := { task with status := .cancelled, generation := task.generation + 1 }
  stopped.update (fun step => step.status = .running) Step.cancelled

/-- A resumed task. -/
def Task.resumed (task : Task) : Task :=
  { task with status := .running, error := none, generation := task.generation + 1 }

/-- A task with a write that may be tried again. -/
def Task.retried (task : Task) (name : String) : Task :=
  let superseding := { task with generation := task.generation + 1 }
  superseding.update (interrupted name) Step.retried

/-! ## Instances -/

/-- What an instance remembers: `_claims` and `_generations`. -/
structure TaskStore where
  claims : String → String → Option String
  generations : String → Option Nat

/-- An instance that was just opened. -/
def TaskStore.fresh : TaskStore := ⟨fun _ _ => none, fun _ => none⟩

/-- An operation of an instance. -/
abbrev Operation (A : Type) := TaskStore → Database → Except Exn A × TaskStore × Database

def taskStateError (message : String) : Exn := ⟨.runtime, "TaskStateError", message⟩
def uncertainStepError (message : String) : Exn := ⟨.runtime, "UncertainStepError", message⟩
def taskCancelledError (message : String) : Exn := ⟨.runtime, "TaskCancelledError", message⟩

namespace TaskStore

/-- `_task`. -/
def task (taskId : String) (db : Database) : Except Exn Task :=
  match db taskId with
  | none => .error (keyError s!"Unknown task: {taskId}")
  | some task => .ok task

/-- `_active`. -/
def active (taskId : String) (self : TaskStore) (db : Database) : Except Exn Task := do
  let task ← task taskId db
  if task.status = .cancelled then
    .error (taskCancelledError s!"Task {taskId} is cancelled; resume it explicitly.")
  else if task.status ≠ .running then
    .error (taskStateError s!"Task {taskId} is {task.status.str}; resume it first.")
  else if (self.generations taskId).any (· != task.generation) then
    .error (taskStateError "This worker was superseded; reopen the task before continuing.")
  else return task

/-- Remember the generation of a task. -/
def note (self : TaskStore) (taskId : String) (generation : Nat) : TaskStore :=
  { self with generations := Function.update self.generations taskId (some generation) }

/-- Remember the claim on a step, or that there is none. -/
def hold (self : TaskStore) (taskId name : String) (claim : Option String) : TaskStore :=
  let claims := Function.update (self.claims taskId) name claim
  { self with claims := Function.update self.claims taskId claims }

/-- A transaction on one task: what it asks for, what it makes of the task and what the instance
remembers once it is committed. -/
def transact (taskId : String) (check : Except Exn Task) (body : Task → Except Exn Task)
    (after : Task → TaskStore → TaskStore) : Operation Unit := fun self db =>
  match check.bind fun task => (body task).map fun task' => (task, task') with
  | .error e => (.error e, self, db)
  | .ok (task, task') => (.ok (), after task self, Function.update db taskId (some task'))

/-! ## Operations -/

/-- `create`. The identifier is a fresh UUID. -/
def create (workflow : String) (inputs : Except Exn String) (taskId : String) :
    Operation String := fun self db =>
  if isBlank workflow then (.error (valueError "A workflow name is required."), self, db)
  else match inputs with
    | .error e => (.error e, self, db)
    | .ok encoded => (.ok taskId, self.note taskId 0, Function.update db taskId
        (some ⟨workflow, encoded, .running, none, none, 0, []⟩))

/-- Why a step may not be begun. -/
def stepRefusal (step : Step) (name : String) (isWrite : Bool) : Option Exn :=
  if step.isWrite ≠ isWrite then
    some (taskStateError "A step's write classification cannot change on resume.")
  else if step.isWrite ∧ (step.status = .running ∨ step.status = .uncertain) then
    some (uncertainStepError (s!"Step '{name}' may already have succeeded. Check its remote " ++
      "result and resolve the step before continuing."))
  else none

/-- `begin_step`. The claim is a fresh UUID. -/
def beginStep (taskId name : String) (isWrite : Bool) (claim : String) : Operation Step :=
  fun self db =>
  if isBlank name then (.error (valueError "A step name is required."), self, db)
  else match active taskId self db with
    | .error e => (.error e, self, db)
    | .ok task =>
        let self := self.note taskId task.generation
        match task.step name with
        | none =>
            let step := Task.newStep task name isWrite claim
            (.ok step, self.hold taskId name (some claim),
              Function.update db taskId (some { task with steps := task.steps ++ [step] }))
        | some step =>
            match stepRefusal step name isWrite with
            | some e => (.error e, self, db)
            | none =>
                if step.status = .completed then (.ok step, self, db)
                else (.ok (Step.again step claim), self.hold taskId name (some claim),
                  Function.update db taskId
                    (some (task.update (·.name = name) (Step.again · claim))))

/-- `_save_step`. -/
def saveStep (taskId name : String) (status : StepStatus) (result : Except Exn String)
    (error : Option String) : Operation Unit := fun self db =>
  match result with
  | .error e => (.error e, self, db)
  | .ok encoded =>
      transact taskId (active taskId self db)
        (fun task =>
          let rows := owned name (self.claims taskId name)
          if task.steps.countP rows ≠ 1 then
            .error (taskStateError "This worker no longer owns the running step.")
          else .ok (task.update rows (Step.saved · status encoded error)))
        (fun _ self => self.hold taskId name none) self db

/-- `complete_step`. -/
def completeStep (taskId name : String) (result : Except Exn String) : Operation Unit :=
  saveStep taskId name .completed result none

/-- `fail_step`. -/
def failStep (taskId name error : String) (uncertain : Bool) : Operation Unit :=
  saveStep taskId name (if uncertain then .uncertain else .failed) (.ok "null") (some error)

/-- An operation on an active task that saves a value in it. -/
def saveTask (taskId : String) (result : Except Exn String)
    (body : String → Task → Except Exn Task) : Operation Unit := fun self db =>
  match result with
  | .error e => (.error e, self, db)
  | .ok encoded => transact taskId (active taskId self db) (body encoded) (fun _ => id) self db

/-- `finish`. -/
def finish (taskId : String) (result : Except Exn String) : Operation Unit :=
  saveTask taskId result fun encoded task =>
    match task.steps.find? (·.status ≠ .completed) with
    | some unfinished =>
        .error (taskStateError s!"Step '{unfinished.name}' is not complete.")
    | none => .ok { task with status := .completed, result := some encoded, error := none }

/-- `wait`. -/
def wait (taskId : String) (result : Except Exn String) : Operation Unit :=
  saveTask taskId result fun encoded task =>
    .ok { task with status := .waiting, result := some encoded, error := none }

/-- `fail`. A result `None` keeps the one that is stored. -/
def fail (taskId error : String) (result : Except Exn String) : Operation Unit :=
  saveTask taskId result fun encoded task =>
    .ok { task with
      status := .failed
      error := some error
      result := if encoded = "null" then task.result else some encoded }

/-- `cancel`. -/
def cancel (taskId : String) : Operation Unit := fun self db =>
  transact taskId (task taskId db)
    (fun task =>
      if task.status = .completed then
        .error (taskStateError "A completed task cannot be cancelled.")
      else .ok task.cancelled)
    (fun _ => id) self db

/-- `resume`. -/
def resume (taskId : String) : Operation Unit := fun self db =>
  transact taskId (task taskId db)
    (fun task =>
      if task.status = .completed then
        .error (taskStateError "A completed task does not need resuming.")
      else .ok task.resumed)
    (fun task self => self.note taskId (task.generation + 1)) self db

/-- `resolve_step`. -/
def resolveStep (taskId name : String) (result : Except Exn String) : Operation Unit :=
  fun self db =>
  match result with
  | .error e => (.error e, self, db)
  | .ok encoded =>
      transact taskId (task taskId db)
        (fun task =>
          if task.steps.countP (interrupted name) ≠ 1 then
            .error (taskStateError "Only an interrupted or uncertain write can be resolved.")
          else .ok (task.update (interrupted name) (Step.saved · .completed encoded none)))
        (fun _ => id) self db

/-- `retry_step`. -/
def retryStep (taskId name : String) : Operation Unit := fun self db =>
  transact taskId (task taskId db)
    (fun task =>
      if task.steps.countP (interrupted name) ≠ 1 then
        .error (taskStateError "Only an interrupted or uncertain write can be retried.")
      else .ok (task.retried name))
    (fun task self => (self.hold taskId name none).note taskId (task.generation + 1)) self db

/-! ## What an operation does -/

inductive Op where
  | create (workflow : String) (inputs : Except Exn String)
  | beginStep (taskId name : String) (isWrite : Bool)
  | completeStep (taskId name : String) (result : Except Exn String)
  | failStep (taskId name error : String) (uncertain : Bool)
  | finish (taskId : String) (result : Except Exn String)
  | wait (taskId : String) (result : Except Exn String)
  | fail (taskId error : String) (result : Except Exn String)
  | cancel (taskId : String)
  | resume (taskId : String)
  | resolveStep (taskId name : String) (result : Except Exn String)
  | retryStep (taskId name : String)
deriving DecidableEq

/-- What an operation returns. -/
inductive Value where
  | nothing
  | created (taskId : String)
  | begun (step : Step)
deriving DecidableEq

def Operation.map {A B : Type} (f : A → B) (operation : Operation A) : Operation B :=
  fun self db => ((operation self db).1.map f, (operation self db).2)

/-- An operation of an instance, with the UUID it draws. -/
def perform (fresh : String) : Op → Operation Value
  | .create workflow inputs => Operation.map .created (create workflow inputs fresh)
  | .beginStep taskId name isWrite => Operation.map .begun (beginStep taskId name isWrite fresh)
  | .completeStep taskId name result =>
      Operation.map (fun _ => .nothing) (completeStep taskId name result)
  | .failStep taskId name error uncertain =>
      Operation.map (fun _ => .nothing) (failStep taskId name error uncertain)
  | .finish taskId result => Operation.map (fun _ => .nothing) (finish taskId result)
  | .wait taskId result => Operation.map (fun _ => .nothing) (wait taskId result)
  | .fail taskId error result => Operation.map (fun _ => .nothing) (fail taskId error result)
  | .cancel taskId => Operation.map (fun _ => .nothing) (cancel taskId)
  | .resume taskId => Operation.map (fun _ => .nothing) (resume taskId)
  | .resolveStep taskId name result =>
      Operation.map (fun _ => .nothing) (resolveStep taskId name result)
  | .retryStep taskId name => Operation.map (fun _ => .nothing) (retryStep taskId name)

/-- The task is running, and the instance was not superseded. -/
structure Active (store : TaskStore) (db : Database) (taskId : String) (task : Task) : Prop where
  found : db taskId = some task
  running : task.status = .running
  current : ∀ generation, store.generations taskId = some generation → generation = task.generation

/-- Saving the outcome of an attempt: the operations of `_save_step`. -/
def Op.saves : Op → Option (String × String × StepStatus × String × Option String)
  | .completeStep taskId name (.ok encoded) => some (taskId, name, .completed, encoded, none)
  | .failStep taskId name error uncertain =>
      some (taskId, name, if uncertain then .uncertain else .failed, "null", some error)
  | _ => none

/-- Saving a value in an active task. -/
def Op.savesTask : Op → Option String
  | .finish taskId _ | .wait taskId _ | .fail taskId _ _ => some taskId
  | _ => none

/-- What a successful operation returns, remembers and writes. -/
inductive Effect (fresh : String) (self : TaskStore) (db : Database) :
    Op → Value → TaskStore → Database → Prop
  | create {workflow encoded : String} :
      Effect fresh self db (.create workflow (.ok encoded)) (.created fresh) (self.note fresh 0)
        (Function.update db fresh (some ⟨workflow, encoded, .running, none, none, 0, []⟩))
  | insert {taskId name : String} {isWrite : Bool} {task : Task}
      (active : Active self db taskId task) (missing : task.step name = none) :
      Effect fresh self db (.beginStep taskId name isWrite)
        (.begun (task.newStep name isWrite fresh))
        ((self.note taskId task.generation).hold taskId name (some fresh))
        (Function.update db taskId
          (some { task with steps := task.steps ++ [task.newStep name isWrite fresh] }))
  | again {taskId name : String} {isWrite : Bool} {task : Task} {step : Step}
      (active : Active self db taskId task) (found : task.step name = some step)
      (allowed : stepRefusal step name isWrite = none) (unfinished : step.status ≠ .completed) :
      Effect fresh self db (.beginStep taskId name isWrite) (.begun (step.again fresh))
        ((self.note taskId task.generation).hold taskId name (some fresh))
        (Function.update db taskId
          (some (task.update (·.name = name) (Step.again · fresh))))
  | checkpoint {taskId name : String} {isWrite : Bool} {task : Task} {step : Step}
      (active : Active self db taskId task) (found : task.step name = some step)
      (completed : step.status = .completed) :
      Effect fresh self db (.beginStep taskId name isWrite) (.begun step)
        (self.note taskId task.generation) db
  | save {op : Op} {taskId name encoded : String} {status : StepStatus} {error : Option String}
      {task : Task} (of : op.saves = some (taskId, name, status, encoded, error))
      (active : Active self db taskId task)
      (mine : task.steps.countP (owned name (self.claims taskId name)) = 1) :
      Effect fresh self db op .nothing (self.hold taskId name none)
        (Function.update db taskId (some (task.update (owned name (self.claims taskId name))
          (Step.saved · status encoded error))))
  | saveTask {op : Op} {taskId : String} {task task' : Task} (of : op.savesTask = some taskId)
      (active : Active self db taskId task) (steps : task'.steps = task.steps)
      (generation : task'.generation = task.generation)
      (done : task'.status = .completed → ∀ step ∈ task.steps, step.status = .completed) :
      Effect fresh self db op .nothing self (Function.update db taskId (some task'))
  | cancel {taskId : String} {task : Task} (found : db taskId = some task)
      (unfinished : task.status ≠ .completed) :
      Effect fresh self db (.cancel taskId) .nothing self
        (Function.update db taskId (some task.cancelled))
  | resume {taskId : String} {task : Task} (found : db taskId = some task)
      (unfinished : task.status ≠ .completed) :
      Effect fresh self db (.resume taskId) .nothing (self.note taskId (task.generation + 1))
        (Function.update db taskId (some task.resumed))
  | resolve {taskId name encoded : String} {task : Task} (found : db taskId = some task)
      (one : task.steps.countP (interrupted name) = 1) :
      Effect fresh self db (.resolveStep taskId name (.ok encoded)) .nothing self
        (Function.update db taskId (some (task.update (interrupted name)
          (Step.saved · .completed encoded none))))
  | retry {taskId name : String} {task : Task} (found : db taskId = some task)
      (one : task.steps.countP (interrupted name) = 1) :
      Effect fresh self db (.retryStep taskId name) .nothing
        ((self.hold taskId name none).note taskId (task.generation + 1))
        (Function.update db taskId (some (task.retried name)))

variable {fresh taskId name : String} {self self' : TaskStore} {db db' : Database} {op : Op}
  {value : Value}

theorem active_ok {task : Task} (h : active taskId self db = .ok task) :
    Active self db taskId task := by
  unfold active TaskStore.task at h
  cases found : db taskId with
  | none => rw [found] at h; cases h
  | some row =>
      rw [found, ok_bind] at h
      split at h
      · cases h
      · split at h
        · cases h
        · next running =>
            split at h
            · cases h
            · next current =>
                obtain rfl := Except.ok.inj h
                refine ⟨found, not_not.mp running, fun generation known => ?_⟩
                simpa [known] using current

theorem task_ok {task : Task} (h : TaskStore.task taskId db = .ok task) : db taskId = some task := by
  unfold TaskStore.task at h
  cases found : db taskId with
  | none => rw [found] at h; cases h
  | some row =>
      rw [found] at h
      rw [Except.ok.inj h]

/-- A transaction that succeeds. -/
theorem transact_ok {check : Except Exn Task} {body : Task → Except Exn Task}
    {after : Task → TaskStore → TaskStore}
    (h : transact taskId check body after self db = (.ok (), self', db')) :
    ∃ task task', check = .ok task ∧ body task = .ok task' ∧ self' = after task self ∧
      db' = Function.update db taskId (some task') := by
  unfold transact at h
  cases check with
  | error e => cases h
  | ok task =>
      cases made : body task with
      | error e =>
          simp [Except.bind, Except.map, made] at h
      | ok task' =>
          have same : ((Except.ok () : Except Exn Unit), after task self,
              Function.update db taskId (some task')) = (.ok (), self', db') := by
            simpa [Except.bind, Except.map, made] using h
          cases same
          exact ⟨task, task', rfl, made, rfl, rfl⟩

/-- A transaction that raises. -/
theorem transact_error {check : Except Exn Task} {body : Task → Except Exn Task}
    {after : Task → TaskStore → TaskStore} {e : Exn}
    (h : transact taskId check body after self db = (.error e, self', db')) :
    self' = self ∧ db' = db := by
  unfold transact at h
  split at h
  · cases h
    exact ⟨rfl, rfl⟩
  · cases h

theorem map_ok {A B : Type} {f : A → B} {operation : Operation A} {b : B}
    (h : Operation.map f operation self db = (.ok b, self', db')) :
    ∃ a, operation self db = (.ok a, self', db') ∧ f a = b := by
  unfold Operation.map at h
  generalize operation self db = outcome at h
  obtain ⟨out, rest⟩ := outcome
  obtain ⟨answer, rfl⟩ := Prod.mk.inj h
  cases out with
  | error e => cases answer
  | ok a => exact ⟨a, rfl, Except.ok.inj answer⟩

theorem beginStep_ok {isWrite : Bool} {step : Step}
    (h : beginStep taskId name isWrite fresh self db = (.ok step, self', db')) :
    Effect fresh self db (.beginStep taskId name isWrite) (.begun step) self' db' := by
  unfold beginStep at h
  split at h
  · cases h
  · split at h
    · cases h
    · next task found =>
        have active := active_ok found
        dsimp only at h
        split at h
        · next missing =>
            cases h
            exact .insert active missing
        · next row present =>
            split at h
            · cases h
            · next allowed =>
                split at h
                · next completed =>
                    cases h
                    exact .checkpoint active present completed
                · next unfinished =>
                    cases h
                    exact .again active present allowed unfinished

theorem saveStep_ok {status : StepStatus} {result : Except Exn String} {error : Option String}
    (h : saveStep taskId name status result error self db = (.ok (), self', db')) :
    ∃ encoded, result = .ok encoded ∧ (∀ op : Op,
      op.saves = some (taskId, name, status, encoded, error) →
        Effect fresh self db op .nothing self' db') := by
  unfold saveStep at h
  cases result with
  | error e => cases h
  | ok encoded =>
      obtain ⟨task, task', found, saved, rfl, rfl⟩ := transact_ok h
      dsimp only at saved
      split at saved
      · cases saved
      · next one =>
          obtain rfl := Except.ok.inj saved
          exact ⟨encoded, rfl, fun op of => .save of (active_ok found) (not_not.mp one)⟩

theorem saveTask_ok {result : Except Exn String} {body : String → Task → Except Exn Task}
    (h : saveTask taskId result body self db = (.ok (), self', db')) :
    ∃ encoded task task', result = .ok encoded ∧ Active self db taskId task ∧
      body encoded task = .ok task' ∧ self' = self ∧
      db' = Function.update db taskId (some task') := by
  unfold saveTask at h
  cases result with
  | error e => cases h
  | ok encoded =>
      obtain ⟨task, task', found, saved, rfl, rfl⟩ := transact_ok h
      exact ⟨encoded, task, task', rfl, active_ok found, saved, rfl, rfl⟩

/-- What a successful operation does. -/
theorem perform_ok (h : perform fresh op self db = (.ok value, self', db')) :
    Effect fresh self db op value self' db' := by
  cases op with
  | create workflow inputs =>
      obtain ⟨id, made, rfl⟩ := map_ok h
      unfold create at made
      split at made
      · cases made
      · cases inputs with
        | error e => cases made
        | ok encoded =>
            cases made
            exact .create
  | beginStep taskId name isWrite =>
      obtain ⟨step, made, rfl⟩ := map_ok h
      exact beginStep_ok made
  | completeStep taskId name result =>
      obtain ⟨_, made, rfl⟩ := map_ok h
      obtain ⟨encoded, rfl, effect⟩ := saveStep_ok made
      exact effect _ rfl
  | failStep taskId name error uncertain =>
      obtain ⟨_, made, rfl⟩ := map_ok h
      obtain ⟨encoded, same, effect⟩ := saveStep_ok made
      obtain rfl := Except.ok.inj same
      exact effect _ rfl
  | finish taskId result =>
      obtain ⟨_, made, rfl⟩ := map_ok h
      obtain ⟨encoded, task, task', rfl, active, saved, rfl, rfl⟩ := saveTask_ok made
      split at saved
      · cases saved
      · next none_left =>
          obtain rfl := Except.ok.inj saved
          refine .saveTask rfl active rfl rfl fun _ step member => ?_
          simpa using List.find?_eq_none.mp none_left step member
  | wait taskId result =>
      obtain ⟨_, made, rfl⟩ := map_ok h
      obtain ⟨encoded, task, task', rfl, active, saved, rfl, rfl⟩ := saveTask_ok made
      obtain rfl := Except.ok.inj saved
      exact .saveTask rfl active rfl rfl nofun
  | fail taskId error result =>
      obtain ⟨_, made, rfl⟩ := map_ok h
      obtain ⟨encoded, task, task', rfl, active, saved, rfl, rfl⟩ := saveTask_ok made
      obtain rfl := Except.ok.inj saved
      exact .saveTask rfl active rfl rfl nofun
  | cancel taskId =>
      obtain ⟨_, made, rfl⟩ := map_ok h
      obtain ⟨task, task', found, saved, rfl, rfl⟩ := transact_ok made
      split at saved
      · cases saved
      · next unfinished =>
          obtain rfl := Except.ok.inj saved
          exact .cancel (task_ok found) unfinished
  | resume taskId =>
      obtain ⟨_, made, rfl⟩ := map_ok h
      obtain ⟨task, task', found, saved, rfl, rfl⟩ := transact_ok made
      split at saved
      · cases saved
      · next unfinished =>
          obtain rfl := Except.ok.inj saved
          exact .resume (task_ok found) unfinished
  | resolveStep taskId name result =>
      obtain ⟨_, made, rfl⟩ := map_ok h
      unfold resolveStep at made
      cases result with
      | error e => cases made
      | ok encoded =>
          obtain ⟨task, task', found, saved, rfl, rfl⟩ := transact_ok made
          split at saved
          · cases saved
          · next one =>
              obtain rfl := Except.ok.inj saved
              exact .resolve (task_ok found) (not_not.mp one)
  | retryStep taskId name =>
      obtain ⟨_, made, rfl⟩ := map_ok h
      obtain ⟨task, task', found, saved, rfl, rfl⟩ := transact_ok made
      split at saved
      · cases saved
      · next one =>
          obtain rfl := Except.ok.inj saved
          exact .retry (task_ok found) (not_not.mp one)

theorem map_error {A B : Type} {f : A → B} {operation : Operation A} {e : Exn}
    (h : Operation.map f operation self db = (.error e, self', db')) :
    operation self db = (.error e, self', db') := by
  unfold Operation.map at h
  generalize operation self db = outcome at h
  obtain ⟨out, rest⟩ := outcome
  obtain ⟨answer, rfl⟩ := Prod.mk.inj h
  cases out with
  | error e' => rw [Except.error.inj answer]
  | ok a => cases answer

theorem saveStep_error {status : StepStatus} {result : Except Exn String} {error : Option String}
    {e : Exn} (h : saveStep taskId name status result error self db = (.error e, self', db')) :
    self' = self ∧ db' = db := by
  unfold saveStep at h
  cases result with
  | error e =>
      cases h
      exact ⟨rfl, rfl⟩
  | ok encoded => exact transact_error h

theorem saveTask_error {result : Except Exn String} {body : String → Task → Except Exn Task}
    {e : Exn} (h : saveTask taskId result body self db = (.error e, self', db')) :
    self' = self ∧ db' = db := by
  unfold saveTask at h
  cases result with
  | error e =>
      cases h
      exact ⟨rfl, rfl⟩
  | ok encoded => exact transact_error h

theorem beginStep_error {isWrite : Bool} {e : Exn}
    (h : beginStep taskId name isWrite fresh self db = (.error e, self', db')) :
    db' = db ∧ (self' = self ∨ ∃ task, Active self db taskId task ∧
      self' = self.note taskId task.generation) := by
  unfold beginStep at h
  split at h
  · cases h
    exact ⟨rfl, .inl rfl⟩
  · split at h
    · cases h
      exact ⟨rfl, .inl rfl⟩
    · next task found =>
        dsimp only at h
        split at h
        · cases h
        · split at h
          · cases h
            exact ⟨rfl, .inr ⟨task, active_ok found, rfl⟩⟩
          · split at h <;> cases h

/-- What a failed operation leaves: the database, and all that is remembered except a generation
that was just read. -/
theorem perform_error {e : Exn} (h : perform fresh op self db = (.error e, self', db')) :
    db' = db ∧ (self' = self ∨ ∃ taskId task, Active self db taskId task ∧
      self' = self.note taskId task.generation) := by
  have nothing : self' = self ∧ db' = db → db' = db ∧ (self' = self ∨ ∃ taskId task,
      Active self db taskId task ∧ self' = self.note taskId task.generation) :=
    fun same => ⟨same.2, .inl same.1⟩
  cases op with
  | create workflow inputs =>
      have made := map_error h
      unfold create at made
      split at made
      · cases made
        exact nothing ⟨rfl, rfl⟩
      · cases inputs with
        | error e =>
            cases made
            exact nothing ⟨rfl, rfl⟩
        | ok encoded => cases made
  | beginStep taskId name isWrite =>
      obtain ⟨same, self_eq | noted⟩ := beginStep_error (map_error h)
      · exact ⟨same, .inl self_eq⟩
      · exact ⟨same, .inr ⟨taskId, noted⟩⟩
  | completeStep | failStep => exact nothing (saveStep_error (map_error h))
  | finish | wait | fail => exact nothing (saveTask_error (map_error h))
  | cancel | resume | retryStep => exact nothing (transact_error (map_error h))
  | resolveStep taskId name result =>
      have made := map_error h
      unfold resolveStep at made
      cases result with
      | error e =>
          cases made
          exact nothing ⟨rfl, rfl⟩
      | ok encoded => exact nothing (transact_error made)

end TaskStore

/-! ## Rows after an update -/

namespace Step

@[simp] theorem again_name (claim : String) (step : Step) : (step.again claim).name = step.name := rfl
@[simp] theorem saved_name (status : StepStatus) (result : String) (error : Option String)
    (step : Step) : (step.saved status result error).name = step.name := rfl
@[simp] theorem cancelled_name (step : Step) : step.cancelled.name = step.name := rfl
@[simp] theorem retried_name (step : Step) : step.retried.name = step.name := rfl

end Step

section
variable {task : Task} {name : String} {rows : Step → Bool} {set : Step → Step}

/-- An update that keeps names updates the step under each name. -/
theorem Task.step_update (named : ∀ step, (set step).name = step.name) :
    (task.update rows set).step name =
      (task.step name).map fun step => if rows step then set step else step := by
  unfold Task.update Task.step
  rw [List.find?_map]
  congr 2
  funext step
  by_cases hit : rows step = true <;> simp [hit, named]

/-- The only row that is updated under a name. -/
theorem Task.step_of_countP (nodup : (task.steps.map Step.name).Nodup)
    (named : ∀ step, rows step = true → step.name = name) (one : task.steps.countP rows = 1) :
    ∃ step, task.step name = some step ∧ rows step = true := by
  obtain ⟨step, member, hit⟩ := List.countP_pos_iff.mp (one ▸ Nat.one_pos)
  refine ⟨step, ?_, hit⟩
  unfold Task.step
  cases found : task.steps.find? (·.name = name) with
  | none => exact absurd (by simpa using named step hit) (List.find?_eq_none.mp found step member)
  | some other =>
      have same : other.name = name := by simpa using List.find?_some found
      rw [List.inj_on_of_nodup_map nodup (List.mem_of_find?_eq_some found) member
        (same.trans (named step hit).symm)]

end

end MasterAgent.Simple
