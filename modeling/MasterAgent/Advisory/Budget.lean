import MasterAgent.Base.Locked
import MasterAgent.Base.Table
import MasterAgent.Policy.Approvals
import MasterAgent.WorkMemory.Journal

/-!
# Advisory budgets

`AdvisoryBudgetStore`: one row a goal counts the research and the review attempts that were
reserved for it, under a tag that only the holder of the directory's key can make. A call runs its
statements on a copy of the table under an exclusive file lock, and the copy replaces the table.

Results:

1. `reserve_cases`: what a call does;
2. `allowed_within_largest`: how many reservations a goal is given;
3. `found_was_tagged`: a row that is accepted is one that an earlier call has tagged;
4. `advisory_budget_kept`: this of any number of processes that go by the lock.
-/

namespace MasterAgent.Advisory
open Base WorkMemory

def MAX_GOAL_RECORDS : Nat := 4096
def GOAL_ID_BYTES : Nat := 256

def advisoryBudgetStateError (message : String) : Exn :=
  ⟨.runtime, "AdvisoryBudgetStateError", message⟩

inductive AdvisoryRole where
  | research | planReview
deriving DecidableEq, Repr

structure AdvisoryBudgetReservation where
  allowed : Bool
  researchAttempts : Int
  reviewAttempts : Int
deriving DecidableEq

/-! ## The table -/

/-- A row of `advisory_goal_budgets`. -/
structure BudgetRow where
  goalDigest : String
  repositoryDigest : Value
  researchAttempts : Value
  reviewAttempts : Value
  tag : Value
deriving DecidableEq

/-- The rows of `advisory_goal_budgets`, whose primary key is the goal's digest. -/
structure GoalBudgets where
  rows : List BudgetRow
  keyed : Table.Unique (·.goalDigest) rows

namespace GoalBudgets

def empty : GoalBudgets := ⟨[], List.nodup_nil⟩

/-- `SELECT … WHERE goal_digest = ?` -/
def select (table : GoalBudgets) (goalDigest : String) : Option BudgetRow :=
  Table.find (·.goalDigest) goalDigest table.rows

/-- `INSERT … ON CONFLICT(goal_digest) DO UPDATE SET …` -/
def upsert (table : GoalBudgets) (row : BudgetRow) : GoalBudgets :=
  if absent : Table.find (·.goalDigest) row.goalDigest table.rows = none then
    ⟨table.rows ++ [row], Table.unique_concat table.keyed absent⟩
  else
    ⟨Table.update (·.goalDigest == row.goalDigest) (fun _ => row) table.rows,
      Table.unique_update (fun _ selected => (beq_iff_eq.mp selected).symm) table.keyed⟩

theorem rows_of_absent {table : GoalBudgets} {row : BudgetRow}
    (absent : table.select row.goalDigest = none) :
    (table.upsert row).rows = table.rows ++ [row] := by
  unfold upsert
  rw [dif_pos (show Table.find (·.goalDigest) row.goalDigest table.rows = none from absent)]

theorem rows_of_present {table : GoalBudgets} {row : BudgetRow}
    (present : table.select row.goalDigest ≠ none) :
    (table.upsert row).rows =
      Table.update (·.goalDigest == row.goalDigest) (fun _ => row) table.rows := by
  unfold upsert
  rw [dif_neg (show ¬Table.find (·.goalDigest) row.goalDigest table.rows = none from present)]

theorem select_upsert (table : GoalBudgets) (row : BudgetRow) (goalDigest : String) :
    (table.upsert row).select goalDigest =
      if row.goalDigest = goalDigest then some row else table.select goalDigest := by
  have keeps : ∀ other : BudgetRow, (other.goalDigest == row.goalDigest) = true →
      row.goalDigest = other.goalDigest := fun _ selected => (beq_iff_eq.mp selected).symm
  by_cases absent : table.select row.goalDigest = none
  · rw [select, rows_of_absent absent, Table.find_concat]
    by_cases same : row.goalDigest = goalDigest
    · rw [if_pos same, ← same, show Table.find _ _ _ = _ from absent, Option.none_or, if_pos rfl]
    · rw [if_neg same, if_neg same, Option.or_none]
      rfl
  · rw [select, rows_of_present absent]
    by_cases same : row.goalDigest = goalDigest
    · obtain ⟨found, isFound⟩ := Option.ne_none_iff_exists'.mp absent
      rw [if_pos same, ← same, Table.find_update keeps, show Table.find _ _ _ = _ from isFound,
        Option.map_some, if_pos (beq_iff_eq.mpr (Table.find_key isFound))]
    · rw [if_neg same]
      exact Table.find_update_other (fun _ selected => beq_iff_eq.mp selected) keeps (Ne.symm same)

theorem length_upsert (table : GoalBudgets) (row : BudgetRow) :
    (table.upsert row).rows.length =
      if table.select row.goalDigest = none then table.rows.length + 1 else table.rows.length := by
  by_cases absent : table.select row.goalDigest = none
  · rw [rows_of_absent absent, if_pos absent]
    exact List.length_append
  · rw [rows_of_present absent, if_neg absent]
    exact List.length_map _

theorem mem_upsert {table : GoalBudgets} {row other : BudgetRow}
    (listed : other ∈ (table.upsert row).rows) : other = row ∨ other ∈ table.rows := by
  have found := (table.select_upsert row other.goalDigest).symm.trans
    (Table.find_of_mem (table.upsert row).keyed listed)
  split at found
  · exact .inl (Option.some.inj found).symm
  · exact .inr (Table.mem_of_find found)

end GoalBudgets

/-! ## A call -/

/-- The arguments of `reserve`. -/
structure Reserve where
  goalId : String
  role : AdvisoryRole
  maxResearchTasks : Int
  maxPlanReviews : Int

/-- The limit that a call passes for a role. -/
def Reserve.limit (call : Reserve) : AdvisoryRole → Int
  | .research => call.maxResearchTasks
  | .planReview => call.maxPlanReviews

/-- The attempt that a call makes on the counts of its goal. -/
def Reserve.attempt (call : Reserve) (counts : Int × Int) : AdvisoryBudgetReservation :=
  match call.role with
  | .research =>
      if counts.1 < call.maxResearchTasks then ⟨true, counts.1 + 1, counts.2⟩
      else ⟨false, counts.1, counts.2⟩
  | .planReview =>
      if counts.2 < call.maxPlanReviews then ⟨true, counts.1, counts.2 + 1⟩
      else ⟨false, counts.1, counts.2⟩

def counted (counts : Int × Int) : AdvisoryRole → Int
  | .research => counts.1
  | .planReview => counts.2

def AdvisoryBudgetReservation.count (reservation : AdvisoryBudgetReservation) : AdvisoryRole → Int :=
  counted (reservation.researchAttempts, reservation.reviewAttempts)

theorem attempt_allowed (call : Reserve) (counts : Int × Int) :
    (call.attempt counts).allowed = true ↔ counted counts call.role < call.limit call.role := by
  unfold Reserve.attempt Reserve.limit counted
  cases call.role with
  | research => by_cases under : counts.1 < call.maxResearchTasks <;> simp [under]
  | planReview => by_cases under : counts.2 < call.maxPlanReviews <;> simp [under]

/-- An attempt counts for its own role. -/
theorem attempt_other (call : Reserve) (counts : Int × Int) {role : AdvisoryRole}
    (other : role ≠ call.role) : (call.attempt counts).count role = counted counts role := by
  unfold Reserve.attempt AdvisoryBudgetReservation.count counted
  cases own : call.role <;> cases role <;> rw [own] at other <;>
    first | exact absurd rfl other | (dsimp only; split <;> rfl)

theorem attempt_own (call : Reserve) (counts : Int × Int)
    (allowed : (call.attempt counts).allowed = true) :
    (call.attempt counts).count call.role = counted counts call.role + 1 := by
  unfold Reserve.attempt at allowed ⊢
  unfold AdvisoryBudgetReservation.count counted
  cases own : call.role with
  | research =>
    rw [own] at allowed
    dsimp only at allowed ⊢
    split at allowed
    · next under => rw [if_pos under]
    · cases allowed
  | planReview =>
    rw [own] at allowed
    dsimp only at allowed ⊢
    split at allowed
    · next under => rw [if_pos under]
    · cases allowed

theorem compareDigest_ok {expected actual : String} (same : compareDigest expected actual = .ok true) :
    expected = actual := by
  unfold compareDigest at same
  split at same
  · exact beq_iff_eq.mp (Except.ok.inj same)
  · cases same

section

variable [Host]

/-- `_goal_digest` -/
def goalDigest (goalId : String) : Except Exn String :=
  if goalId = "" ∨ goalId ≠ strip goalId ∨ GOAL_ID_BYTES < goalId.utf8ByteSize then
    .error (valueError "advisory goal ID is invalid")
  else .ok (Host.sha256 goalId)

/-- What is required of the arguments before the table is opened. -/
def Reserve.checked (call : Reserve) : Except Exn String := do
  let digest ← goalDigest call.goalId
  if call.maxResearchTasks ≤ 0 ∨ call.maxPlanReviews ≤ 0 then
    .error (valueError "advisory budget limits must be positive")
  else return digest

/-- A store: the digest of its repository, and the key of its directory. -/
structure AdvisoryBudgetStore where
  repositoryDigest : String
  key : List UInt8

namespace AdvisoryBudgetStore

/-- The text that a tag authenticates. -/
def material (store : AdvisoryBudgetStore) (goalDigest : String) (research review : Int) : String :=
  (Json.mkObj [("goal_digest", .str goalDigest),
    ("repository_digest", .str store.repositoryDigest),
    ("research_attempts", .int research), ("review_attempts", .int review),
    ("schema", .int 1)]).dumps

/-- `_tag` -/
def tag (store : AdvisoryBudgetStore) (goalDigest : String) (research review : Int) : String :=
  (Host.hmacSha256 store.key (store.material goalDigest research review)).val

/-- `_verified_counts` -/
def verifiedCounts (store : AdvisoryBudgetStore) (goalDigest : String) (row : BudgetRow) :
    Except Exn (Int × Int) :=
  match row.researchAttempts, row.reviewAttempts, row.tag with
  | .int research, .int review, .text tag =>
      if row.repositoryDigest ≠ .text store.repositoryDigest ∨ research < 0 ∨ review < 0 then
        .error (advisoryBudgetStateError "advisory budget row is malformed")
      else do
        if ← compareDigest (store.tag goalDigest research review) tag then return (research, review)
        else .error (advisoryBudgetStateError "advisory budget row authentication failed")
  | _, _, _ => .error (advisoryBudgetStateError "advisory budget row is malformed")

/-- The counts that a call starts from. -/
def currentCounts (store : AdvisoryBudgetStore) (goalDigest : String) (table : GoalBudgets) :
    Except Exn (Int × Int) :=
  match table.select goalDigest with
  | none =>
      if table.rows.length < MAX_GOAL_RECORDS then .ok (0, 0)
      else .error (advisoryBudgetStateError "advisory budget record limit is exhausted")
  | some row => store.verifiedCounts goalDigest row

/-- The row that records an allowed attempt. -/
def tagged (store : AdvisoryBudgetStore) (goalDigest : String)
    (reservation : AdvisoryBudgetReservation) : BudgetRow where
  goalDigest := goalDigest
  repositoryDigest := .text store.repositoryDigest
  researchAttempts := .int reservation.researchAttempts
  reviewAttempts := .int reservation.reviewAttempts
  tag := .text (store.tag goalDigest reservation.researchAttempts reservation.reviewAttempts)

/-- The statements of a call: its answer, and the row that it writes. An integer column takes 64
bits. -/
def transaction (store : AdvisoryBudgetStore) (call : Reserve) (goalDigest : String)
    (table : GoalBudgets) : Except Exn (AdvisoryBudgetReservation × Option BudgetRow) := do
  let counts ← store.currentCounts goalDigest table
  let reservation := call.attempt counts
  if reservation.allowed then
    if reservation.researchAttempts < 2 ^ 63 ∧ reservation.reviewAttempts < 2 ^ 63 then
      return (reservation, some (store.tagged goalDigest reservation))
    else .error ⟨.overflow, "OverflowError", "Python int too large to convert to SQLite INTEGER"⟩
  else return (reservation, none)

end AdvisoryBudgetStore

/-! ## The directory -/

/-- What becomes of the copy that a call has worked on. -/
inductive Publication where
  | published
  /-- `connect` raises before the statements run. -/
  | unavailable
  /-- The copy does not replace the table. -/
  | abandoned
  /-- The copy is in place, and the process is stopped or `connect` raises before that is
  confirmed. -/
  | unconfirmed
deriving DecidableEq

/-- The table, and the texts that were authenticated with the directory's key so far. -/
structure Directory where
  table : GoalBudgets
  authenticated : List String

def Directory.empty : Directory := ⟨.empty, []⟩

/-- `reserve`: the answer, and the row that is tagged for it. -/
def AdvisoryBudgetStore.reserve (store : AdvisoryBudgetStore) (call : Reserve)
    (publication : Publication) (s : Directory) :
    (Except Exn AdvisoryBudgetReservation × Option BudgetRow) × Directory :=
  let failed := advisoryBudgetStateError "advisory budget reservation failed closed"
  match call.checked with
  | .error raised => ((.error raised, none), s)
  | .ok goalDigest =>
      if publication = .unavailable then ((.error failed, none), s)
      else match store.transaction call goalDigest s.table with
        | .error raised => ((.error raised, none), s)
        | .ok (reservation, none) =>
            ((if publication = .published then .ok reservation else .error failed, none), s)
        | .ok (reservation, some row) =>
            ((if publication = .published then .ok reservation else .error failed, some row),
              ⟨if publication = .abandoned then s.table else s.table.upsert row,
                store.material goalDigest reservation.researchAttempts
                  reservation.reviewAttempts :: s.authenticated⟩)

/-! ## What a call does -/

/-- A row that the store takes for its own: what it counts, and that its tag is the store's. -/
structure Authentic (store : AdvisoryBudgetStore) (row : BudgetRow) (counts : Int × Int) : Prop where
  repository : row.repositoryDigest = .text store.repositoryDigest
  research : row.researchAttempts = .int counts.1
  review : row.reviewAttempts = .int counts.2
  signed : row.tag = .text (store.tag row.goalDigest counts.1 counts.2)

theorem verifiedCounts_ok {store : AdvisoryBudgetStore} {row : BudgetRow} {counts : Int × Int}
    (verified : store.verifiedCounts row.goalDigest row = .ok counts) : Authentic store row counts := by
  unfold AdvisoryBudgetStore.verifiedCounts at verified
  split at verified
  · next research review tag isResearch isReview isTag =>
    split at verified
    · cases verified
    · next wellFormed =>
      obtain ⟨same, compared, rest⟩ := of_bind_ok verified
      cases same with
      | false => cases rest
      | true =>
        cases rest
        refine ⟨?_, isResearch, isReview, ?_⟩
        · exact not_not.mp fun foreign => wellFormed (.inl foreign)
        · rw [isTag, compareDigest_ok compared]
  · cases verified

/-- What a row counts for a role. -/
def BudgetRow.count (row : BudgetRow) (role : AdvisoryRole) : Int :=
  match role, row.researchAttempts, row.reviewAttempts with
  | .research, .int n, _ => n
  | .planReview, _, .int n => n
  | _, _, _ => 0

/-- What the table counts for a goal and a role. -/
def GoalBudgets.attempts (table : GoalBudgets) (goalDigest : String) (role : AdvisoryRole) : Int :=
  (table.select goalDigest).elim 0 (·.count role)

theorem Authentic.count {store : AdvisoryBudgetStore} {row : BudgetRow} {counts : Int × Int}
    (authentic : Authentic store row counts) (role : AdvisoryRole) :
    row.count role = counted counts role := by
  unfold BudgetRow.count counted
  rw [authentic.research, authentic.review]
  cases role <;> rfl

/-- The tag is a function of the rest. -/
theorem Authentic.eq_of_digest {store : AdvisoryBudgetStore} {row other : BudgetRow}
    {counts : Int × Int} (authentic : Authentic store row counts)
    (valid : Authentic store other counts) (same : row.goalDigest = other.goalDigest) :
    row = other := by
  have tags : row.tag = other.tag := by rw [authentic.signed, valid.signed, same]
  cases row
  cases other
  rw [BudgetRow.mk.injEq]
  exact ⟨same, authentic.repository.trans valid.repository.symm,
    authentic.research.trans valid.research.symm, authentic.review.trans valid.review.symm, tags⟩

theorem tagged_authentic (store : AdvisoryBudgetStore) (goalDigest : String)
    (reservation : AdvisoryBudgetReservation) : Authentic store (store.tagged goalDigest reservation)
      (reservation.researchAttempts, reservation.reviewAttempts) := ⟨rfl, rfl, rfl, rfl⟩

/-- A call starts from what the table counts. -/
theorem currentCounts_ok {store : AdvisoryBudgetStore} {goalDigest : String} {table : GoalBudgets}
    {counts : Int × Int} (current : store.currentCounts goalDigest table = .ok counts)
    (role : AdvisoryRole) : counted counts role = table.attempts goalDigest role := by
  unfold AdvisoryBudgetStore.currentCounts at current
  unfold GoalBudgets.attempts
  cases found : table.select goalDigest with
  | none =>
    rw [found] at current
    dsimp only at current
    split at current
    · cases current
      cases role <;> rfl
    · cases current
  | some row =>
    rw [found] at current
    obtain rfl : row.goalDigest = goalDigest := Table.find_key found
    exact ((verifiedCounts_ok current).count role).symm

theorem attempts_upsert (table : GoalBudgets) (store : AdvisoryBudgetStore) (goalDigest : String)
    (reservation : AdvisoryBudgetReservation) (other : String) (role : AdvisoryRole) :
    (table.upsert (store.tagged goalDigest reservation)).attempts other role =
      if goalDigest = other then reservation.count role else table.attempts other role := by
  unfold GoalBudgets.attempts
  rw [GoalBudgets.select_upsert]
  show Option.elim (if goalDigest = other then _ else _) _ _ = _
  split
  · exact (tagged_authentic store goalDigest reservation).count role
  · rfl

/-- The statements of a call that come to an end. -/
theorem transaction_ok {store : AdvisoryBudgetStore} {call : Reserve} {goalDigest : String}
    {table : GoalBudgets} {reservation : AdvisoryBudgetReservation} {row : Option BudgetRow}
    (done : store.transaction call goalDigest table = .ok (reservation, row)) :
    ∃ counts, store.currentCounts goalDigest table = .ok counts ∧
      reservation = call.attempt counts ∧
      row = if reservation.allowed then some (store.tagged goalDigest reservation) else none := by
  obtain ⟨counts, current, rest⟩ := of_bind_ok done
  refine ⟨counts, current, ?_⟩
  dsimp only at rest
  by_cases allowed : (call.attempt counts).allowed = true
  · rw [if_pos allowed] at rest
    split at rest
    · cases rest
      exact ⟨rfl, (if_pos allowed).symm⟩
    · cases rest
  · rw [if_neg allowed] at rest
    cases rest
    exact ⟨rfl, (if_neg allowed).symm⟩

/-- A call that changes nothing: it raises, or its limit is reached. -/
def Unspent (store : AdvisoryBudgetStore) (call : Reserve) (s : Directory)
    (answer : Except Exn AdvisoryBudgetReservation) : Prop :=
  (∃ raised, answer = .error raised) ∨
    ∃ digest counts, call.checked = .ok digest ∧ store.currentCounts digest s.table = .ok counts ∧
      answer = .ok (call.attempt counts) ∧ (call.attempt counts).allowed = false

/-- A call whose attempt is tagged. -/
structure Spent (store : AdvisoryBudgetStore) (call : Reserve) (publication : Publication)
    (s : Directory) (answer : Except Exn AdvisoryBudgetReservation) (row : BudgetRow)
    (s' : Directory) (digest : String) (counts : Int × Int) : Prop where
  checked : call.checked = .ok digest
  current : store.currentCounts digest s.table = .ok counts
  allowed : (call.attempt counts).allowed = true
  isRow : row = store.tagged digest (call.attempt counts)
  answers : publication = .published ∧ answer = .ok (call.attempt counts) ∨
    publication ≠ .published ∧ ∃ raised, answer = .error raised
  opened : publication ≠ .unavailable
  written : publication = .abandoned ∧ s'.table = s.table ∨
    publication ≠ .abandoned ∧ s'.table = s.table.upsert row
  authenticated : s'.authenticated =
    store.material digest (call.attempt counts).researchAttempts
      (call.attempt counts).reviewAttempts :: s.authenticated

theorem reserve_cases {store : AdvisoryBudgetStore} {call : Reserve} {publication : Publication}
    {s s' : Directory} {answer : Except Exn AdvisoryBudgetReservation} {row : Option BudgetRow}
    (reserved : store.reserve call publication s = ((answer, row), s')) :
    (row = none ∧ s' = s ∧ Unspent store call s answer) ∨
      ∃ new digest counts, row = some new ∧
        Spent store call publication s answer new s' digest counts := by
  unfold AdvisoryBudgetStore.reserve at reserved
  cases checked : call.checked with
  | error raised =>
    simp only [checked] at reserved
    cases reserved
    exact .inl ⟨rfl, rfl, .inl ⟨_, rfl⟩⟩
  | ok digest =>
    simp only [checked] at reserved
    by_cases unavailable : publication = .unavailable
    · rw [if_pos unavailable] at reserved
      cases reserved
      exact .inl ⟨rfl, rfl, .inl ⟨_, rfl⟩⟩
    · rw [if_neg unavailable] at reserved
      cases done : store.transaction call digest s.table with
      | error raised =>
        rw [done] at reserved
        cases reserved
        exact .inl ⟨rfl, rfl, .inl ⟨_, rfl⟩⟩
      | ok outcome =>
        obtain ⟨reservation, written⟩ := outcome
        obtain ⟨counts, current, rfl, isRow⟩ := transaction_ok done
        rw [done] at reserved
        by_cases allowed : (call.attempt counts).allowed = true
        · rw [if_pos allowed] at isRow
          subst isRow
          cases reserved
          refine .inr ⟨_, digest, counts, rfl, checked, current, allowed, rfl, ?_, unavailable,
            ?_, rfl⟩
          · by_cases published : publication = .published
            · exact .inl ⟨published, if_pos published⟩
            · exact .inr ⟨published, _, if_neg published⟩
          · by_cases abandoned : publication = .abandoned
            · exact .inl ⟨abandoned, if_pos abandoned⟩
            · exact .inr ⟨abandoned, if_neg abandoned⟩
        · rw [if_neg allowed] at isRow
          subst isRow
          cases reserved
          refine .inl ⟨rfl, rfl, ?_⟩
          by_cases published : publication = .published
          · rw [if_pos published]
            exact .inr ⟨digest, counts, checked, current, rfl, Bool.not_eq_true _ ▸ allowed⟩
          · rw [if_neg published]
            exact .inl ⟨_, rfl⟩

/-! ## The processes of a directory -/

inductive BudgetEvent where
  /-- A call of a store for the repository, with the row that is tagged for it. -/
  | reserved (repositoryDigest : String) (call : Reserve) (publication : Publication)
      (row : Option BudgetRow) (answer : Except Exn AdvisoryBudgetReservation)
  /-- Somebody without the key replaces the table, and what the directory says of its generation. -/
  | edited (table : GoalBudgets)

/-- Without the key, the only texts with a valid tag are those that were authenticated before. -/
def Unforged (key : List UInt8) (s : Directory) (table : GoalBudgets) : Prop :=
  ∀ row ∈ table.rows, ∀ repositoryDigest counts, Authentic ⟨repositoryDigest, key⟩ row counts →
    AdvisoryBudgetStore.material ⟨repositoryDigest, key⟩ row.goalDigest counts.1 counts.2 ∈
      s.authenticated

def Performs (key : List UInt8) (s : Directory) (e : BudgetEvent) (s' : Directory) : Prop :=
  match e with
  | .reserved repositoryDigest call publication row answer =>
      AdvisoryBudgetStore.reserve ⟨repositoryDigest, key⟩ call publication s = ((answer, row), s')
  | .edited _ => False

def Edits (key : List UInt8) (s : Directory) (e : BudgetEvent) (s' : Directory) : Prop :=
  match e with
  | .reserved .. => False
  | .edited table => Unforged key s table ∧ s' = ⟨table, s.authenticated⟩

/-- The events of a directory, one call after the other. -/
abbrev Serial (key : List UInt8) := Locked.Serially (Performs key) (Edits key)

/-- The processes of a directory, and whoever changes it between their calls. -/
abbrev Process (P : Type) [DecidableEq P] (key : List UInt8) :=
  Locked.Step (P := P) (Performs key) (Edits key)

variable {key : List UInt8} {t : List BudgetEvent} {s s' : Directory}

/-- Whether an event is an allowed reservation of a role for a goal. -/
def allows (role : AdvisoryRole) (goalId : String) : BudgetEvent → Bool
  | .reserved _ call _ _ (.ok reservation) =>
      call.role == role && call.goalId == goalId && reservation.allowed
  | _ => false

/-- The limit that an event passes for a goal. -/
def passes (role : AdvisoryRole) (goalId : String) : BudgetEvent → Option Int
  | .reserved _ call _ _ _ => if call.goalId = goalId then some (call.limit role) else none
  | .edited _ => none

/-- The largest limit ever passed for a goal. -/
def largest (role : AdvisoryRole) (goalId : String) (t : List BudgetEvent) : Int :=
  (t.filterMap (passes role goalId)).foldr max 0

def Unaltered (t : List BudgetEvent) : Prop := ∀ table, .edited table ∉ t

theorem serial_cases {e : BudgetEvent} (step : Serial key s e s') :
    (∃ repositoryDigest call publication row answer,
      e = .reserved repositoryDigest call publication row answer ∧
        AdvisoryBudgetStore.reserve ⟨repositoryDigest, key⟩ call publication s =
          ((answer, row), s')) ∨
    ∃ table, e = .edited table ∧ Unforged key s table ∧ s' = ⟨table, s.authenticated⟩ := by
  rcases step with performed | edits
  · cases e with
    | reserved repositoryDigest call publication row answer =>
      exact .inl ⟨repositoryDigest, call, publication, row, answer, rfl, performed⟩
    | edited table => exact performed.elim
  · cases e with
    | reserved repositoryDigest call publication row answer => exact edits.elim
    | edited table => exact .inr ⟨table, rfl, edits⟩

/-! ## The limits -/

omit [Host] in
theorem largest_concat (role : AdvisoryRole) (goalId : String) (e : BudgetEvent) :
    largest role goalId t ≤ largest role goalId (t ++ [e]) ∧
      ∀ limit, passes role goalId e = some limit → limit ≤ largest role goalId (t ++ [e]) := by
  unfold largest
  rw [List.filterMap_append]
  generalize t.filterMap (passes role goalId) = limits
  induction limits with
  | nil =>
    cases passed : passes role goalId e with
    | none => simp [passed]
    | some limit => simp [passed]
  | cons first rest ih =>
    rw [List.cons_append, List.foldr_cons, List.foldr_cons]
    exact ⟨max_le_max le_rfl ih.1, fun limit passed => (ih.2 limit passed).trans (le_max_right _ _)⟩

/-- What a call leaves of the counts. -/
theorem attempts_reserve {store : AdvisoryBudgetStore} {call : Reserve} {publication : Publication}
    {answer : Except Exn AdvisoryBudgetReservation} {row : Option BudgetRow}
    (reserved : store.reserve call publication s = ((answer, row), s')) (goalDigest : String)
    (role : AdvisoryRole) :
    s'.table.attempts goalDigest role = s.table.attempts goalDigest role ∨
      (role = call.role ∧ call.checked = .ok goalDigest ∧
        s'.table.attempts goalDigest role = s.table.attempts goalDigest role + 1) := by
  rcases reserve_cases reserved with ⟨_, rfl, _⟩ | ⟨new, digest, counts, _, spent⟩
  · exact .inl rfl
  rcases spent.written with ⟨_, kept⟩ | ⟨_, written⟩
  · exact .inl (by rw [kept])
  rw [written, spent.isRow, attempts_upsert]
  by_cases same : digest = goalDigest
  · subst same
    rw [if_pos rfl, ← currentCounts_ok spent.current role]
    by_cases own : role = call.role
    · rw [own]
      exact .inr ⟨rfl, spent.checked, attempt_own call counts spent.allowed⟩
    · exact .inl (attempt_other call counts own)
  · exact .inl (if_neg same)

/-- An allowed reservation finds fewer attempts than its limit, and adds one. -/
theorem allows_spends {store : AdvisoryBudgetStore} {call : Reserve} {publication : Publication}
    {reservation : AdvisoryBudgetReservation} {row : Option BudgetRow}
    (reserved : store.reserve call publication s = ((.ok reservation, row), s'))
    (allowed : reservation.allowed = true) :
    ∃ digest, call.checked = .ok digest ∧
      s.table.attempts digest call.role < call.limit call.role ∧
      s'.table.attempts digest call.role = s.table.attempts digest call.role + 1 := by
  rcases reserve_cases reserved with
    ⟨_, _, ⟨_, raised⟩ | ⟨_, _, _, _, same, refused⟩⟩ | ⟨new, digest, counts, _, spent⟩
  · cases raised
  · cases same
    rw [refused] at allowed
    cases allowed
  · rcases spent.answers with ⟨published, same⟩ | ⟨_, _, raised⟩
    · refine ⟨digest, spent.checked, ?_, ?_⟩
      · rw [← currentCounts_ok spent.current]
        exact (attempt_allowed call counts).mp spent.allowed
      · rcases spent.written with ⟨abandoned, _⟩ | ⟨_, written⟩
        · rw [published] at abandoned
          cases abandoned
        · rw [written, spent.isRow, attempts_upsert, if_pos rfl, ← currentCounts_ok spent.current]
          exact attempt_own call counts spent.allowed
    · cases raised

theorem checked_digest {call : Reserve} {digest : String} (checked : call.checked = .ok digest) :
    goalDigest call.goalId = .ok digest := by
  obtain ⟨found, isDigest, rest⟩ := of_bind_ok checked
  split at rest
  · cases rest
  · cases rest
    exact isDigest

/-- The reservations that a goal was given are counted, and within its limits. -/
def Counted (t : List BudgetEvent) (s : Directory) : Prop :=
  Unaltered t → ∀ role goalId,
    (t.countP (allows role goalId) : Int) ≤ largest role goalId t ∧
    ∀ digest, goalDigest goalId = .ok digest →
      (t.countP (allows role goalId) : Int) ≤ s.table.attempts digest role

theorem counted_step {e : BudgetEvent} (counted : Counted t s) (step : Serial key s e s') :
    Counted (t ++ [e]) s' := by
  intro unaltered role goalId
  have before := counted (fun table listed => unaltered table (List.mem_append_left _ listed))
    role goalId
  have grown := largest_concat (t := t) role goalId e
  rw [List.countP_append, List.countP_singleton]
  rcases serial_cases step with
    ⟨repositoryDigest, call, publication, row, answer, rfl, reserved⟩ | ⟨table, rfl, _⟩
  swap
  · exact absurd (List.mem_append_right _ List.mem_cons_self) (unaltered table)
  -- no call lowers a count, so only an allowed one has to be looked at
  have kept (digest : String) : s.table.attempts digest role ≤ s'.table.attempts digest role := by
    rcases attempts_reserve reserved digest role with same | ⟨_, _, more⟩
    · exact same.ge
    · rw [more]
      omega
  cases allowing : allows role goalId (.reserved repositoryDigest call publication row answer) with
  | false =>
    exact ⟨before.1.trans grown.1, fun digest isDigest =>
      (before.2 digest isDigest).trans (kept digest)⟩
  | true =>
    cases answer with
    | error raised => cases allowing
    | ok reservation =>
      simp only [allows, Bool.and_eq_true, beq_iff_eq] at allowing
      obtain ⟨⟨rfl, rfl⟩, allowed⟩ := allowing
      obtain ⟨digest, checked, under, more⟩ := allows_spends reserved allowed
      have isDigest := checked_digest checked
      -- the limit of this call is above what the goal was given so far
      have within := before.2 digest isDigest
      refine ⟨?_, fun other isOther => ?_⟩
      · have passed := grown.2 (call.limit call.role) (if_pos rfl)
        simp only [if_pos, Nat.cast_add, Nat.cast_one]
        omega
      · cases isDigest.symm.trans isOther
        simp only [if_pos, Nat.cast_add, Nat.cast_one]
        omega

/-- How many reservations a goal is given. -/
theorem allowed_within_largest (run : Run (Serial key) Directory.empty t s)
    (unaltered : Unaltered t) (role : AdvisoryRole) (goalId : String) :
    (t.countP (allows role goalId) : Int) ≤ largest role goalId t := by
  refine (run.history_nil (I := Counted) (fun t s e s' => counted_step) ?_ unaltered role goalId).1
  intro _ role goalId
  exact ⟨le_rfl, fun digest _ => le_rfl⟩

/-- A call adds a row only where there is room for one. -/
theorem length_reserve {store : AdvisoryBudgetStore} {call : Reserve} {publication : Publication}
    {answer : Except Exn AdvisoryBudgetReservation} {row : Option BudgetRow}
    (reserved : store.reserve call publication s = ((answer, row), s'))
    (room : s.table.rows.length ≤ MAX_GOAL_RECORDS) :
    s'.table.rows.length ≤ MAX_GOAL_RECORDS := by
  rcases reserve_cases reserved with ⟨_, rfl, _⟩ | ⟨new, digest, counts, _, spent⟩
  · exact room
  rcases spent.written with ⟨_, kept⟩ | ⟨_, written⟩
  · rw [kept]
    exact room
  rw [written, GoalBudgets.length_upsert]
  split
  · next absent =>
    have current := spent.current
    rw [spent.isRow] at absent
    unfold AdvisoryBudgetStore.currentCounts at current
    rw [show s.table.select digest = none from absent] at current
    dsimp only at current
    split at current
    · next fewer => exact fewer
    · cases current
  · exact room

theorem records_bounded (run : Run (Serial key) Directory.empty t s) (unaltered : Unaltered t) :
    s.table.rows.length ≤ MAX_GOAL_RECORDS := by
  refine run.preserves (I := fun s => s.table.rows.length ≤ MAX_GOAL_RECORDS) ?_ (Nat.zero_le _)
  intro s e listed s' room step
  rcases serial_cases step with ⟨_, _, _, _, _, _, reserved⟩ | ⟨table, rfl, _⟩
  · exact length_reserve reserved room
  · exact absurd listed (unaltered table)

/-! ## Altered rows -/

/-- A text that was authenticated for a call. -/
def Made (key : List UInt8) (t : List BudgetEvent) (text : String) : Prop :=
  ∃ repositoryDigest call publication row answer counts,
    .reserved repositoryDigest call publication (some row) answer ∈ t ∧
      Authentic ⟨repositoryDigest, key⟩ row counts ∧
      text = AdvisoryBudgetStore.material ⟨repositoryDigest, key⟩ row.goalDigest counts.1 counts.2

/-- What is authenticated was made for a call, and no row has the tag of another text. -/
structure Vouched (key : List UInt8) (t : List BudgetEvent) (s : Directory) : Prop where
  made : ∀ text ∈ s.authenticated, Made key t text
  covers : Unforged key s s.table

omit [Host] in
theorem material_inj {repository repository' digest digest' : String}
    {research research' review review' : Int}
    (same : AdvisoryBudgetStore.material ⟨repository, key⟩ digest research review =
      AdvisoryBudgetStore.material ⟨repository', key⟩ digest' research' review') :
    repository = repository' ∧ digest = digest' ∧ research = research' ∧ review = review' := by
  have values := Json.dumps_inj same
  have field (name : String) := congrArg (Json.get? · name) values
  simp only [Json.get?_mkObj] at field
  refine ⟨?_, ?_, ?_, ?_⟩
  · simpa [Json.lookup_cons] using field "repository_digest"
  · simpa [Json.lookup_cons] using field "goal_digest"
  · simpa [Json.lookup_cons] using field "research_attempts"
  · simpa [Json.lookup_cons] using field "review_attempts"

theorem vouched_step {e : BudgetEvent} (vouched : Vouched key t s) (step : Serial key s e s') :
    Vouched key (t ++ [e]) s' := by
  have earlier : ∀ text ∈ s.authenticated, Made key (t ++ [e]) text := by
    intro text listed
    obtain ⟨repositoryDigest, call, publication, row, answer, counts, event, rest⟩ :=
      vouched.made text listed
    exact ⟨repositoryDigest, call, publication, row, answer, counts,
      List.mem_append_left _ event, rest⟩
  rcases serial_cases step with
    ⟨repositoryDigest, call, publication, row, answer, rfl, reserved⟩ | ⟨table, rfl, unforged, rfl⟩
  swap
  · exact ⟨earlier, unforged⟩
  rcases reserve_cases reserved with ⟨_, rfl, _⟩ | ⟨new, digest, counts, rfl, spent⟩
  · exact ⟨earlier, vouched.covers⟩
  have authentic := tagged_authentic ⟨repositoryDigest, key⟩ digest (call.attempt counts)
  rw [← spent.isRow] at authentic
  have isDigest : new.goalDigest = digest := congrArg BudgetRow.goalDigest spent.isRow
  refine ⟨fun text listed => ?_, fun row listed repository counts' valid => ?_⟩
  · rw [spent.authenticated] at listed
    rcases List.mem_cons.mp listed with rfl | before
    · exact ⟨repositoryDigest, call, publication, new, answer, _,
        List.mem_append_right _ List.mem_cons_self, authentic, by rw [isDigest]⟩
    · exact earlier text before
  · rw [spent.authenticated]
    -- a row of the table before the call has an earlier text
    have old (inTable : row ∈ s.table.rows) := List.mem_cons_of_mem
      (AdvisoryBudgetStore.material ⟨repositoryDigest, key⟩ digest
        (call.attempt counts).researchAttempts (call.attempt counts).reviewAttempts)
      (vouched.covers row inTable repository counts' valid)
    rcases spent.written with ⟨_, kept⟩ | ⟨_, written⟩
    · rw [kept] at listed
      exact old listed
    rw [written] at listed
    rcases GoalBudgets.mem_upsert listed with rfl | inTable
    · have repositories := Value.text.inj (authentic.repository.symm.trans valid.repository)
      have researches := Value.int.inj (authentic.research.symm.trans valid.research)
      have reviews := Value.int.inj (authentic.review.symm.trans valid.review)
      dsimp only at repositories
      rw [← repositories, ← researches, ← reviews, isDigest]
      exact List.mem_cons_self
    · exact old inTable

theorem vouched_run (run : Run (Serial key) Directory.empty t s) : Vouched key t s := by
  refine run.history_nil (I := Vouched key) (fun t s e s' => vouched_step) ⟨?_, ?_⟩
  · exact fun _ listed => absurd listed List.not_mem_nil
  · exact fun _ listed => absurd listed List.not_mem_nil

/-- A row that is accepted is one that an earlier call has tagged. -/
theorem found_was_tagged (vouched : Vouched key t s) {repositoryDigest digest : String}
    {row : BudgetRow} (found : s.table.select digest = some row) {counts : Int × Int}
    (current : AdvisoryBudgetStore.currentCounts ⟨repositoryDigest, key⟩ digest s.table =
      .ok counts) :
    row.repositoryDigest = .text repositoryDigest ∧ ∃ call publication answer,
      .reserved repositoryDigest call publication (some row) answer ∈ t := by
  unfold AdvisoryBudgetStore.currentCounts at current
  rw [found] at current
  obtain rfl : row.goalDigest = digest := Table.find_key found
  have authentic := verifiedCounts_ok current
  have listed := vouched.covers row (Table.mem_of_find found) repositoryDigest counts authentic
  obtain ⟨repository, call, publication, made, answer, counts', event, valid, same⟩ :=
    vouched.made _ listed
  -- the text names the repository, the goal and the counts, and the tag is a function of it
  obtain ⟨rfl, digests, researches, reviews⟩ := material_inj same
  have same : counts = counts' := Prod.ext researches reviews
  have isRow : row = made := authentic.eq_of_digest (same ▸ valid) digests
  exact ⟨authentic.repository, call, publication, answer, isRow ▸ event⟩

/-! ## What the processes can rely on -/

/-- What is kept of one call among the others: the directory before and after it, and the events
that led there. -/
structure Kept (before : List BudgetEvent) (s : Directory) (repositoryDigest : String)
    (call : Reserve) (publication : Publication) (answer : Except Exn AdvisoryBudgetReservation)
    (s' : Directory) : Prop where
  /-- The other role's attempts stay as they are. -/
  apart : ∀ digest role, role ≠ call.role →
    s'.table.attempts digest role = s.table.attempts digest role
  /-- The answer depends on the attempts and on the limit of the call's own role. -/
  decided : ∀ reservation, answer = .ok reservation → ∃ digest, goalDigest call.goalId = .ok digest ∧
    (reservation.allowed = true ↔ s.table.attempts digest call.role < call.limit call.role)
  unchanged : (∀ reservation, answer = .ok reservation → reservation.allowed = false) →
    publication ≠ .unconfirmed → s'.table = s.table
  /-- The row of the goal is one that was tagged for the repository, or the call raises. -/
  altered : ∀ digest row, goalDigest call.goalId = .ok digest → s.table.select digest = some row →
    (row.repositoryDigest ≠ .text repositoryDigest ∨ ∀ call' publication' answer',
      .reserved repositoryDigest call' publication' (some row) answer' ∉ before) →
    (∃ raised, answer = .error raised) ∧ s'.table = s.table

theorem kept_of_reserve {repositoryDigest : String} {call : Reserve} {publication : Publication}
    {row : Option BudgetRow} {answer : Except Exn AdvisoryBudgetReservation}
    (vouched : Vouched key t s)
    (reserved : AdvisoryBudgetStore.reserve ⟨repositoryDigest, key⟩ call publication s =
      ((answer, row), s')) :
    Kept t s repositoryDigest call publication answer s' := by
  refine ⟨fun digest role other => ?_, fun reservation answered => ?_, fun refused confirmed => ?_,
    fun digest found isDigest select altered => ?_⟩
  · rcases attempts_reserve reserved digest role with same | ⟨own, _⟩
    · exact same
    · exact absurd own other
  · subst answered
    rcases reserve_cases reserved with
      ⟨_, _, ⟨_, raised⟩ | ⟨digest, counts, checked, current, same, _⟩⟩ |
      ⟨new, digest, counts, _, spent⟩
    · cases raised
    · cases same
      refine ⟨digest, checked_digest checked, ?_⟩
      rw [← currentCounts_ok current]
      exact attempt_allowed call counts
    · rcases spent.answers with ⟨_, same⟩ | ⟨_, _, raised⟩
      · cases same
        refine ⟨digest, checked_digest spent.checked, ?_⟩
        rw [← currentCounts_ok spent.current]
        exact attempt_allowed call counts
      · cases raised
  · rcases reserve_cases reserved with ⟨_, same, _⟩ | ⟨new, digest, counts, _, spent⟩
    · rw [same]
    rcases spent.written with ⟨_, kept⟩ | ⟨put, _⟩
    · exact kept
    rcases spent.answers with ⟨_, answered⟩ | ⟨unpublished, _⟩
    · have allowed := spent.allowed
      rw [refused _ answered] at allowed
      cases allowed
    · have opened := spent.opened
      cases publication <;> contradiction
  · -- the counts of an altered row are never read
    have stuck : ∀ digest' counts, call.checked = .ok digest' →
        AdvisoryBudgetStore.currentCounts ⟨repositoryDigest, key⟩ digest' s.table ≠ .ok counts := by
      intro digest' counts checked current
      cases isDigest.symm.trans (checked_digest checked)
      obtain ⟨own, call', publication', answer', event⟩ := found_was_tagged vouched select current
      rcases altered with foreign | unmade
      · exact foreign own
      · exact unmade call' publication' answer' event
    rcases reserve_cases reserved with
      ⟨_, same, raised | ⟨digest', counts, checked, current, _⟩⟩ | ⟨new, digest', counts, _, spent⟩
    · exact ⟨raised, by rw [same]⟩
    · exact absurd current (stuck digest' counts checked)
    · exact absurd spent.current (stuck digest' counts spent.checked)

end

/-! ## Examples -/

namespace Samples

attribute [local instance] plainHost

def budgetStore : AdvisoryBudgetStore := ⟨"repository", [1]⟩

/-- A call for two research attempts and one review. -/
def twoAttempts : Reserve := ⟨"goal", .research, 2, 1⟩

def reserving (publication : Publication) (s : Directory) : BudgetEvent :=
  .reserved budgetStore.repositoryDigest twoAttempts publication
    (budgetStore.reserve twoAttempts publication s).1.2
    (budgetStore.reserve twoAttempts publication s).1.1

def once : Directory := (budgetStore.reserve twoAttempts .published .empty).2

def twice : Directory := (budgetStore.reserve twoAttempts .published once).2

/-- The first row is put back. -/
def restored : Directory := ⟨once.table, twice.authenticated⟩

theorem reserving_performs (publication : Publication) (s : Directory) :
    Serial [1] s (reserving publication s) (budgetStore.reserve twoAttempts publication s).2 :=
  .inl rfl

theorem twice_reached : Run (Serial [1]) Directory.empty
    [reserving .published .empty, reserving .published once] twice :=
  .cons (reserving_performs ..) (.single (reserving_performs ..))

theorem restored_unforged : Unforged [1] twice once.table := by
  intro row listed repositoryDigest counts authentic
  have vouched := vouched_run (.single (reserving_performs .published .empty))
  have made := vouched.covers row listed repositoryDigest counts authentic
  have grown : once.authenticated ⊆ twice.authenticated := by decide +kernel
  exact grown made

end Samples

end MasterAgent.Advisory
