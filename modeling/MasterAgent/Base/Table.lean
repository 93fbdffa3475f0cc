import Mathlib.Data.List.Nodup

/-!
# Tables with a unique key

A table is the list of its rows. Rows are appended, and changed in place where a condition selects
them; no row is removed. A unique index on a key allows one row for each value of it.

Results:

1. `find_update`, `find_concat`: what a change of the table means for the row under a key;
2. `unique_update`, `unique_concat`: the index stays satisfied;
3. `update_cases`: a condition that asks for a key changes the row under it, or nothing.
-/

namespace Base.Table

variable {R K : Type} [DecidableEq K] {key : R → K} {rows : List R}

/-- `UPDATE … SET … WHERE …` -/
def update (selects : R → Bool) (set : R → R) (rows : List R) : List R :=
  rows.map fun row => if selects row then set row else row

/-- The row under a key. -/
def find (key : R → K) (k : K) (rows : List R) : Option R := rows.find? (key · == k)

/-- A unique index on the key. -/
def Unique (key : R → K) (rows : List R) : Prop := (rows.map key).Nodup

variable {selects : R → Bool} {set : R → R}

theorem find_key {k : K} {row : R} (found : find key k rows = some row) : key row = k :=
  beq_iff_eq.mp (List.find?_some (p := fun r => key r == k) found)

theorem mem_of_find {k : K} {row : R} (found : find key k rows = some row) : row ∈ rows :=
  List.mem_of_find?_eq_some found

theorem find_none {k : K} : find key k rows = none ↔ ∀ row ∈ rows, key row ≠ k := by
  simp [find]

theorem find_cons {k : K} {first : R} : find key k (first :: rows) =
    if key first = k then some first else find key k rows := by
  unfold find
  rw [List.find?_cons]
  by_cases same : key first = k
  · rw [if_pos same, beq_iff_eq.mpr same]
  · rw [if_neg same, beq_eq_false_iff_ne.mpr same]

/-- Under a unique index, every row is the one under its key. -/
theorem find_of_mem (unique : Unique key rows) {row : R} (listed : row ∈ rows) :
    find key (key row) rows = some row := by
  induction rows with
  | nil => cases listed
  | cons first rest ih =>
    rw [Unique, List.map_cons, List.nodup_cons] at unique
    rw [find_cons]
    rcases List.mem_cons.mp listed with rfl | later
    · exact if_pos rfl
    · have apart : key first ≠ key row := fun same =>
        unique.1 (same ▸ List.mem_map_of_mem later)
      rw [if_neg apart, ih unique.2 later]

/-- A row that keeps its key is changed under that key, where it is selected. -/
theorem find_update (keeps : ∀ row, selects row = true → key (set row) = key row) {k : K} :
    find key k (update selects set rows) =
      (find key k rows).map fun row => if selects row then set row else row := by
  induction rows with
  | nil => rfl
  | cons first rest ih =>
    have same : key (if selects first then set first else first) = key first := by
      split
      · next selected => exact keeps first selected
      · rfl
    show find key k ((if selects first then set first else first) :: update selects set rest) = _
    rw [find_cons, find_cons, same, ih]
    split <;> rfl

omit [DecidableEq K] in
theorem unique_update (keeps : ∀ row, selects row = true → key (set row) = key row)
    (unique : Unique key rows) : Unique key (update selects set rows) := by
  have same : (update selects set rows).map key = rows.map key := by
    rw [update, List.map_map]
    refine List.map_congr_left fun row _ => ?_
    show key (if selects row then set row else row) = key row
    split
    · next selected => exact keeps row selected
    · rfl
  rw [Unique, same]
  exact unique

/-- An appended row is found where there was none. -/
theorem find_concat {k : K} {row : R} : find key k (rows ++ [row]) =
    (find key k rows).or (if key row = k then some row else none) := by
  unfold find
  rw [List.find?_append, List.find?_singleton]
  simp only [beq_iff_eq]

theorem unique_concat {row : R} (unique : Unique key rows) (absent : find key (key row) rows = none) :
    Unique key (rows ++ [row]) := by
  rw [Unique, List.map_append, List.map_singleton]
  refine List.Nodup.append unique (List.nodup_singleton _) ?_
  rw [List.disjoint_singleton]
  intro listed
  obtain ⟨other, isRow, same⟩ := List.mem_map.mp listed
  exact find_none.mp absent other isRow same

/-- Under a unique index, a condition that asks for a key selects at most the row under it. -/
theorem count_of_unique (unique : Unique key rows) {k : K}
    (asks : ∀ row, selects row = true → key row = k) :
    rows.countP selects = if (find key k rows).any selects then 1 else 0 := by
  induction rows with
  | nil => rfl
  | cons first rest ih =>
    rw [Unique, List.map_cons, List.nodup_cons] at unique
    rw [List.countP_cons, find_cons, ih unique.2]
    by_cases here : key first = k
    · have absent : find key k rest = none := by
        rw [find_none]
        intro row listed same
        exact unique.1 (here.trans same.symm ▸ List.mem_map_of_mem listed)
      rw [absent, if_pos here]
      simp
    · have unselected : selects first = false := by
        rw [← Bool.not_eq_true]
        exact fun selected => here (asks first selected)
      simp [here, unselected]

theorem update_of_none (none : ∀ row ∈ rows, selects row = false) : update selects set rows = rows := by
  refine (List.map_congr_left fun row listed => ?_).trans (List.map_id rows)
  rw [none row listed]
  rfl

/-- A condition that asks for another key leaves the row. -/
theorem find_update_other {k k' : K} (asks : ∀ row, selects row = true → key row = k)
    (keeps : ∀ row, selects row = true → key (set row) = key row) (apart : k' ≠ k) :
    find key k' (update selects set rows) = find key k' rows := by
  rw [find_update keeps]
  cases found : find key k' rows with
  | none => rfl
  | some row =>
    have unselected : ¬ selects row = true := fun selected =>
      apart ((find_key found).symm.trans (asks row selected))
    rw [Option.map_some, if_neg unselected]

/-- A condition that asks for a key selects one row. -/
theorem count_one (unique : Unique key rows) {k : K}
    (asks : ∀ row, selects row = true → key row = k) (one : rows.countP selects = 1) :
    ∃ row, find key k rows = some row ∧ selects row = true := by
  rw [count_of_unique unique asks] at one
  cases found : find key k rows with
  | none =>
    rw [found] at one
    cases one
  | some row =>
    rw [found] at one
    by_cases selected : selects row = true
    · exact ⟨row, rfl, selected⟩
    · rw [if_neg (by simpa using selected)] at one
      cases one

/-- Under a unique index, a condition that asks for a key changes the row under it, or nothing. -/
theorem update_cases (unique : Unique key rows) {k : K}
    (asks : ∀ row, selects row = true → key row = k)
    (keeps : ∀ row, selects row = true → key (set row) = key row) :
    (rows.countP selects = 1 ∧ ∃ row, find key k rows = some row ∧ selects row = true ∧
      find key k (update selects set rows) = some (set row)) ∨
    (rows.countP selects = 0 ∧ update selects set rows = rows) := by
  by_cases one : rows.countP selects = 1
  · obtain ⟨row, found, selected⟩ := count_one unique asks one
    refine .inl ⟨one, row, found, selected, ?_⟩
    rw [find_update keeps, found, Option.map_some, if_pos selected]
  · have zero : rows.countP selects = 0 := by
      have counted := count_of_unique unique asks
      split at counted
      · exact absurd counted one
      · exact counted
    refine .inr ⟨zero, update_of_none fun row listed => ?_⟩
    exact Bool.not_eq_true _ ▸ List.countP_eq_zero.mp zero row listed

end Base.Table
