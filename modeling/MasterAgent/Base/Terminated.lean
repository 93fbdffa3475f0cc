import Mathlib.Data.List.Basic

/-!
# Terminated records

A sequence of records is written as one list, each record before a mark. A record may hold the mark
itself; what was written then does not say where the records end.

Results:

1. `terminated_eq_iff`: what is written alike for two sequences;
2. `eq_iff_not_recut`: when they are the same sequence;
3. `terminated_cut`: records without the mark are told from what follows them.
-/

namespace Base.Terminated

variable {α : Type} [BEq α] [LawfulBEq α] {mark : α}

def terminated (mark : α) (records : List (List α)) : List α := records.flatMap (· ++ [mark])

/-- The texts between the marks, in their order. -/
def texts (mark : α) (records : List (List α)) : List (List α) := records.flatMap (·.splitOn mark)

/-- How many texts each record is made of. -/
def cuts (mark : α) (records : List (List α)) : List Nat := records.map fun r => (r.splitOn mark).length

/-- The same texts between the marks, put together to other records. -/
structure Recut (mark : α) (xs ys : List (List α)) : Prop where
  texts : texts mark xs = texts mark ys
  cuts : cuts mark xs ≠ cuts mark ys

theorem splitOn_terminated (records : List (List α)) :
    (terminated mark records).splitOn mark = texts mark records ++ [[]] := by
  induction records with
  | nil => exact List.splitOn_nil mark
  | cons r records ih =>
    change ((r ++ [mark]) ++ terminated mark records).splitOn mark = _
    rw [List.append_assoc, List.singleton_append, List.splitOn_append_cons_self, ih,
      ← List.append_assoc]
    rfl

/-- Splitting loses nothing. -/
theorem splitOn_inj {xs ys : List α} (same : xs.splitOn mark = ys.splitOn mark) : xs = ys := by
  have joined : [mark].intercalate (xs.splitOn mark) = xs := List.intercalate_splitOn mark
  rw [← joined, same, List.intercalate_splitOn]

/-- Two sequences are written alike when they have the same texts between the marks. -/
theorem terminated_eq_iff {xs ys : List (List α)} :
    terminated mark xs = terminated mark ys ↔ texts mark xs = texts mark ys := by
  constructor
  · intro same
    have split := congrArg (List.splitOn mark) same
    rw [splitOn_terminated, splitOn_terminated] at split
    exact List.append_cancel_right split
  · intro same
    refine @splitOn_inj _ _ _ mark _ _ ?_
    rw [splitOn_terminated, splitOn_terminated, same]

/-- The same texts, put together alike, are the same records. -/
theorem eq_of_cuts : ∀ {xs ys : List (List α)}, texts mark xs = texts mark ys →
    cuts mark xs = cuts mark ys → xs = ys
  | [], [], _, _ => rfl
  | [], _ :: _, _, cut => nomatch cut
  | _ :: _, [], _, cut => nomatch cut
  | x :: xs, y :: ys, same, cut => by
    obtain ⟨length, rest⟩ := List.cons.inj cut
    obtain ⟨first, later⟩ := List.append_inj same length
    rw [splitOn_inj first, eq_of_cuts later rest]

/-- Sequences that are written alike are the same unless one is the other recut. -/
theorem eq_iff_not_recut {xs ys : List (List α)} (same : terminated mark xs = terminated mark ys) :
    xs = ys ↔ ¬ Recut mark xs ys := by
  constructor
  · rintro rfl recut
    exact recut.cuts rfl
  · intro kept
    have read := terminated_eq_iff.mp same
    exact eq_of_cuts read (by_contra fun differ => kept ⟨read, differ⟩)

/-- Records without the mark are told from what follows them. -/
theorem terminated_cut : ∀ {xs ys : List (List α)} {s t : List α}, xs.length = ys.length →
    (∀ r ∈ xs, mark ∉ r) → (∀ r ∈ ys, mark ∉ r) →
    terminated mark xs ++ s = terminated mark ys ++ t → xs = ys ∧ s = t
  | [], [], _, _, _, _, _, same => ⟨rfl, same⟩
  | [], _ :: _, _, _, length, _, _, _ => nomatch length
  | _ :: _, [], _, _, length, _, _, _ => nomatch length
  | x :: xs, y :: ys, s, t, length, hx, hy, same => by
    rw [List.forall_mem_cons] at hx hy
    have split := congrArg (List.splitOn mark) same
    change (((x ++ [mark]) ++ terminated mark xs) ++ s).splitOn mark =
      (((y ++ [mark]) ++ terminated mark ys) ++ t).splitOn mark at split
    rw [List.append_assoc, List.append_assoc, List.singleton_append, List.splitOn_append_cons_self,
      List.append_assoc, List.append_assoc, List.singleton_append, List.splitOn_append_cons_self,
      List.splitOn_eq_singleton hx.1, List.splitOn_eq_singleton hy.1] at split
    obtain ⟨first, later⟩ := List.cons.inj split
    obtain ⟨rest, last⟩ := terminated_cut (Nat.succ.inj length) hx.2 hy.2 (splitOn_inj later)
    exact ⟨by rw [first, rest], last⟩

end Base.Terminated
