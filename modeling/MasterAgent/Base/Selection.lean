import Mathlib.Data.List.Lex
import Mathlib.Data.List.Nodup
import Mathlib.Data.List.Perm.Basic
import Mathlib.Order.MinMax

/-!
# Selection by precedence

Choosing among the candidates that match: the first of greatest key, or the only one.

Results:

1. `best_of_first`, `exists_order`: the first candidate of greatest key is a best one, and every
   best one comes first in some order of the candidates;
2. `first_order_free_iff`: what is computed from the first one ignores the order exactly if all
   best candidates agree on it;
3. `greatest_perm`, `greatest_eq_singleton`: the set of best candidates ignores the order, and is a
   single one exactly if that one exceeds all others.
-/

namespace Base.Selection

variable {R K : Type} [LinearOrder K] (key : R → K)

/-- A candidate of greatest key. -/
def Best (candidates : List R) (r : R) : Prop := r ∈ candidates ∧ ∀ s ∈ candidates, key s ≤ key r

variable {key}

theorem Best.perm {c d : List R} (same : c.Perm d) {r : R} (best : Best key c r) :
    Best key d r :=
  ⟨same.mem_iff.mp best.1, fun s hs => best.2 s (same.mem_iff.mpr hs)⟩

theorem best_of_first {candidates : List R} {r : R} (chosen : candidates.maxOn? key = some r) :
    Best key candidates r := by
  refine ⟨List.maxOn?_mem chosen, fun s hs => ?_⟩
  have bound := List.le_apply_get_maxOn?_of_mem (f := key) hs
  simpa [chosen] using bound

theorem first_eq_none_iff {candidates : List R} : candidates.maxOn? key = none ↔ candidates = [] := by
  rw [← Option.not_isSome_iff_eq_none, List.isSome_maxOn?_iff, not_not]

/-- A best candidate that stands first is chosen. -/
theorem first_of_head {r : R} {rest : List R} (best : ∀ s ∈ rest, key s ≤ key r) :
    (r :: rest).maxOn? key = some r := by
  rw [List.maxOn?_cons]
  cases chosen : rest.maxOn? key with
  | none => rfl
  | some s =>
      rw [Option.elim_some, maxOn_eq_left (best s (best_of_first chosen).1)]

/-- Every best match is chosen in some order of the candidates. -/
theorem exists_order {p : R → Bool} {candidates : List R} {r : R}
    (best : Best key (candidates.filter p) r) :
    ∃ order : List R, order.Perm candidates ∧ (order.filter p).maxOn? key = some r := by
  obtain ⟨listed, matched⟩ := List.mem_filter.mp best.1
  obtain ⟨before, after, split⟩ := List.append_of_mem listed
  have order : (r :: (before ++ after)).Perm candidates := by
    rw [split]
    exact List.perm_middle.symm
  refine ⟨r :: (before ++ after), order, ?_⟩
  rw [List.filter_cons_of_pos matched]
  refine first_of_head fun s hs => best.2 s ?_
  refine (order.filter p).mem_iff.mp ?_
  rw [List.filter_cons_of_pos matched]
  exact List.mem_cons_of_mem r hs

/-- A result computed from the first best match is the same in every order of the candidates
exactly if the best matches agree on it. -/
theorem first_order_free_iff {S : Type} {f : Option R → S} {p : R → Bool} {candidates : List R} :
    (∀ order : List R, order.Perm candidates →
      f ((order.filter p).maxOn? key) = f ((candidates.filter p).maxOn? key)) ↔
    ∀ r s, Best key (candidates.filter p) r → Best key (candidates.filter p) s →
      f (some r) = f (some s) := by
  constructor
  · intro free r s hr hs
    obtain ⟨first, hfirst, r_chosen⟩ := exists_order hr
    obtain ⟨second, hsecond, s_chosen⟩ := exists_order hs
    rw [← r_chosen, ← s_chosen, free first hfirst, free second hsecond]
  · intro agree order same
    have matches_same := same.filter p
    cases chosen : (order.filter p).maxOn? key with
    | none =>
        rw [first_eq_none_iff.mp chosen, List.nil_perm] at matches_same
        rw [matches_same]
        rfl
    | some r =>
        cases other : (candidates.filter p).maxOn? key with
        | none =>
            rw [first_eq_none_iff.mp other, List.perm_nil] at matches_same
            rw [matches_same] at chosen
            cases chosen
        | some s => exact agree r s ((best_of_first chosen).perm matches_same) (best_of_first other)

/-! ## All of the best -/

variable (key) in
/-- The candidates whose key is the greatest of all keys. -/
def greatest (candidates : List R) : List R :=
  match (candidates.map key).max? with
  | none => []
  | some best => candidates.filter (key · = best)

theorem mem_greatest {candidates : List R} {r : R} :
    r ∈ greatest key candidates ↔ Best key candidates r := by
  unfold greatest
  cases top : (candidates.map key).max? with
  | none =>
      rw [List.max?_eq_none_iff, List.map_eq_nil_iff] at top
      subst top
      simp [Best]
  | some best =>
      obtain ⟨reached, bound⟩ := List.max?_eq_some_iff.mp top
      simp only [List.mem_filter, decide_eq_true_eq, Best]
      refine and_congr_right fun listed => ⟨?_, fun above => ?_⟩
      · rintro rfl s hs
        exact bound _ (List.mem_map_of_mem hs)
      · obtain ⟨s, hs, rfl⟩ := List.mem_map.mp reached
        exact le_antisymm (bound _ (List.mem_map_of_mem listed)) (above s hs)

theorem greatest_sublist (candidates : List R) : (greatest key candidates).Sublist candidates := by
  unfold greatest
  split
  · exact List.nil_sublist _
  · exact List.filter_sublist

theorem greatest_perm {c d : List R} (same : c.Perm d) :
    (greatest key c).Perm (greatest key d) := by
  have tops : (c.map key).max? = (d.map key).max? := by
    refine Option.ext fun top => ?_
    have members : ∀ k, k ∈ c.map key ↔ k ∈ d.map key := fun k => (same.map key).mem_iff
    rw [List.max?_eq_some_iff, List.max?_eq_some_iff, members]
    exact and_congr_right fun _ => forall_congr' fun k => by rw [members]
  unfold greatest
  rw [tops]
  split
  · exact .nil
  · exact same.filter _

/-- A candidate is the only best one exactly if it exceeds every other. -/
theorem greatest_eq_singleton {candidates : List R} (nodup : candidates.Nodup) {r : R} :
    greatest key candidates = [r] ↔
      r ∈ candidates ∧ ∀ s ∈ candidates, s ≠ r → key s < key r := by
  constructor
  · intro only
    have best : Best key candidates r := mem_greatest.mp (only ▸ List.mem_singleton_self r)
    refine ⟨best.1, fun s hs other => lt_of_le_of_ne (best.2 s hs) fun tied => other ?_⟩
    have also : s ∈ greatest key candidates :=
      mem_greatest.mpr ⟨hs, fun t ht => tied ▸ best.2 t ht⟩
    rw [only] at also
    exact List.mem_singleton.mp also
  · rintro ⟨listed, above⟩
    have members : ∀ s, s ∈ greatest key candidates ↔ s ∈ [r] := by
      intro s
      rw [mem_greatest, List.mem_singleton]
      constructor
      · intro best
        by_contra other
        exact absurd (best.2 r listed) (not_le_of_gt (above s best.1 other))
      · rintro rfl
        refine ⟨listed, fun t ht => ?_⟩
        by_cases same : t = s
        · rw [same]
        · exact le_of_lt (above t ht same)
    have once : (greatest key candidates).Nodup := (greatest_sublist candidates).nodup nodup
    exact List.perm_singleton.mp
      ((List.perm_ext_iff_of_nodup once (List.nodup_singleton r)).mpr members)

end Base.Selection
