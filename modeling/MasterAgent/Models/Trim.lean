import Mathlib.Data.List.DropRight
import MasterAgent.Models.Checks

/-!
# Trimmed texts

`strip` removes the spaces at both ends of a text. What it leaves has none there, so that stripping
again changes nothing.
-/

namespace MasterAgent

/-- The characters that `strip` leaves. -/
theorem strip_eq (s : String) :
    strip s = String.ofList ((s.toList.dropWhile isSpace).rdropWhile isSpace) := rfl

theorem dropWhile_rdropWhile {p : Char → Bool} {cs : List Char} (kept : cs.dropWhile p = cs) :
    (cs.rdropWhile p).dropWhile p = cs.rdropWhile p := by
  rw [List.dropWhile_eq_self_iff] at kept ⊢
  intro nonempty
  have isPrefix := List.rdropWhile_prefix p (l := cs)
  rw [isPrefix.getElem nonempty]
  exact kept (nonempty.trans_le isPrefix.length_le)

theorem strip_strip (s : String) : strip (strip s) = strip s := by
  rw [strip_eq (strip s), strip_eq s, String.toList_ofList,
    dropWhile_rdropWhile (List.dropWhile_idempotent _ _), List.rdropWhile_idempotent]

/-- A text without spaces has nothing to strip. -/
theorem strip_of_plain {s : String} (plain : ∀ c ∈ s.toList, isSpace c = false) : strip s = s := by
  have kept : ∀ cs : List Char, (∀ c ∈ cs, isSpace c = false) → cs.dropWhile isSpace = cs := by
    intro cs none
    rw [List.dropWhile_eq_self_iff]
    intro nonempty
    rw [none _ (List.getElem_mem nonempty)]
    exact Bool.false_ne_true
  unfold strip
  rw [kept _ plain, kept _ fun c listed => plain c (List.mem_reverse.mp listed),
    List.reverse_reverse, String.ofList_toList]

/-- A text that is as long stripped has nothing to strip. -/
theorem strip_eq_of_length {s : String} (same : (strip s).length = s.length) : strip s = s := by
  have inner : List.Sublist ((s.toList.dropWhile isSpace).rdropWhile isSpace) s.toList :=
    (List.rdropWhile_prefix _ _).sublist.trans (List.dropWhile_suffix isSpace).sublist
  rw [strip_eq] at same ⊢
  rw [String.length_ofList, ← String.length_toList] at same
  rw [inner.eq_of_length same, String.ofList_toList]

end MasterAgent
