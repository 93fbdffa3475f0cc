import MasterAgent.Base.Frames

/-!
# The order of encoded texts

Texts compare byte by byte as they compare character by character: the first byte of an encoded character
says how many follow, and the more follow the greater the character.
-/

namespace Base

theorem ofNat_lt_iff {m n : Nat} : UInt8.ofNat m < UInt8.ofNat n ↔ m % 256 < n % 256 := by
  rw [UInt8.lt_iff_toNat_lt, UInt8.toNat_ofNat', UInt8.toNat_ofNat']

theorem ofNat_eq_iff {m n : Nat} : UInt8.ofNat m = UInt8.ofNat n ↔ m % 256 = n % 256 := by
  rw [← UInt8.toNat_inj, UInt8.toNat_ofNat', UInt8.toNat_ofNat']

/-- The smaller of two characters decides, whatever follows. -/
theorem encode_lt {c d : Char} (less : c < d) (r s : List UInt8) :
    String.utf8EncodeChar c ++ r < String.utf8EncodeChar d ++ s := by
  have values : c.val.toNat < d.val.toNat := less
  have range : d.val.toNat < 1114112 := by
    rcases d.valid with low | ⟨-, high⟩
    · exact Nat.lt_trans low (by decide)
    · exact high
  unfold String.utf8EncodeChar
  dsimp only
  generalize c.val.toNat = m, d.val.toNat = n at values range
  -- the digits of a number to the base 64
  have second (k : Nat) : k / 4096 = k / 64 / 64 := by omega
  have third (k : Nat) : k / 262144 = k / 64 / 64 / 64 := by omega
  rw [second m, second n, third m, third n]
  by_cases rest : r < s <;> split_ifs <;>
    simp only [List.cons_append, List.nil_append, List.cons_lt_cons_iff, ofNat_lt_iff, ofNat_eq_iff, rest,
      and_true, and_false, or_false] <;>
    simp (disch := omega) only [Nat.mod_eq_of_lt (b := 256)] <;> omega

theorem encode_ne_nil (c : Char) : String.utf8EncodeChar c ≠ [] := by
  rw [← List.length_pos_iff, String.length_utf8EncodeChar]
  exact c.utf8Size_pos

/-- Behind the same bytes. -/
theorem append_lt_iff (front : List UInt8) {r s : List UInt8} : front ++ r < front ++ s ↔ r < s := by
  induction front with
  | nil => rfl
  | cons byte front ih =>
    rw [List.cons_append, List.cons_append, List.cons_lt_cons_iff, ih]
    exact ⟨fun h => h.elim (fun less => absurd less (UInt8.lt_irrefl byte)) And.right, fun h => .inr ⟨rfl, h⟩⟩

theorem flatMap_encode_lt_iff {cs ds : List Char} :
    cs.flatMap String.utf8EncodeChar < ds.flatMap String.utf8EncodeChar ↔ cs < ds := by
  induction cs generalizing ds with
  | nil =>
    cases ds with
    | nil => simp [List.lt_irrefl]
    | cons d ds =>
      rw [List.flatMap_nil, List.flatMap_cons]
      obtain ⟨byte, bytes, shape⟩ := List.exists_cons_of_ne_nil (encode_ne_nil d)
      rw [shape]
      exact iff_of_true (List.nil_lt_cons _ _) (List.nil_lt_cons _ _)
  | cons c cs ih =>
    cases ds with
    | nil => simp
    | cons d ds =>
      rw [List.flatMap_cons, List.flatMap_cons, List.cons_lt_cons_iff]
      by_cases less : c < d
      · exact iff_of_true (encode_lt less _ _) (.inl less)
      · by_cases same : c = d
        · subst same
          rw [append_lt_iff, ih]
          exact ⟨fun h => .inr ⟨rfl, h⟩, fun h => h.elim (absurd · less) And.right⟩
        · have more : d < c := Std.lt_of_le_of_ne (Char.not_lt.mp less) (Ne.symm same)
          refine iff_of_false ?_ (fun h => h.elim less fun both => same both.1)
          exact List.lt_asymm (encode_lt more _ _)

/-- Texts compare byte by byte as they compare character by character. -/
theorem utf8_lt_iff {s t : String} : utf8 s < utf8 t ↔ s.toList < t.toList := by
  rw [utf8_eq, utf8_eq, flatMap_encode_lt_iff]

end Base
