import MasterAgent.Base.Numerals
import MasterAgent.Models.Limits

/-!
# What integers are charged

The bytes that a measurement charges for an integer come from its bits: `30103 / 100000` of a
character for each, rounded up. The length of its decimal text stays below that.

Results:

1. `length_le_integerCharacters`, `integerCharacters_le_length`: what is charged against the length;
2. `integer_characters_bound`: the bound, and what it means for the byte budget.
-/

namespace MasterAgent
open Base Base.Json Base.Numerals

/-! ## The charge of an integer -/

/-- `log 2 / log 10 ≤ 30103 / 100000` -/
theorem charged_ratio : Ratio 2 10 30103 100000 where
  base := by decide
  pos := by decide
  powers := by decide +kernel

/-- `log 10 / log 2 ≤ 100000 / 30102` -/
theorem spared_ratio : Ratio 10 2 100000 30102 where
  base := by decide
  pos := by decide
  powers := by decide +kernel

/-- The decimal text is the digits of the magnitude, after a sign if there is one. -/
theorem length_intChars (n : Int) :
    (intChars n).length = (Nat.toDigits 10 n.natAbs).length + if n < 0 then 1 else 0 := by
  cases n with
  | ofNat n => simp [intChars]
  | negSucc n => simp [intChars, Int.negSucc_lt_zero]

theorem length_le_integerCharacters (n : Int) : (intChars n).length ≤ integerCharacters n := by
  unfold integerCharacters
  split
  · next zero =>
    subst zero
    decide
  · rw [length_intChars]
    refine Nat.add_le_add_right (length_toDigits_le (by decide) charged_ratio ?_ ?_) _ <;> omega

/-- The charge of an integer of at most 69899 bits is one above the length at most. -/
theorem integerCharacters_le_length {n : Int} (small : n.natAbs.log2 < 69899) :
    integerCharacters n ≤ (intChars n).length + 1 := by
  unfold integerCharacters
  split
  · exact Nat.le_add_left 1 _
  · next nonzero =>
    have digits : ((n.natAbs.log2 + 1) * 30103 + 99999) / 100000 - 2 < (Nat.toDigits 10 n.natAbs).length :=
      lt_length_toDigits (by decide) spared_ratio (Int.natAbs_ne_zero.mpr nonzero) (by omega)
    rw [length_intChars]
    dsimp only
    omega

/-! ## The byte budget -/

mutual
/-- Bytes of the scalars and the keys, an integer with the length of its decimal text. -/
def writtenBytes : Json → Nat
  | .null => 4
  | .bool b => if b then 4 else 5
  | .int n => (intChars n).length
  | .float _ => 24
  | .str s => s.utf8ByteSize
  | .arr items => writtenBytesOfItems items
  | .obj fields => bytesOfKeys fields + writtenBytesOfMembers fields
def writtenBytesOfItems : List Json → Nat
  | [] => 0
  | item :: items => writtenBytes item + writtenBytesOfItems items
def writtenBytesOfMembers : Fields → Nat
  | [] => 0
  | (_, value) :: fields => writtenBytes value + writtenBytesOfMembers fields
end

mutual
theorem written_le_jsonBytes : ∀ value : Json, writtenBytes value ≤ jsonBytes value
  | .null | .bool _ | .float _ | .str _ => Nat.le_refl _
  | .int n => length_le_integerCharacters n
  | .arr items => written_le_bytesOfItems items
  | .obj fields => Nat.add_le_add_left (written_le_bytesOfMembers fields) _
theorem written_le_bytesOfItems : ∀ items : List Json, writtenBytesOfItems items ≤ bytesOfItems items
  | [] => Nat.le_refl _
  | item :: items => Nat.add_le_add (written_le_jsonBytes item) (written_le_bytesOfItems items)
theorem written_le_bytesOfMembers : ∀ fields : Fields, writtenBytesOfMembers fields ≤ bytesOfMembers fields
  | [] => Nat.le_refl _
  | (_, value) :: fields =>
      Nat.add_le_add (written_le_jsonBytes value) (written_le_bytesOfMembers fields)
end

/-- What a measurement that accepts has counted. -/
theorem measured_bytes {context : String} {maxBytes : Nat} {value : Json} {usage : JsonResourceUsage}
    (measured : measureJsonResources context maxBytes value = .ok usage) :
    usage.scalarBytes = jsonBytes value ∧ jsonBytes value ≤ maxBytes := by
  have walk : Walk maxBytes 1 ⟨0, 0, 0⟩ (measureNode context maxBytes 1 ⟨0, 0, 0⟩ value) _ _ _ _ :=
    measureNode_walk value
  obtain ⟨-, counted⟩ := walk.1 usage measured
  exact ⟨counted.trans (Nat.zero_add _), (measured_iff.mp ⟨usage, measured⟩).2.2.1⟩

/-- The charge of an integer is at least the length of its decimal text, and at most two above it below
`2 ^ 10000`. What a measurement counts is therefore at least what its integers are long, with every
other scalar counted as it is charged. -/
theorem integer_characters_bound :
    (∀ n : Int, (intChars n).length ≤ integerCharacters n ∧
      (n.natAbs < 2 ^ 10000 → integerCharacters n ≤ (intChars n).length + 2)) ∧
    ∀ context maxBytes value usage, measureJsonResources context maxBytes value = .ok usage →
      writtenBytes value ≤ usage.scalarBytes ∧ writtenBytes value ≤ maxBytes := by
  refine ⟨fun n => ⟨length_le_integerCharacters n, fun small => ?_⟩, ?_⟩
  · have bits : n.natAbs.log2 < 69899 := by
      rcases Nat.eq_zero_or_pos n.natAbs with zero | positive
      · rw [zero]
        decide
      · exact ((Nat.log2_lt positive.ne').mpr small).trans (by decide)
    exact (integerCharacters_le_length bits).trans (Nat.le_succ _)
  · intro context maxBytes value usage measured
    obtain ⟨counted, within⟩ := measured_bytes measured
    have written := written_le_jsonBytes value
    exact ⟨counted ▸ written, written.trans within⟩

/-- Two integers, four characters and one. -/
def readings : Json := .obj [("offset", .int (-120)), ("step", .int 7)]

theorem readings_charged : integerCharacters (-120) ≤ 6 ∧ writtenBytes readings ≤ 15 :=
  ⟨(integer_characters_bound.1 (-120)).2 (by decide +kernel),
    (integer_characters_bound.2 "readings" 15 readings ⟨3, 15, 2⟩ (by decide +kernel)).2⟩

end MasterAgent
