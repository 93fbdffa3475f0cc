import Mathlib.Algebra.Ring.Nat
import Mathlib.Data.List.Basic

/-!
# Length-prefixed frames

A sequence of byte strings is written as one byte string, each frame after its length. Result: what
was written determines the frames (`frames_inj`).
-/

namespace Base

/-- The last `width` bytes of a number, most significant first. -/
def bigEndian : Nat → Nat → List UInt8
  | 0, _ => []
  | width + 1, n => bigEndian width (n / 256) ++ [UInt8.ofNat n]

theorem length_bigEndian {width n : Nat} : (bigEndian width n).length = width := by
  induction width generalizing n with
  | zero => rfl
  | succ width ih => rw [bigEndian, List.length_append, ih, List.length_singleton]

/-- A number that fits the width is determined by its bytes. -/
theorem bigEndian_inj {width m n : Nat} (hm : m < 256 ^ width) (hn : n < 256 ^ width)
    (same : bigEndian width m = bigEndian width n) : m = n := by
  induction width generalizing m n with
  | zero =>
    rw [Nat.pow_zero, Nat.lt_one_iff] at hm hn
    rw [hm, hn]
  | succ width ih =>
    obtain ⟨high, low⟩ := List.append_inj' same rfl
    have lowByte := congrArg UInt8.toNat (List.singleton_inj.mp low)
    rw [UInt8.toNat_ofNat', UInt8.toNat_ofNat'] at lowByte
    rw [Nat.pow_succ] at hm hn
    have highPart := ih (Nat.div_lt_of_lt_mul (Nat.mul_comm _ _ ▸ hm))
      (Nat.div_lt_of_lt_mul (Nat.mul_comm _ _ ▸ hn)) high
    omega

/-- A byte string after its length in `width` bytes. -/
def frame (width : Nat) (bytes : List UInt8) : List UInt8 := bigEndian width bytes.length ++ bytes

def frames (width : Nat) (strings : List (List UInt8)) : List UInt8 := strings.flatMap (frame width)

variable {width : Nat}

/-- The first frame is determined, and with it what follows. -/
theorem frame_cut {xs ys s t : List UInt8} (hx : xs.length < 256 ^ width)
    (hy : ys.length < 256 ^ width) (same : frame width xs ++ s = frame width ys ++ t) :
    xs = ys ∧ s = t := by
  unfold frame at same
  rw [List.append_assoc, List.append_assoc] at same
  obtain ⟨lengths, rest⟩ := List.append_inj same (length_bigEndian.trans length_bigEndian.symm)
  exact List.append_inj rest (bigEndian_inj hx hy lengths)

/-- What was written determines the frames. -/
theorem frames_inj (positive : 0 < width) {xs ys : List (List UInt8)}
    (hx : ∀ bytes ∈ xs, bytes.length < 256 ^ width) (hy : ∀ bytes ∈ ys, bytes.length < 256 ^ width)
    (same : frames width xs = frames width ys) : xs = ys := by
  have nonempty : ∀ bytes : List UInt8, frame width bytes ≠ [] := by
    intro bytes empty
    have lengths := congrArg List.length empty
    rw [frame, List.length_append, length_bigEndian, List.length_nil] at lengths
    omega
  induction xs generalizing ys with
  | nil =>
    cases ys with
    | nil => rfl
    | cons y ys => exact absurd (List.append_eq_nil_iff.mp same.symm).1 (nonempty y)
  | cons x xs ih =>
    cases ys with
    | nil => exact absurd (List.append_eq_nil_iff.mp same).1 (nonempty x)
    | cons y ys =>
      rw [List.forall_mem_cons] at hx hy
      obtain ⟨rfl, rest⟩ := frame_cut hx.1 hy.1 same
      rw [ih hx.2 hy.2 rest]

/-! ## Text -/

/-- `text.encode("utf-8")` -/
def utf8 (text : String) : List UInt8 := text.toUTF8.data.toList

theorem utf8_inj {s t : String} (same : utf8 s = utf8 t) : s = t :=
  String.toByteArray_inj.mp (ByteArray.ext (Array.toList_inj.mp same))

theorem utf8_eq (s : String) : utf8 s = s.toList.flatMap String.utf8EncodeChar := by
  change s.toByteArray.data.toList = _
  rw [← String.utf8Encode_toList, List.utf8Encode, List.data_toByteArray]

/-- Only the character NUL is encoded with a zero byte. -/
theorem encode_zero {c : Char} (zero : (0 : UInt8) ∈ String.utf8EncodeChar c) : c = '\x00' := by
  unfold String.utf8EncodeChar at zero
  have number (n : Nat) : (0 : UInt8) = UInt8.ofNat n → n % 256 = 0 := by
    intro same
    have values := congrArg UInt8.toNat same
    rw [UInt8.toNat_ofNat'] at values
    exact values.symm
  dsimp only at zero
  split at zero
  · have low := number _ (List.mem_singleton.mp zero)
    apply Char.toNat_inj.mp
    change c.val.toNat = 0
    omega
  · -- every byte of a longer sequence has its highest bit set
    exfalso
    split at zero
    · rcases List.mem_cons.mp zero with same | zero
      · have := number _ same
        omega
      · have := number _ (List.mem_singleton.mp zero)
        omega
    · split at zero <;> simp only [List.mem_cons, List.not_mem_nil, or_false] at zero
      · rcases zero with same | same | same <;> have := number _ same <;> omega
      · rcases zero with same | same | same | same <;> have := number _ same <;> omega

theorem zero_mem_utf8 {s : String} (zero : (0 : UInt8) ∈ utf8 s) : '\x00' ∈ s.toList := by
  rw [utf8_eq] at zero
  obtain ⟨c, listed, byte⟩ := List.mem_flatMap.mp zero
  exact encode_zero byte ▸ listed

/-- A character takes at least one byte. -/
theorem length_le_utf8ByteSize (s : String) : s.length ≤ s.utf8ByteSize := by
  have encoded (cs : List Char) : cs.length ≤ (cs.flatMap String.utf8EncodeChar).length := by
    induction cs with
    | nil => exact Nat.le_refl 0
    | cons c cs ih =>
      have least := c.utf8Size_pos
      rw [List.flatMap_cons, List.length_append, String.length_utf8EncodeChar, List.length_cons]
      omega
  have bytes : (utf8 s).length = s.utf8ByteSize := rfl
  rw [← bytes, utf8_eq, ← String.length_toList]
  exact encoded s.toList

/-- The bytes of a text are decoded to the text. -/
theorem fromUTF8?_utf8 (text : String) : String.fromUTF8? ⟨(utf8 text).toArray⟩ = some text := by
  have bytes : (⟨(utf8 text).toArray⟩ : ByteArray) = text.toByteArray := by
    rw [utf8, Array.toArray_toList]
    rfl
  rw [bytes, String.fromUTF8?]
  split
  · rfl
  · rename_i invalid
    exact absurd text.isValidUTF8 (by simpa using invalid)

end Base
