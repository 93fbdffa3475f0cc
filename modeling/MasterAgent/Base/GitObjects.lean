import Mathlib.Data.List.Basic
import MasterAgent.Base.Frames
import MasterAgent.Base.Json

/-!
# Git objects

The byte formats of a Git repository: an object is hashed together with its type and its length, and
a tree object lists its entries one after another, each with its mode, its name and the raw
identifier of what it names.

Results:

1. `find_iff`, `slice_of_drop`: searching and cutting a byte string, as splits of its suffixes;
2. `hexText_inj`: the hexadecimal text determines the bytes;
3. `framed_inj`: what is hashed determines the object of its type.
-/

namespace Base.GitObjects

abbrev Bytes := List UInt8

def SPACE : UInt8 := 32
def NUL : UInt8 := 0
def SLASH : UInt8 := 47

/-! ## Searching and cutting -/

section
variable {payload front rest : Bytes} {byte : UInt8} {start : Nat}

/-- `payload.find(byte, start)`, `none` where it is -1. -/
def find (payload : Bytes) (byte : UInt8) (start : Nat) : Option Nat :=
  ((payload.drop start).findIdx? (· == byte)).map (start + ·)

/-- `payload[start:stop]` -/
def slice (payload : Bytes) (start stop : Nat) : Bytes := (payload.take stop).drop start

theorem findIdx_append (absent : byte ∉ front) :
    (front ++ byte :: rest).findIdx? (· == byte) = some front.length := by
  induction front with
  | nil => rw [List.nil_append, List.findIdx?_cons, beq_self_eq_true, if_pos rfl, List.length_nil]
  | cons head front ih =>
    rw [List.mem_cons, not_or] at absent
    rw [List.cons_append, List.findIdx?_cons, ih absent.2, beq_eq_false_iff_ne.mpr (Ne.symm absent.1)]
    rfl

/-- The first occurrence of a byte is where the front ends. -/
theorem cut_inj {front' rest' : Bytes} (absent : byte ∉ front) (absent' : byte ∉ front')
    (same : front ++ byte :: rest = front' ++ byte :: rest') : front = front' ∧ rest = rest' := by
  have place := @findIdx_append _ rest _ absent
  rw [same, findIdx_append absent', Option.some.injEq] at place
  obtain ⟨fronts, rests⟩ := List.append_inj same place.symm
  exact ⟨fronts, (List.cons.inj rests).2⟩

theorem find_iff {index : Nat} :
    find payload byte start = some index ↔
      ∃ front rest, payload.drop start = front ++ byte :: rest ∧ byte ∉ front ∧
        index = start + front.length := by
  constructor
  · intro found
    obtain ⟨offset, located, rfl⟩ := Option.map_eq_some_iff.mp found
    obtain ⟨inside, here, before⟩ := List.findIdx?_eq_some_iff_getElem.mp located
    refine ⟨(payload.drop start).take offset, (payload.drop start).drop (offset + 1), ?_, ?_, ?_⟩
    · rw [beq_iff_eq] at here
      rw [← here, ← List.drop_eq_getElem_cons inside, List.take_append_drop]
    · intro early
      obtain ⟨i, lt, same⟩ := List.mem_iff_getElem.mp early
      rw [List.length_take] at lt
      rw [List.getElem_take] at same
      exact absurd (beq_iff_eq.mpr same) (by simpa using before i (by omega))
    · rw [List.length_take, Nat.min_eq_left inside.le]
  · rintro ⟨front, rest, split, absent, rfl⟩
    rw [find, split, findIdx_append absent, Option.map_some]

theorem slice_of_drop (split : payload.drop start = front ++ rest) :
    slice payload start (start + front.length) = front := by
  rw [slice, List.drop_take, split, Nat.add_sub_cancel_left, List.take_left]

/-- What follows a separator. -/
theorem drop_past (split : payload.drop start = front ++ byte :: rest) :
    payload.drop (start + front.length + 1) = rest := by
  rw [← List.drop_drop, ← List.drop_drop, split, List.drop_left, List.drop_succ_cons, List.drop_zero]

end

/-! ## Hexadecimal text -/

/-- `raw.hex()` -/
def hexText (raw : Bytes) : String :=
  String.ofList (raw.flatMap fun byte => [Json.hexChar (byte.toNat / 16), Json.hexChar (byte.toNat % 16)])

theorem hexPair_inj : ∀ a < 256, ∀ b < 256,
    Json.hexChar (a / 16) = Json.hexChar (b / 16) → Json.hexChar (a % 16) = Json.hexChar (b % 16) →
      a = b := by
  have digit : ∀ i < 16, ∀ j < 16, Json.hexChar i = Json.hexChar j → i = j := by decide
  intro a ha b hb high low
  have highs := digit (a / 16) (by omega) (b / 16) (by omega) high
  have lows := digit (a % 16) (by omega) (b % 16) (by omega) low
  omega

theorem hexText_inj {a b : Bytes} (same : hexText a = hexText b) : a = b := by
  have chars := String.ofList_injective same
  clear same
  induction a generalizing b with
  | nil =>
    cases b with
    | nil => rfl
    | cons y ys => cases chars
  | cons x xs ih =>
    cases b with
    | nil => cases chars
    | cons y ys =>
      simp only [List.flatMap_cons, List.cons_append, List.nil_append, List.cons.injEq] at chars
      obtain ⟨high, low, rest⟩ := chars
      have numbers := hexPair_inj _ x.toNat_lt _ y.toNat_lt high low
      rw [UInt8.toNat_inj.mp numbers, ih rest]

/-! ## Objects -/

inductive ObjectType where
  | blob | commit | tree
deriving DecidableEq, Repr

def ObjectType.str : ObjectType → String
  | blob => "blob"
  | commit => "commit"
  | tree => "tree"

/-- `text.encode("ascii")` of an ASCII text. -/
def ascii (text : List Char) : Bytes := text.map fun c => UInt8.ofNat c.toNat

/-- What an object's identifier is the digest of: `f"{type} {len(payload)}\0"` and the payload. -/
def framed (type : ObjectType) (payload : Bytes) : Bytes :=
  ascii type.str.toList ++ SPACE :: (ascii (Nat.toDigits 10 payload.length) ++ NUL :: payload)

/-- A decimal numeral has no NUL byte. -/
theorem nul_not_mem_number (n : Nat) : NUL ∉ ascii (Nat.toDigits 10 n) := by
  intro inside
  obtain ⟨digit, listed, zero⟩ := List.mem_map.mp inside
  have range := Char.isDigit_iff_toNat.mp
    (Nat.isDigit_of_mem_toDigits (by decide) (by decide) listed)
  have code := congrArg UInt8.toNat zero
  rw [UInt8.toNat_ofNat'] at code
  change 48 ≤ digit.toNat ∧ digit.toNat ≤ 57 at range
  change digit.toNat % 256 = 0 at code
  omega

theorem framed_inj {type : ObjectType} {a b : Bytes} (same : framed type a = framed type b) :
    a = b := by
  have numbered := (List.cons.inj (List.append_cancel_left same)).2
  exact (cut_inj (nul_not_mem_number _) (nul_not_mem_number _) numbered).2

/-! ## Trees -/

/-- One entry of a tree: the mode and the name as they are written, and the raw identifier. -/
structure Entry where
  mode : Bytes
  name : Bytes
  id : Bytes
deriving DecidableEq

def Entry.encode (entry : Entry) : Bytes :=
  entry.mode ++ SPACE :: (entry.name ++ NUL :: entry.id)

/-- The payload of a tree object. -/
def encode (entries : List Entry) : Bytes := entries.flatMap Entry.encode

end Base.GitObjects
