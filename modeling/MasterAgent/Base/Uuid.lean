import MasterAgent.Base.Json

/-!
# Universally unique identifiers

A UUID is its 32 hexadecimal digits. Results: `fromStr_str` (reading the hyphenated text gives
the identifier back) and `str_free` (the text contains only lower-case hexadecimal digits and
hyphens).
-/

namespace Base

/-- The value of a hexadecimal digit of either case. -/
def hexValue? (c : Char) : Option (Fin 16) :=
  let n := c.toNat
  if 48 ≤ n ∧ n ≤ 57 then some (Fin.ofNat 16 (n - 48))
  else if 97 ≤ n ∧ n ≤ 102 then some (Fin.ofNat 16 (n - 87))
  else if 65 ≤ n ∧ n ≤ 70 then some (Fin.ofNat 16 (n - 55))
  else none

/-- `str.replace(pattern, "")`, with `skip` characters of a found occurrence still to pass. -/
def removeFrom (pattern : List Char) : Nat → List Char → List Char
  | _, [] => []
  | skip + 1, _ :: cs => removeFrom pattern skip cs
  | 0, c :: cs =>
      if pattern.isPrefixOf (c :: cs) then removeFrom pattern (pattern.length - 1) cs
      else c :: removeFrom pattern 0 cs

/-- `str.strip(chars)`. -/
def stripChars (chars : List Char) (cs : List Char) : List Char :=
  ((cs.dropWhile (chars.contains ·)).reverse.dropWhile (chars.contains ·)).reverse

structure Uuid where
  digits : List (Fin 16)
  size : digits.length = 32
deriving DecidableEq

namespace Uuid

/-- One digit throughout. -/
def repeated (digit : Nat) : Uuid := ⟨List.replicate 32 (Fin.ofNat 16 digit), List.length_replicate⟩

/-- Zeros before a last digit. -/
def endingIn (digit : Nat) : Uuid :=
  ⟨List.replicate 31 (Fin.ofNat 16 0) ++ [Fin.ofNat 16 digit], by simp⟩

def ofDigits? (digits : List (Fin 16)) : Option Uuid :=
  if h : digits.length = 32 then some ⟨digits, h⟩ else none

def hexChars (u : Uuid) : List Char := u.digits.map fun d => Json.hexChar d.val

/-- The hyphenated text of an identifier. -/
def strChars (u : Uuid) : List Char :=
  let h := u.hexChars
  h.take 8 ++ '-' :: ((h.drop 8).take 4 ++ '-' :: ((h.drop 12).take 4 ++
    '-' :: ((h.drop 16).take 4 ++ '-' :: h.drop 20)))

/-- `str(uuid)`. -/
def str (u : Uuid) : String := String.ofList (strChars u)

/-- `UUID(text)`: the URN prefixes, surrounding braces and hyphens are dropped and 32
hexadecimal digits must remain. -/
def fromStr (s : String) : Option Uuid := do
  let cs := removeFrom "uuid:".toList 0 (removeFrom "urn:".toList 0 s.toList)
  let hex := (stripChars ['{', '}'] cs).filter (· != '-')
  let digits ← hex.mapM hexValue?
  ofDigits? digits

end Uuid

namespace UuidLemmas
open Uuid

/-- The characters an identifier's text is made of. -/
def uuidAlphabet : List Char := "0123456789abcdef-".toList

theorem hexChar_mem (d : Fin 16) : Json.hexChar d.val ∈ uuidAlphabet := by
  revert d
  decide

theorem hexChar_ne_hyphen (d : Fin 16) : (Json.hexChar d.val != '-') = true := by
  revert d
  decide

theorem hexValue_hexChar (d : Fin 16) : hexValue? (Json.hexChar d.val) = some d := by
  revert d
  decide

theorem hexChars_mem {u : Uuid} {c : Char} (h : c ∈ u.hexChars) : c ∈ uuidAlphabet := by
  obtain ⟨d, _, rfl⟩ := List.mem_map.mp h
  exact hexChar_mem d

theorem strChars_mem {u : Uuid} {c : Char} (h : c ∈ strChars u) : c ∈ uuidAlphabet := by
  have sub : c = '-' → c ∈ uuidAlphabet := by
    rintro rfl
    decide
  simp only [strChars, List.mem_append, List.mem_cons] at h
  rcases h with h | h | h | h | h | h | h | h | h
  · exact hexChars_mem (List.mem_of_mem_take h)
  · exact sub h
  · exact hexChars_mem (List.mem_of_mem_drop (List.mem_of_mem_take h))
  · exact sub h
  · exact hexChars_mem (List.mem_of_mem_drop (List.mem_of_mem_take h))
  · exact sub h
  · exact hexChars_mem (List.mem_of_mem_drop (List.mem_of_mem_take h))
  · exact sub h
  · exact hexChars_mem (List.mem_of_mem_drop h)

/-- A pattern with a character the text lacks never occurs in it. -/
theorem removeFrom_absent {pattern : List Char} {c : Char} (hp : c ∈ pattern) :
    ∀ {cs : List Char}, c ∉ cs → removeFrom pattern 0 cs = cs
  | [], _ => rfl
  | d :: cs, hc => by
      have absent : ¬ pattern.isPrefixOf (d :: cs) = true := by
        intro h
        exact hc ((List.isPrefixOf_iff_prefix.mp h).subset hp)
      rw [removeFrom, if_neg absent,
        removeFrom_absent hp (fun h => hc (List.mem_cons_of_mem _ h))]

theorem dropWhile_absent {p : Char → Bool} {cs : List Char} (h : ∀ c ∈ cs, p c = false) :
    cs.dropWhile p = cs := by
  cases cs with
  | nil => rfl
  | cons c cs => simp [h c (by simp)]

theorem stripChars_absent {chars cs : List Char} (h : ∀ c ∈ cs, c ∉ chars) :
    stripChars chars cs = cs := by
  have none : ∀ c ∈ cs, chars.contains c = false := by
    intro c hc
    simpa using h c hc
  unfold stripChars
  rw [dropWhile_absent none, dropWhile_absent (by simpa using none), List.reverse_reverse]

/-- Dropping the hyphens leaves the digits. -/
theorem filter_strChars (u : Uuid) : (strChars u).filter (· != '-') = u.hexChars := by
  have keep : ∀ {cs : List Char}, (∀ c ∈ cs, c ∈ u.hexChars) → cs.filter (· != '-') = cs := by
    intro cs hcs
    refine List.filter_eq_self.mpr fun c hc => ?_
    obtain ⟨d, _, rfl⟩ := List.mem_map.mp (hcs c hc)
    exact hexChar_ne_hyphen d
  have hyphen : ('-' != '-') = false := rfl
  simp only [strChars, List.filter_append, List.filter_cons, hyphen, Bool.false_eq_true,
    if_false]
  rw [keep fun c hc => List.mem_of_mem_take hc,
    keep fun c hc => List.mem_of_mem_drop (List.mem_of_mem_take hc),
    keep fun c hc => List.mem_of_mem_drop (List.mem_of_mem_take hc),
    keep fun c hc => List.mem_of_mem_drop (List.mem_of_mem_take hc),
    keep fun c hc => List.mem_of_mem_drop hc]
  have step (i j : Nat) : (u.hexChars.drop i).take j ++ u.hexChars.drop (i + j) =
      u.hexChars.drop i := by
    rw [← List.drop_drop, List.take_append_drop]
  rw [step 16 4, step 12 4, step 8 4, List.take_append_drop]

theorem mapM_hexValue (digits : List (Fin 16)) :
    (digits.map fun d => Json.hexChar d.val).mapM hexValue? = some digits := by
  induction digits with
  | nil => rfl
  | cons d digits ih => simp [hexValue_hexChar, ih]

end UuidLemmas

open UuidLemmas

/-- The identifier's text is free of every character outside its alphabet. -/
theorem Uuid.str_free {c : Char} (u : Uuid) (hc : c ∉ uuidAlphabet) : Free c u.str := by
  intro h
  rw [Uuid.str, String.toList_ofList] at h
  exact hc (strChars_mem h)

/-- Reading the text of an identifier gives it back. -/
theorem Uuid.fromStr_str (u : Uuid) : Uuid.fromStr u.str = some u := by
  have absent {c : Char} (hc : c ∉ uuidAlphabet) : c ∉ strChars u :=
    fun h => hc (strChars_mem h)
  have strip : stripChars ['{', '}'] (strChars u) = strChars u := by
    refine stripChars_absent fun c hc brace => ?_
    rcases List.mem_cons.mp brace with rfl | brace
    · exact absent (by decide) hc
    · rw [List.mem_singleton.mp brace] at hc
      exact absent (by decide) hc
  simp only [Uuid.fromStr, Uuid.str, String.toList_ofList]
  rw [removeFrom_absent (c := ':') (by decide) (absent (by decide)),
    removeFrom_absent (c := ':') (by decide) (absent (by decide)), strip, filter_strChars]
  have digits := mapM_hexValue u.digits
  simp only [Uuid.hexChars, digits, Option.bind_eq_bind, Option.bind_some, Uuid.ofDigits?,
    dif_pos u.size]

theorem Uuid.str_inj {u v : Uuid} (h : u.str = v.str) : u = v := by
  have back := u.fromStr_str
  rw [h, v.fromStr_str] at back
  exact (Option.some.inj back).symm

theorem Uuid.str_ne_empty (u : Uuid) : u.str ≠ "" := by
  intro h
  have chars := congrArg String.toList h
  simp [Uuid.str, Uuid.strChars] at chars

end Base
