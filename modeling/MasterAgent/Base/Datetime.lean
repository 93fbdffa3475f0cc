import Mathlib.Tactic.IntervalCases
import Mathlib.Tactic.Ring
import MasterAgent.Base.Text

/-!
# Calendar instants and their ISO text

`Datetime` is an aware or naive calendar time with microsecond resolution. `isoformat` writes
it, `fromIsoformat` reads the texts of that shape.

Results:

1. fixed-width decimal numerals read back what was written (`readPadded_padded`);
2. `fromIsoformat_isoformat`: reading the ISO text gives the same calendar time back;
3. `isoformat_free`: the ISO text contains no separator outside `-`, `:`, `.`, `T`, `+` and
   the digits.
-/

namespace Base

/-! ## Fixed-width decimal numerals -/

/-- The decimal digit of `n % 10`. -/
def digitChar (n : Nat) : Char := Char.ofNat (48 + n % 10)

/-- The value of a decimal digit. -/
def digitValue? (c : Char) : Option Nat :=
  if '0' ≤ c ∧ c ≤ '9' then some (c.toNat - 48) else none

/-- The last `width` decimal digits of `n`, most significant first. -/
def padded : Nat → Nat → List Char
  | 0, _ => []
  | width + 1, n => padded width (n / 10) ++ [digitChar n]

/-- Read `width` decimal digits after the value `acc`. -/
def readDigits : Nat → Nat → List Char → Option (Nat × List Char)
  | 0, acc, cs => some (acc, cs)
  | _ + 1, _, [] => none
  | width + 1, acc, c :: cs =>
      match digitValue? c with
      | none => none
      | some d => readDigits width (acc * 10 + d) cs

/-- Read a numeral of exactly `width` digits. -/
def readPadded (width : Nat) (cs : List Char) : Option (Nat × List Char) :=
  readDigits width 0 cs

theorem digitValue_digitChar (n : Nat) : digitValue? (digitChar n) = some (n % 10) := by
  have h : n % 10 < 10 := Nat.mod_lt _ (by decide)
  unfold digitChar
  generalize n % 10 = d at h
  interval_cases d <;> decide

theorem digitChar_mem (n : Nat) : digitChar n ∈ "0123456789".toList := by
  have h : n % 10 < 10 := Nat.mod_lt _ (by decide)
  unfold digitChar
  generalize n % 10 = d at h
  interval_cases d <;> decide

theorem padded_digits {width n : Nat} {c : Char} (h : c ∈ padded width n) :
    c ∈ "0123456789".toList := by
  induction width generalizing n with
  | zero => simp [padded] at h
  | succ width ih =>
      rcases List.mem_append.mp h with h | h
      · exact ih h
      · rw [List.mem_singleton.mp h]
        exact digitChar_mem n

theorem padded_length {width n : Nat} : (padded width n).length = width := by
  induction width generalizing n with
  | zero => rfl
  | succ width ih => simp [padded, ih]

/-- Reading continues where the digits of `n` end, with `n`'s last `width` digits appended to
the value read before. -/
theorem readDigits_padded {width n acc : Nat} {m : Nat} {rest : List Char} :
    readDigits (width + m) acc (padded width n ++ rest) =
      readDigits m (acc * 10 ^ width + n % 10 ^ width) rest := by
  induction width generalizing n m rest with
  | zero => simp [padded, Nat.mod_one]
  | succ width ih =>
      have shape : width + 1 + m = width + (m + 1) := by omega
      have value : (acc * 10 ^ width + n / 10 % 10 ^ width) * 10 + n % 10 =
          acc * 10 ^ (width + 1) + n % 10 ^ (width + 1) := by
        rw [Nat.pow_succ', Nat.mod_mul]
        ring
      rw [shape, padded, List.append_assoc, ih]
      simp only [List.singleton_append, readDigits, digitValue_digitChar, value]

theorem readPadded_padded {width n : Nat} {rest : List Char} (h : n < 10 ^ width) :
    readPadded width (padded width n ++ rest) = some (n, rest) := by
  have step := @readDigits_padded width n 0 0 rest
  simpa [readPadded, readDigits, Nat.mod_eq_of_lt h] using step

/-! ## Calendar times -/

/-- Days of a month in the proleptic Gregorian calendar. -/
def daysIn (year month : Nat) : Nat :=
  if month = 2 then
    if year % 4 = 0 ∧ (year % 100 ≠ 0 ∨ year % 400 = 0) then 29 else 28
  else if month = 4 ∨ month = 6 ∨ month = 9 ∨ month = 11 then 30
  else 31

/-- The ranges the constructor of a calendar time enforces. The offset is in microseconds and
lies strictly between minus and plus one day. -/
def validDatetime (year month day hour minute second micro : Nat) (offset : Option Int) :
    Bool :=
  1 ≤ year && year ≤ 9999 && 1 ≤ month && month ≤ 12 && 1 ≤ day && day ≤ daysIn year month &&
    hour < 24 && minute < 60 && second < 60 && micro < 1000000 &&
    match offset with
    | none => true
    | some o => o.natAbs < 86400000000

/-- A calendar time, aware when it carries an offset from UTC. -/
structure Datetime where
  year : Nat
  month : Nat
  day : Nat
  hour : Nat
  minute : Nat
  second : Nat
  micro : Nat
  offset : Option Int
  valid : validDatetime year month day hour minute second micro offset = true
deriving DecidableEq

namespace Datetime

/-- The checked constructor. -/
def make? (year month day hour minute second micro : Nat) (offset : Option Int) :
    Option Datetime :=
  if h : validDatetime year month day hour minute second micro offset = true then
    some ⟨year, month, day, hour, minute, second, micro, offset, h⟩
  else none

theorem make?_self (d : Datetime) :
    make? d.year d.month d.day d.hour d.minute d.second d.micro d.offset = some d := by
  unfold make?
  rw [dif_pos d.valid]

/-! ### Writing -/

/-- The fraction is written only when it is not zero. -/
def fractionChars (micro : Nat) (rest : List Char) : List Char :=
  if micro = 0 then rest else '.' :: (padded 6 micro ++ rest)

/-- The offset's seconds are written only when it is not a whole number of minutes. -/
def offsetChars : Option Int → List Char
  | none => []
  | some o =>
      let a := o.natAbs
      (if o < 0 then '-' else '+') :: (padded 2 (a / 3600000000) ++
        ':' :: (padded 2 (a / 60000000 % 60) ++
          if a % 60000000 = 0 then []
          else ':' :: (padded 2 (a / 1000000 % 60) ++ fractionChars (a % 1000000) [])))

def isoChars (d : Datetime) : List Char :=
  padded 4 d.year ++ '-' :: (padded 2 d.month ++ '-' :: (padded 2 d.day ++
    'T' :: (padded 2 d.hour ++ ':' :: (padded 2 d.minute ++ ':' :: (padded 2 d.second ++
      fractionChars d.micro (offsetChars d.offset))))))

/-- `datetime.isoformat`. -/
def isoformat (d : Datetime) : String := String.ofList (isoChars d)

/-! ### Reading -/

def expect (c : Char) : List Char → Option (List Char)
  | [] => none
  | d :: cs => if d = c then some cs else none

def readFraction : List Char → Option (Nat × List Char)
  | '.' :: cs => readPadded 6 cs
  | cs => some (0, cs)

/-- The offset's magnitude after its sign. -/
def readMagnitude (cs : List Char) : Option Nat := do
  let (hours, cs) ← readPadded 2 cs
  let cs ← expect ':' cs
  let (minutes, cs) ← readPadded 2 cs
  match cs with
  | [] => some (hours * 3600000000 + minutes * 60000000)
  | cs =>
      let cs ← expect ':' cs
      let (seconds, cs) ← readPadded 2 cs
      let (micro, cs) ← readFraction cs
      if cs = [] then
        some (hours * 3600000000 + minutes * 60000000 + seconds * 1000000 + micro)
      else none

def readOffset : List Char → Option (Option Int)
  | [] => some none
  | '+' :: cs => (readMagnitude cs).map fun n : Nat => some (n : Int)
  | '-' :: cs => (readMagnitude cs).map fun n : Nat => some (-(n : Int))
  | _ => none

def fromIsoChars (cs : List Char) : Option Datetime := do
  let (year, cs) ← readPadded 4 cs
  let cs ← expect '-' cs
  let (month, cs) ← readPadded 2 cs
  let cs ← expect '-' cs
  let (day, cs) ← readPadded 2 cs
  let cs ← expect 'T' cs
  let (hour, cs) ← readPadded 2 cs
  let cs ← expect ':' cs
  let (minute, cs) ← readPadded 2 cs
  let cs ← expect ':' cs
  let (second, cs) ← readPadded 2 cs
  let (micro, cs) ← readFraction cs
  let offset ← readOffset cs
  make? year month day hour minute second micro offset

/-- `datetime.fromisoformat` on texts of the shape `isoformat` writes. The other ISO 8601
spellings (week dates, basic format, truncated times) are not read. -/
def fromIsoformat (s : String) : Option Datetime := fromIsoChars s.toList

theorem expect_self {c : Char} {cs : List Char} : expect c (c :: cs) = some cs := by
  simp [expect]

theorem readFraction_fractionChars {micro : Nat} {rest : List Char} (h : micro < 1000000)
    (hr : rest.head? ≠ some '.') : readFraction (fractionChars micro rest) = some (micro, rest) := by
  unfold fractionChars
  split
  · next zero =>
      subst zero
      cases rest with
      | nil => rfl
      | cons c cs =>
          have hc : c ≠ '.' := by simpa using hr
          unfold readFraction
          split
          · next heq => exact absurd (List.cons.inj heq).1 hc
          · rfl
  · exact readPadded_padded (by omega)

theorem readMagnitude_offset {a : Nat} (h : a < 86400000000) :
    readMagnitude (padded 2 (a / 3600000000) ++ ':' :: (padded 2 (a / 60000000 % 60) ++
      if a % 60000000 = 0 then []
      else ':' :: (padded 2 (a / 1000000 % 60) ++ fractionChars (a % 1000000) []))) = some a := by
  have hours : a / 3600000000 < 10 ^ 2 := by omega
  have minutes : a / 60000000 % 60 < 10 ^ 2 := by omega
  have seconds : a / 1000000 % 60 < 10 ^ 2 := by omega
  have micro : a % 1000000 < 1000000 := by omega
  unfold readMagnitude
  simp only [readPadded_padded hours, readPadded_padded minutes, expect_self, Option.bind_eq_bind,
    Option.bind_some]
  split
  · next zero =>
      simp only [Option.some.injEq]
      split at zero
      · omega
      · cases zero
  · split
    · next absent whole => exact absurd (if_pos whole) absent
    · simp only [expect_self, Option.bind_some, readPadded_padded seconds,
        readFraction_fractionChars micro (by simp : ([] : List Char).head? ≠ some '.'), if_pos,
        Option.some.injEq]
      omega

theorem readOffset_offsetChars {o : Option Int}
    (h : ∀ n, o = some n → n.natAbs < 86400000000) : readOffset (offsetChars o) = some o := by
  cases o with
  | none => rfl
  | some n =>
      have mag := readMagnitude_offset (h n rfl)
      rcases lt_or_ge n 0 with negative | positive
      · simp only [offsetChars, if_pos negative, readOffset, mag, Option.map_some,
          Option.some.injEq]
        omega
      · simp only [offsetChars, if_neg (not_lt.mpr positive), readOffset, mag, Option.map_some,
          Option.some.injEq]
        omega

theorem offsetChars_head {o : Option Int} : (offsetChars o).head? ≠ some '.' := by
  cases o with
  | none => simp [offsetChars]
  | some n =>
      simp only [offsetChars, List.head?_cons]
      split <;> decide

/-- What the constructor enforces, field by field. -/
theorem ranges (d : Datetime) :
    (d.year < 10 ^ 4 ∧ d.month < 10 ^ 2 ∧ d.day < 10 ^ 2 ∧ d.hour < 10 ^ 2 ∧ d.minute < 10 ^ 2 ∧
      d.second < 10 ^ 2 ∧ d.micro < 1000000) ∧
    ∀ n, d.offset = some n → n.natAbs < 86400000000 := by
  have v := d.valid
  simp only [validDatetime, Bool.and_eq_true, decide_eq_true_eq] at v
  have days : daysIn d.year d.month ≤ 31 := by
    unfold daysIn
    split
    · split <;> omega
    · split <;> omega
  refine ⟨by omega, ?_⟩
  intro n hn
  simpa [hn] using v.2

/-- Reading the ISO text of a calendar time gives it back. -/
theorem fromIsoformat_isoformat (d : Datetime) : fromIsoformat d.isoformat = some d := by
  obtain ⟨⟨hy, hmo, hd, hh, hmi, hs, hu⟩, ho⟩ := d.ranges
  simp only [fromIsoformat, isoformat, String.toList_ofList, isoChars, fromIsoChars,
    readPadded_padded hy, readPadded_padded hmo, readPadded_padded hd, readPadded_padded hh,
    readPadded_padded hmi, readPadded_padded hs, expect_self,
    readFraction_fractionChars hu offsetChars_head, readOffset_offsetChars ho,
    Option.bind_eq_bind, Option.bind_some, make?_self]

theorem isoformat_inj {d e : Datetime} (h : d.isoformat = e.isoformat) : d = e := by
  have back := fromIsoformat_isoformat d
  rw [h, fromIsoformat_isoformat e] at back
  exact (Option.some.inj back).symm

/-- The characters an ISO text is made of. -/
def isoAlphabet : List Char := "0123456789-:.T+".toList

theorem padded_iso {width n : Nat} {c : Char} (h : c ∈ padded width n) : c ∈ isoAlphabet := by
  have sub : "0123456789".toList ⊆ isoAlphabet := by decide
  exact sub (padded_digits h)

theorem fraction_iso {micro : Nat} {rest : List Char} {c : Char}
    (h : c ∈ fractionChars micro rest) : c ∈ isoAlphabet ∨ c ∈ rest := by
  unfold fractionChars at h
  split at h
  · exact .inr h
  · rcases List.mem_cons.mp h with rfl | h
    · exact .inl (by decide)
    · exact (List.mem_append.mp h).imp padded_iso id

theorem offset_iso {o : Option Int} {c : Char} (h : c ∈ offsetChars o) : c ∈ isoAlphabet := by
  cases o with
  | none => simp [offsetChars] at h
  | some n =>
      simp only [offsetChars, List.mem_cons, List.mem_append] at h
      rcases h with rfl | h | rfl | h | h
      · split <;> decide
      · exact padded_iso h
      · decide
      · exact padded_iso h
      · split at h
        · cases h
        · rcases List.mem_cons.mp h with rfl | h
          · decide
          · rcases List.mem_append.mp h with h | h
            · exact padded_iso h
            · exact (fraction_iso h).resolve_right (by simp)

theorem iso_alphabet {d : Datetime} {c : Char} (h : c ∈ d.isoformat.toList) :
    c ∈ isoAlphabet := by
  simp only [isoformat, String.toList_ofList, isoChars, List.mem_append, List.mem_cons] at h
  rcases h with h | rfl | h | rfl | h | rfl | h | rfl | h | rfl | h | h
  · exact padded_iso h
  · decide
  · exact padded_iso h
  · decide
  · exact padded_iso h
  · decide
  · exact padded_iso h
  · decide
  · exact padded_iso h
  · decide
  · exact padded_iso h
  · exact (fraction_iso h).elim id offset_iso

/-- The ISO text is free of every separator outside its alphabet. -/
theorem isoformat_free {c : Char} (d : Datetime) (hc : c ∉ isoAlphabet) : Free c d.isoformat :=
  fun h => hc (iso_alphabet h)

/-! ### Order -/

/-- Days of the years before `year` (`_days_before_year`). -/
def daysBeforeYear (year : Nat) : Nat :=
  (year - 1) * 365 + (year - 1) / 4 - (year - 1) / 100 + (year - 1) / 400

/-- Days of `year` before `month` (`_days_before_month`). -/
def daysBeforeMonth (year month : Nat) : Nat :=
  ((List.range month).map fun m => if m = 0 then 0 else daysIn year m).sum

/-- Microseconds since the start of the calendar, as the clock on the wall shows them. -/
def wallMicros (d : Datetime) : Int :=
  let days := daysBeforeYear d.year + daysBeforeMonth d.year d.month + (d.day - 1)
  ((((days * 24 + d.hour) * 60 + d.minute) * 60 + d.second) * 1000000 + d.micro : Nat)

/-- The instant of an aware calendar time: comparisons of aware times compare instants. A naive
time has none. -/
def instant? (d : Datetime) : Option Int := d.offset.map fun o => d.wallMicros - o

end Datetime

end Base
