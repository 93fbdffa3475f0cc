import MasterAgent.Base.Calendar
import MasterAgent.Base.Encoding

/-!
# The order of ISO texts

Times in UTC compare as their ISO texts do, character by character and byte by byte. The fields stand in
the order of their weights, each with a fixed number of digits. A fraction that is left out ends the time
with a `+` where the others go on with a `.`, which is the greater character.

Results:

1. `padded_lt_iff`: numerals of one width compare as numbers;
2. `isoChars_lt_iff`: texts compare as the fields;
3. `wallMicros_lt_iff`: so do instants;
4. `isoformat_lt_iff`, `utf8_isoformat_lt_iff`: texts compare as instants.
-/

namespace Base

/-! ## Texts -/

theorem toNat_digitChar (n : Nat) : (digitChar n).toNat = 48 + n % 10 := by
  have h : n % 10 < 10 := Nat.mod_lt _ (by decide)
  unfold digitChar
  generalize n % 10 = d at h
  interval_cases d <;> rfl

theorem digitChar_lt_iff {m n : Nat} : digitChar m < digitChar n ↔ m % 10 < n % 10 := by
  have order : digitChar m < digitChar n ↔ (digitChar m).toNat < (digitChar n).toNat := Iff.rfl
  rw [order, toNat_digitChar, toNat_digitChar]
  exact Nat.add_lt_add_iff_left

theorem digitChar_eq_iff {m n : Nat} : digitChar m = digitChar n ↔ m % 10 = n % 10 := by
  rw [← Char.toNat_inj, toNat_digitChar, toNat_digitChar]
  exact Nat.add_left_cancel_iff

/-- Numerals of one width compare as numbers, and what follows decides between equal ones. -/
theorem padded_lt_iff {width m n : Nat} {r s : List Char} (hm : m < 10 ^ width) (hn : n < 10 ^ width) :
    padded width m ++ r < padded width n ++ s ↔ m < n ∨ m = n ∧ r < s := by
  induction width generalizing m n r s with
  | zero =>
      have zero : m = 0 ∧ n = 0 := by omega
      simp [padded, zero]
  | succ width ih =>
      rw [Nat.pow_succ'] at hm hn
      rw [padded, padded, List.append_assoc, List.append_assoc, List.singleton_append,
        List.singleton_append, ih (Nat.div_lt_of_lt_mul hm) (Nat.div_lt_of_lt_mul hn),
        List.cons_lt_cons_iff, digitChar_lt_iff, digitChar_eq_iff]
      by_cases rest : r < s <;> simp only [rest, and_true, and_false, or_false] <;> omega

/-- Behind one and the same character. -/
theorem same_lt_iff {c : Char} {r s : List Char} : c :: r < c :: s ↔ r < s := by
  rw [List.cons_lt_cons_iff]
  exact ⟨fun h => h.elim (fun less => absurd less (Char.lt_irrefl c)) And.right, fun h => .inr ⟨rfl, h⟩⟩

namespace Datetime

/-- The fraction of a time in UTC and what follows it. A `.` stands above the `+`. -/
theorem fraction_lt_iff {m n : Nat} (hm : m < 1000000) (hn : n < 1000000) :
    fractionChars m (offsetChars (some 0)) < fractionChars n (offsetChars (some 0)) ↔ m < n := by
  have utc : offsetChars (some 0) = '+' :: "00:00".toList := by decide
  have point : ¬('.' : Char) < '+' ∧ ('.' : Char) ≠ '+' ∧ ('+' : Char) < '.' := by decide
  unfold fractionChars
  rw [utc]
  split
  · next zero =>
      subst zero
      split
      · next zero => simp [zero, List.lt_irrefl]
      · next more =>
          rw [List.cons_lt_cons_iff]
          exact ⟨fun _ => Nat.pos_of_ne_zero more, fun _ => .inl point.2.2⟩
  · next more =>
      split
      · next zero =>
          rw [List.cons_lt_cons_iff]
          exact ⟨fun h => h.elim (absurd · point.1) (absurd ·.1 point.2.1), fun less => by omega⟩
      · rw [same_lt_iff, padded_lt_iff hm hn, same_lt_iff]
        simp [List.lt_irrefl]

/-- The order of the fields, the year first. -/
def FieldsLt (d e : Datetime) : Prop :=
  d.year < e.year ∨ d.year = e.year ∧ (d.month < e.month ∨ d.month = e.month ∧ (d.day < e.day ∨ d.day = e.day ∧
    (d.hour < e.hour ∨ d.hour = e.hour ∧ (d.minute < e.minute ∨ d.minute = e.minute ∧
      (d.second < e.second ∨ d.second = e.second ∧ d.micro < e.micro)))))

theorem isoChars_lt_iff {d e : Datetime} (hd : d.offset = some 0) (he : e.offset = some 0) :
    d.isoChars < e.isoChars ↔ FieldsLt d e := by
  obtain ⟨⟨dy, dmo, dd, dh, dmi, ds, du⟩, -⟩ := d.ranges
  obtain ⟨⟨ey, emo, ed, eh, emi, es, eu⟩, -⟩ := e.ranges
  unfold isoChars FieldsLt
  rw [hd, he, padded_lt_iff dy ey, same_lt_iff, padded_lt_iff dmo emo, same_lt_iff, padded_lt_iff dd ed,
    same_lt_iff, padded_lt_iff dh eh, same_lt_iff, padded_lt_iff dmi emi, same_lt_iff, padded_lt_iff ds es,
    fraction_lt_iff du eu]

/-! ## Instants -/

theorem daysBeforeMonth_succ {year month : Nat} (first : 1 ≤ month) :
    daysBeforeMonth year (month + 1) = daysBeforeMonth year month + daysIn year month := by
  unfold daysBeforeMonth
  rw [List.range_succ, List.map_append, List.sum_append, List.map_singleton, List.sum_singleton,
    if_neg (Nat.ne_of_gt first)]

/-- A month is over before the next ones begin. -/
theorem daysBeforeMonth_lt {year month later : Nat} (first : 1 ≤ month) (before : month < later) :
    daysBeforeMonth year month + daysIn year month ≤ daysBeforeMonth year later := by
  induction later, before using Nat.le_induction with
  | base => rw [daysBeforeMonth_succ first]
  | succ later before ih =>
      rw [daysBeforeMonth_succ (first.trans (Nat.le_of_succ_le before))]
      exact ih.trans (Nat.le_add_right ..)

theorem daysBeforeYear_succ {year : Nat} (first : 1 ≤ year) :
    daysBeforeYear (year + 1) = daysBeforeYear year + (337 + daysIn year 2) := by
  obtain ⟨n, rfl⟩ := Nat.exists_eq_add_of_le' first
  have four : (n + 1) / 4 = n / 4 + if (n + 1) % 4 = 0 then 1 else 0 := by split <;> omega
  have hundred : (n + 1) / 100 = n / 100 + if (n + 1) % 100 = 0 then 1 else 0 := by split <;> omega
  have fourHundred : (n + 1) / 400 = n / 400 + if (n + 1) % 400 = 0 then 1 else 0 := by split <;> omega
  have fewer : n / 100 ≤ n / 4 := Nat.div_le_div_left (by decide) (by decide)
  have divided : (n + 1) % 100 = 0 → (n + 1) % 4 = 0 := by omega
  have dividedToo : (n + 1) % 400 = 0 → (n + 1) % 100 = 0 := by omega
  unfold daysBeforeYear daysIn
  rw [Nat.add_sub_cancel, Nat.add_sub_cancel, four, hundred, fourHundred]
  generalize n / 4 = a, n / 100 = b, n / 400 = c, (n + 1) % 4 = p, (n + 1) % 100 = q,
    (n + 1) % 400 = r at *
  clear four hundred fourHundred
  split_ifs <;> omega

/-- A year is over before the next ones begin. -/
theorem daysBeforeYear_lt {year later : Nat} (first : 1 ≤ year) (before : year < later) :
    daysBeforeYear year + (337 + daysIn year 2) ≤ daysBeforeYear later := by
  induction later, before using Nat.le_induction with
  | base => rw [daysBeforeYear_succ first]
  | succ later before ih =>
      rw [daysBeforeYear_succ (first.trans (Nat.le_of_succ_le before))]
      exact ih.trans (Nat.le_add_right ..)

/-- The day of a time, counted from the start of the calendar. -/
def dayNumber (d : Datetime) : Nat :=
  daysBeforeYear d.year + daysBeforeMonth d.year d.month + (d.day - 1)

/-- The day of a year that ends it is the last. -/
theorem dayNumber_lt {d e : Datetime} (earlier : d.year < e.year ∨ d.year = e.year ∧
    (d.month < e.month ∨ d.month = e.month ∧ d.day < e.day)) : dayNumber d < dayNumber e := by
  have valid := d.valid
  simp only [validDatetime, Bool.and_eq_true, decide_eq_true_eq] at valid
  obtain ⟨⟨⟨⟨⟨⟨⟨⟨⟨⟨year, -⟩, month⟩, last⟩, some⟩, day⟩, -⟩, -⟩, -⟩, -⟩, -⟩ := valid
  unfold dayNumber
  rcases earlier with earlier | ⟨sameYear, earlier | ⟨sameMonth, earlier⟩⟩
  · have ended := daysBeforeYear_lt year earlier
    have inYear := @daysBeforeMonth_add d.year _ month last
    omega
  · have ended := @daysBeforeMonth_lt d.year _ _ month earlier
    rw [← sameYear]
    omega
  · rw [← sameYear, ← sameMonth]
    omega

theorem wallMicros_eq (d : Datetime) : d.wallMicros =
    ((((dayNumber d * 24 + d.hour) * 60 + d.minute) * 60 + d.second) * 1000000 + d.micro : Nat) := rfl

theorem wallMicros_lt_of_fields {d e : Datetime} (earlier : FieldsLt d e) : d.wallMicros < e.wallMicros := by
  have valid := d.valid
  simp only [validDatetime, Bool.and_eq_true, decide_eq_true_eq] at valid
  obtain ⟨⟨⟨⟨⟨-, hour⟩, minute⟩, second⟩, micro⟩, -⟩ := valid
  rw [wallMicros_eq, wallMicros_eq, Int.ofNat_lt]
  unfold FieldsLt at earlier
  by_cases days : d.year < e.year ∨ d.year = e.year ∧
    (d.month < e.month ∨ d.month = e.month ∧ d.day < e.day)
  · have days := dayNumber_lt days
    omega
  · have same : dayNumber d = dayNumber e := by
      unfold dayNumber
      have fields : d.year = e.year ∧ d.month = e.month ∧ d.day = e.day := by omega
      rw [fields.1, fields.2.1, fields.2.2]
    omega

/-- Instants compare as the fields. -/
theorem wallMicros_lt_iff {d e : Datetime} : d.wallMicros < e.wallMicros ↔ FieldsLt d e := by
  refine ⟨fun less => ?_, wallMicros_lt_of_fields⟩
  by_contra apart
  by_cases later : FieldsLt e d
  · exact absurd (wallMicros_lt_of_fields later) (Int.not_lt.mpr less.le)
  · unfold FieldsLt at apart later
    have fields : d.year = e.year ∧ d.month = e.month ∧ d.day = e.day ∧ d.hour = e.hour ∧
        d.minute = e.minute ∧ d.second = e.second ∧ d.micro = e.micro := by omega
    obtain ⟨year, month, day, hour, minute, second, micro⟩ := fields
    rw [wallMicros, wallMicros, year, month, day, hour, minute, second, micro] at less
    exact absurd less (Int.lt_irrefl _)

/-! ## Texts of instants -/

section
variable {d e : Datetime} (hd : d.offset = some 0) (he : e.offset = some 0)
include hd he

/-- The texts of two times in UTC compare as the instants. -/
theorem isoformat_lt_iff : d.isoformat.toList < e.isoformat.toList ↔ d.wallMicros < e.wallMicros := by
  rw [isoformat, isoformat, String.toList_ofList, String.toList_ofList, isoChars_lt_iff hd he,
    wallMicros_lt_iff]

/-- Byte by byte too. -/
theorem utf8_isoformat_lt_iff : utf8 d.isoformat < utf8 e.isoformat ↔ d.wallMicros < e.wallMicros :=
  utf8_lt_iff.trans (isoformat_lt_iff hd he)

end

/-- A time that is moved keeps its offset. -/
theorem plus_offset {d e : Datetime} {micros : Int} (found : d.plus micros = some e) :
    e.offset = d.offset := by
  obtain ⟨moved, -, made⟩ := Option.bind_eq_some_iff.mp found
  unfold make? at made
  split at made
  · exact (Option.some.inj made) ▸ rfl
  · cases made

end Datetime

end Base
