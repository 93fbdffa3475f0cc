import Mathlib.Data.Nat.Find
import MasterAgent.Base.Datetime

/-!
# From instants back to the calendar

The calendar time that shows a given number of microseconds since the start of the calendar.
-/

namespace Base.Datetime

/-- The year a day falls into, by its number since the start of the calendar. -/
def yearOf (days : Nat) : Nat :=
  Nat.findGreatest (fun year => 1 ≤ year ∧ daysBeforeYear year ≤ days) (days / 365 + 1)

/-- The month a day of a year falls into. -/
def monthOf (year days : Nat) : Nat :=
  Nat.findGreatest (fun month => 1 ≤ month ∧ daysBeforeMonth year month ≤ days) 12

/-- The UTC time at an instant; `none` after the last year. -/
def ofWall (micros : Nat) : Option Datetime :=
  let days := micros / 86400000000
  let year := yearOf days
  let ofYear := days - daysBeforeYear year
  let month := monthOf year ofYear
  make? year month (ofYear - daysBeforeMonth year month + 1) (micros / 3600000000 % 24)
    (micros / 60000000 % 60) (micros / 1000000 % 60) (micros % 1000000) (some 0)

theorem yearOf_spec (days : Nat) : 1 ≤ yearOf days ∧ daysBeforeYear (yearOf days) ≤ days :=
  Nat.findGreatest_spec (P := fun year => 1 ≤ year ∧ daysBeforeYear year ≤ days)
    (Nat.le_add_left 1 _) ⟨Nat.le_refl 1, Nat.zero_le _⟩

theorem monthOf_spec (year days : Nat) :
    1 ≤ monthOf year days ∧ daysBeforeMonth year (monthOf year days) ≤ days :=
  Nat.findGreatest_spec (P := fun month => 1 ≤ month ∧ daysBeforeMonth year month ≤ days)
    (by decide : 1 ≤ 12) ⟨Nat.le_refl 1, Nat.zero_le _⟩

/-- The time found shows the instant it was looked for. -/
theorem ofWall_spec {micros : Nat} {d : Datetime} (found : ofWall micros = some d) :
    d.offset = some 0 ∧ d.wallMicros = micros := by
  unfold ofWall make? at found
  dsimp only at found
  split at found
  · obtain rfl := Option.some.inj found
    have year := (yearOf_spec (micros / 86400000000)).2
    have month := (monthOf_spec (yearOf (micros / 86400000000))
      (micros / 86400000000 - daysBeforeYear (yearOf (micros / 86400000000)))).2
    refine ⟨rfl, ?_⟩
    simp only [wallMicros, Nat.add_sub_cancel]
    omega
  · cases found

/-- `datetime + timedelta(microseconds=…)` of a time in UTC. -/
def later (d : Datetime) (micros : Int) : Option Datetime :=
  if d.wallMicros + micros < 0 then none else ofWall (d.wallMicros + micros).toNat

theorem later_spec {d e : Datetime} {micros : Int} (found : d.later micros = some e) :
    e.offset = some 0 ∧ e.wallMicros = d.wallMicros + micros := by
  unfold later at found
  obtain ⟨nonneg, found⟩ := Option.ite_none_left_eq_some.mp found
  obtain ⟨utc, wall⟩ := ofWall_spec found
  exact ⟨utc, wall.trans (Int.toNat_of_nonneg (Int.not_lt.mp nonneg))⟩

/-- `datetime + timedelta(microseconds=…)`: the wall time moves, the offset stays. -/
def plus (d : Datetime) (micros : Int) : Option Datetime :=
  (d.later micros).bind fun e =>
    make? e.year e.month e.day e.hour e.minute e.second e.micro d.offset

theorem instant?_utc {d : Datetime} (utc : d.offset = some 0) : d.instant? = some d.wallMicros := by
  rw [instant?, utc, Option.map_some, Int.sub_zero]

theorem daysBeforeMonth_add {year month : Nat} (first : 1 ≤ month) (last : month ≤ 12) :
    daysBeforeMonth year month + daysIn year month ≤ 337 + daysIn year 2 := by
  unfold daysBeforeMonth
  interval_cases month <;> simp [List.range_succ, daysIn] <;> omega

theorem daysBeforeYear_add {year : Nat} (last : year ≤ 9999) :
    daysBeforeYear year + 337 + daysIn year 2 ≤ daysBeforeYear 10000 := by
  have whole : daysBeforeYear 10000 = 3652059 := by decide
  rw [whole]
  unfold daysBeforeYear
  rcases Nat.lt_or_eq_of_le last with before | rfl
  · have short : daysIn year 2 ≤ 29 := by
      unfold daysIn
      split_ifs <;> omega
    omega
  · decide

/-- No time is past the end of the calendar. -/
theorem wallMicros_lt (d : Datetime) : d.wallMicros < daysBeforeYear 10000 * 86400000000 := by
  have valid := d.valid
  simp only [validDatetime, Bool.and_eq_true, decide_eq_true_eq] at valid
  obtain ⟨⟨⟨⟨⟨⟨⟨⟨⟨⟨-, year⟩, first⟩, last⟩, some⟩, day⟩, hour⟩, minute⟩, second⟩, micro⟩, -⟩ := valid
  have inYear := @daysBeforeMonth_add d.year _ first last
  have inCalendar := daysBeforeYear_add year
  unfold wallMicros
  dsimp only
  omega
end Base.Datetime
