import Mathlib.Data.Int.Init
import Mathlib.Order.Basic
import Mathlib.Tactic.Linarith

/-!
# Time zones

A zone as the wall time it shows at every instant. Instants and wall times are numbers of
microseconds, unbounded in both directions; a wall time is counted from a Monday midnight.

Results:

1. `find_iff`: reading a wall time back with a fold finds the instant that shows both, if there is
   one;
2. `shows_at_most_twice`: a wall time is shown at most twice, first without and then with the fold.
-/

namespace Base

def DAY : Int := 86400000000

/-- The civil day of a wall time. -/
def civilDay (wall : Int) : Int := wall / DAY

/-- A time zone: the wall time and the fold it shows at an instant, and the instant it reads from a
wall time and a fold. -/
structure TimeZone where
  wall : Int → Int
  fold : Int → Bool
  toUtc : Int → Bool → Int
  /-- Offsets are shorter than a day. -/
  offset : ∀ t, |wall t - t| < DAY
  /-- The civil date never decreases. -/
  forward : ∀ t u, t ≤ u → civilDay (wall t) ≤ civilDay (wall u)
  /-- What is shown is read back. -/
  round_trip : ∀ t, toUtc (wall t) (fold t) = t
  /-- The fold marks a wall time that was shown before. -/
  folded : ∀ t, fold t = true ↔ ∃ u, u < t ∧ wall u = wall t

namespace TimeZone

variable (zone : TimeZone)

/-- The instant read from a wall time and a fold, if the zone shows both there. -/
def find (wall : Int) (fold : Bool) : Option Int :=
  let instant := zone.toUtc wall fold
  if zone.wall instant = wall ∧ zone.fold instant = fold then some instant else none

theorem find_iff {wall t : Int} {fold : Bool} :
    zone.find wall fold = some t ↔ zone.wall t = wall ∧ zone.fold t = fold := by
  unfold find
  constructor
  · intro found
    simp only at found
    split at found
    · next shown =>
        rw [← Option.some.inj found]
        exact shown
    · cases found
  · rintro ⟨rfl, rfl⟩
    simp only
    rw [zone.round_trip, if_pos ⟨rfl, rfl⟩]

theorem find_none_iff {wall : Int} {fold : Bool} :
    zone.find wall fold = none ↔ ∀ t, zone.wall t = wall → zone.fold t ≠ fold := by
  constructor
  · intro missing t shows_wall shows_fold
    rw [zone.find_iff.mpr ⟨shows_wall, shows_fold⟩] at missing
    cases missing
  · intro never
    cases found : zone.find wall fold with
    | none => rfl
    | some t =>
        obtain ⟨shows_wall, shows_fold⟩ := zone.find_iff.mp found
        exact absurd shows_fold (never t shows_wall)

/-- Two instants that show the same wall time and fold are one. -/
theorem shows_inj {t u : Int} (walls : zone.wall t = zone.wall u) (folds : zone.fold t = zone.fold u) :
    t = u := by
  rw [← zone.round_trip t, walls, folds, zone.round_trip u]

/-- The instant shown without the fold is the first one. -/
theorem first_of_unfolded {t u : Int} (unfolded : zone.fold t = false)
    (walls : zone.wall u = zone.wall t) : t ≤ u := by
  by_contra before
  have earlier : ∃ u, u < t ∧ zone.wall u = zone.wall t := ⟨u, not_le.mp before, walls⟩
  rw [(zone.folded t).mpr earlier] at unfolded
  cases unfolded

/-- A wall time is shown at most twice, first without and then with the fold. -/
theorem shows_at_most_twice {t u : Int} (walls : zone.wall t = zone.wall u) (before : t < u) :
    zone.fold t = false ∧ zone.fold u = true ∧
      ∀ v, zone.wall v = zone.wall u → v = t ∨ v = u := by
  have second : zone.fold u = true := (zone.folded u).mpr ⟨t, before, walls⟩
  have first : zone.fold t = false := by
    by_contra folded
    rw [Bool.not_eq_false] at folded
    exact absurd (zone.shows_inj walls (folded.trans second.symm)) (ne_of_lt before)
  refine ⟨first, second, fun v shown => ?_⟩
  cases fold : zone.fold v with
  | false => exact .inl (zone.shows_inj (shown.trans walls.symm) (fold.trans first.symm))
  | true => exact .inr (zone.shows_inj shown (fold.trans second.symm))

/-- A later civil day is shown later. -/
theorem lt_of_civilDay {t u : Int} (days : civilDay (zone.wall t) < civilDay (zone.wall u)) :
    t < u := by
  by_contra late
  exact absurd (zone.forward u t (not_lt.mp late)) (not_le.mpr days)

end TimeZone

end Base
