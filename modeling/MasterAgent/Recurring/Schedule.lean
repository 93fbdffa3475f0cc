import MasterAgent.Base.Zone
import MasterAgent.Models.Checks

/-!
# Weekly schedules

The instant a weekly schedule is due at in its time zone. Instants are numbers of microseconds; the
ends of the calendar are not modelled.

Results:

1. `resolveLocal_iff`: resolving a wall time selects its only instant, or the one the fold policy
   names;
2. `weekly_started_iff`: which of the schedule's wall times is the last one that has started;
3. `most_recent_weekly_iff`: when the schedule is due at its most recent instant, and is due at all.
-/

namespace MasterAgent
open Base

inductive DstFoldPolicy where
  | reject | first | second
deriving DecidableEq, Repr

/-- `ZoneInfo(name)`, where the name is known. -/
class TimeZones where
  zoneInfo : String → Option TimeZone

structure WeeklyScheduleFields where
  weekday : Int
  hour : Int
  minute : Int
  timezone : String
  maxLatenessMinutes : Int
  foldPolicy : DstFoldPolicy
deriving DecidableEq

section
variable [TimeZones]

/-- What `WeeklySchedule.__post_init__` requires. -/
def WeeklyScheduleFields.checks (x : WeeklyScheduleFields) : List Check :=
  [(0 ≤ x.weekday ∧ x.weekday ≤ 6 : Bool), (0 ≤ x.hour ∧ x.hour ≤ 23 : Bool),
    (0 ≤ x.minute ∧ x.minute ≤ 59 : Bool), (0 ≤ x.maxLatenessMinutes : Bool),
    (TimeZones.zoneInfo x.timezone).isSome].zip
  [configurationError "weekday must be 0 (Monday) through 6 (Sunday)",
    configurationError "hour must be 0 through 23",
    configurationError "minute must be 0 through 59",
    configurationError "max_lateness_minutes must not be negative",
    configurationError s!"unknown IANA timezone: {x.timezone}"]

structure WeeklySchedule extends WeeklyScheduleFields where
  valid : firstError toWeeklyScheduleFields.checks = none

/-! ## Resolving a wall time -/

omit [TimeZones] in
/-- `_resolve_local` -/
def resolveLocal (policy : DstFoldPolicy) (zone : TimeZone) (wall : Int) : Except Exn Int :=
  let candidates := [false, true].filterMap fun fold => (zone.find wall fold).map (fold, ·)
  let named (fold : Bool) : Except Exn Int :=
    match candidates.find? (·.1 = fold) with
    | some (_, instant) => .ok instant
    | none => .error (configurationError "recurring DST fold policy could not be satisfied")
  match (candidates.map Prod.snd).dedup with
  | [] => .error (configurationError "recurring local time does not exist in its zone")
  | [instant] => .ok instant
  | _ => match policy with
    | .reject => .error (configurationError
        "recurring local time is ambiguous and requires a fold policy")
    | .first => named false
    | .second => named true

omit [TimeZones] in
/-- The instant shows the wall time, and no other one does, or it is the first or the second one
and the policy asks for that. -/
def Selects (policy : DstFoldPolicy) (zone : TimeZone) (wall s : Int) : Prop :=
  zone.wall s = wall ∧
    ((∀ t, zone.wall t = wall → t = s) ∨
      (policy = .first ∧ ∀ t, zone.wall t = wall → s ≤ t) ∨
      (policy = .second ∧ ∀ t, zone.wall t = wall → t ≤ s))

omit [TimeZones] in
theorem Selects.inj {policy : DstFoldPolicy} {zone : TimeZone} {wall s t : Int}
    (hs : Selects policy zone wall s) (ht : Selects policy zone wall t) : s = t := by
  obtain ⟨shown, hs⟩ := hs
  obtain ⟨shown', ht⟩ := ht
  rcases hs with only | ⟨rfl, first⟩ | ⟨rfl, last⟩
  · exact (only t shown').symm
  · rcases ht with only | ⟨_, first'⟩ | ⟨wrong, _⟩
    · exact only s shown
    · exact le_antisymm (first t shown') (first' s shown)
    · cases wrong
  · rcases ht with only | ⟨wrong, _⟩ | ⟨_, last'⟩
    · exact only s shown
    · cases wrong
    · exact le_antisymm (last' s shown) (last t shown')

omit [TimeZones] in
/-- Resolving a wall time selects an instant by the policy, and raises where there is none. -/
theorem resolveLocal_iff {policy : DstFoldPolicy} {zone : TimeZone} {wall s : Int} :
    resolveLocal policy zone wall = .ok s ↔ Selects policy zone wall s := by
  unfold resolveLocal
  cases unfolded : zone.find wall false with
  | none =>
      have first := zone.find_none_iff.mp unfolded
      have none_shown : ∀ t, zone.wall t ≠ wall := by
        intro t shown
        have folded : zone.fold t = true := by simpa using first t shown
        obtain ⟨u, before, same⟩ := (zone.folded t).mp folded
        exact first u (same.trans shown) (zone.shows_at_most_twice same before).1
      have second : zone.find wall true = none :=
        zone.find_none_iff.mpr fun t shown => absurd shown (none_shown t)
      simp only [List.filterMap_cons, List.filterMap_nil, unfolded, second, Option.map_none,
        List.map_nil, List.dedup_nil]
      constructor
      · intro wrong
        cases wrong
      · exact fun selects => absurd selects.1 (none_shown s)
  | some a =>
      obtain ⟨a_shows, a_fold⟩ := zone.find_iff.mp unfolded
      cases folded : zone.find wall true with
      | none =>
          have only : ∀ t, zone.wall t = wall → t = a := by
            intro t shown
            have fold : zone.fold t = false := by
              simpa using zone.find_none_iff.mp folded t shown
            exact zone.shows_inj (shown.trans a_shows.symm) (fold.trans a_fold.symm)
          have one : [a].dedup = [a] := (List.nodup_singleton a).dedup
          simp only [List.filterMap_cons, List.filterMap_nil, unfolded, folded, Option.map_some,
            Option.map_none, List.map_cons, List.map_nil, one, Except.ok.injEq]
          constructor
          · rintro rfl
            exact ⟨a_shows, .inl only⟩
          · exact fun selects => (only s selects.1).symm
      | some b =>
          obtain ⟨b_shows, b_fold⟩ := zone.find_iff.mp folded
          have walls : zone.wall a = zone.wall b := a_shows.trans b_shows.symm
          have apart : a ≠ b := by
            rintro rfl
            rw [a_fold] at b_fold
            cases b_fold
          have before : a < b :=
            lt_of_le_of_ne (zone.first_of_unfolded a_fold walls.symm) apart
          have either := (zone.shows_at_most_twice walls before).2.2
          have two : [a, b].dedup = [a, b] := List.Nodup.dedup (by simpa using apart)
          simp only [List.filterMap_cons, List.filterMap_nil, unfolded, folded, Option.map_some,
            List.map_cons, List.map_nil, two]
          cases policy with
          | reject =>
              refine ⟨fun wrong => ?_, fun ⟨shown, selects⟩ => ?_⟩
              · cases wrong
              rcases selects with only | ⟨wrong, _⟩ | ⟨wrong, _⟩
              · exact absurd ((only a a_shows).trans (only b b_shows).symm) apart
              · cases wrong
              · cases wrong
          | first =>
              have selected : Selects .first zone wall a := ⟨a_shows, .inr (.inl ⟨rfl, fun t shown =>
                zone.first_of_unfolded a_fold (shown.trans a_shows.symm)⟩)⟩
              simp only [List.find?_cons, decide_true, Except.ok.injEq]
              exact ⟨fun same => same ▸ selected, fun selects => selected.inj selects⟩
          | second =>
              have selected : Selects .second zone wall b := by
                refine ⟨b_shows, .inr (.inr ⟨rfl, fun t shown => ?_⟩)⟩
                rcases either t (shown.trans b_shows.symm) with rfl | rfl
                · exact le_of_lt before
                · exact le_refl _
              simp only [List.find?_cons, Bool.false_eq_true, decide_false, decide_true,
                Except.ok.injEq]
              exact ⟨fun same => same ▸ selected, fun selects => selected.inj selects⟩

/-! ## The weekly schedule -/

omit [TimeZones] in
def WEEK : Int := 7 * DAY

namespace WeeklySchedule

variable (schedule : WeeklySchedule)

theorem zone_known : (TimeZones.zoneInfo schedule.timezone).isSome = true :=
  firstError_none.mp schedule.valid ((TimeZones.zoneInfo schedule.timezone).isSome,
    configurationError s!"unknown IANA timezone: {schedule.timezone}")
    (by simp [WeeklyScheduleFields.checks])

/-- `ZoneInfo(self.timezone)` -/
def zone : TimeZone := (TimeZones.zoneInfo schedule.timezone).get schedule.zone_known

/-- The time of the day. -/
def timeOfDay : Int := (schedule.hour * 60 + schedule.minute) * 60000000

/-- The wall time of the schedule in the week that ends with the local day of an instant. -/
def candidate (now : Int) : Int :=
  let local_day := civilDay (schedule.zone.wall now)
  let days_back := (local_day % 7 - schedule.weekday) % 7
  (local_day - days_back) * DAY + schedule.timeOfDay

/-- `scheduled_at_or_before` -/
def scheduledAtOrBefore (now : Int) : Except Exn Int := do
  let selected ← resolveLocal schedule.foldPolicy schedule.zone (schedule.candidate now)
  if selected > now then
    resolveLocal schedule.foldPolicy schedule.zone (schedule.candidate now - WEEK)
  else return selected

/-- A wall time of the schedule: its weekday, hour and minute. -/
def Weekly (wall : Int) : Prop :=
  civilDay wall % 7 = schedule.weekday ∧ wall % DAY = schedule.timeOfDay

/-- The instant the schedule is due at in one of its weeks. -/
def DueAt (s : Int) : Prop :=
  schedule.Weekly (schedule.zone.wall s) ∧
    Selects schedule.foldPolicy schedule.zone (schedule.zone.wall s) s

/-- The wall time resolves to exactly one instant. -/
def Resolvable (wall : Int) : Prop := ∃ s, Selects schedule.foldPolicy schedule.zone wall s

/-- The clock of the zone has reached the wall time. -/
def Started (now wall : Int) : Prop := ∃ t, t ≤ now ∧ wall ≤ schedule.zone.wall t

/-- The most recent wall time of the schedule that has started. -/
def MostRecentStarted (now wall : Int) : Prop :=
  schedule.Weekly wall ∧ schedule.Started now wall ∧
    ∀ other, schedule.Weekly other → schedule.Started now other → other ≤ wall

theorem bounds : 0 ≤ schedule.weekday ∧ schedule.weekday ≤ 6 ∧ 0 ≤ schedule.timeOfDay ∧
    schedule.timeOfDay < DAY := by
  have checked := firstError_none.mp schedule.valid
  have weekday := checked ((0 ≤ schedule.weekday ∧ schedule.weekday ≤ 6 : Bool),
    configurationError "weekday must be 0 (Monday) through 6 (Sunday)")
    (by simp [WeeklyScheduleFields.checks])
  have hour := checked ((0 ≤ schedule.hour ∧ schedule.hour ≤ 23 : Bool),
    configurationError "hour must be 0 through 23") (by simp [WeeklyScheduleFields.checks])
  have minute := checked ((0 ≤ schedule.minute ∧ schedule.minute ≤ 59 : Bool),
    configurationError "minute must be 0 through 59") (by simp [WeeklyScheduleFields.checks])
  simp only [decide_eq_true_eq] at weekday hour minute
  refine ⟨weekday.1, weekday.2, ?_, ?_⟩
  · unfold timeOfDay
    omega
  · unfold timeOfDay DAY
    omega

/-- The candidate is of the schedule, and on the local day or one of the six days before it. -/
theorem candidate_weekly (now : Int) : schedule.Weekly (schedule.candidate now) ∧
    civilDay (schedule.candidate now) ≤ civilDay (schedule.zone.wall now) ∧
    civilDay (schedule.zone.wall now) < civilDay (schedule.candidate now) + 7 := by
  obtain ⟨weekday, weekday', time, time'⟩ := schedule.bounds
  unfold Weekly candidate civilDay
  simp only [DAY] at time' ⊢
  omega

/-- A week apart, on the same time of the day. -/
theorem weekly_before (now : Int) : schedule.Weekly (schedule.candidate now - WEEK) ∧
    civilDay (schedule.candidate now - WEEK) = civilDay (schedule.candidate now) - 7 := by
  obtain ⟨⟨day, time⟩, -, -⟩ := schedule.candidate_weekly now
  unfold Weekly civilDay at *
  simp only [WEEK, DAY] at *
  omega

/-- Wall times of the schedule on one civil day are one. -/
theorem weekly_inj {a b : Int} (ha : schedule.Weekly a) (hb : schedule.Weekly b)
    (same : civilDay a = civilDay b) : a = b := by
  have da := Int.mul_ediv_add_emod a DAY
  have db := Int.mul_ediv_add_emod b DAY
  unfold Weekly civilDay at *
  rw [← da, ← db, same, ha.2, hb.2]

/-- Wall times of the schedule lie a number of weeks apart. -/
theorem weekly_apart {a b : Int} (ha : schedule.Weekly a) (hb : schedule.Weekly b)
    (before : civilDay a < civilDay b) : civilDay a ≤ civilDay b - 7 := by
  have ha := ha.1
  have hb := hb.1
  omega

/-! ## What has started -/

variable {schedule} {now : Int}

theorem started_day {wall : Int} (started : schedule.Started now wall) :
    civilDay wall ≤ civilDay (schedule.zone.wall now) := by
  obtain ⟨t, before, reached⟩ := started
  calc civilDay wall ≤ civilDay (schedule.zone.wall t) := Int.ediv_le_ediv (by decide) reached
    _ ≤ civilDay (schedule.zone.wall now) := schedule.zone.forward t now before

theorem started_of_day {wall : Int} (day : civilDay wall < civilDay (schedule.zone.wall now)) :
    schedule.Started now wall := by
  refine ⟨now, le_refl now, le_of_lt ?_⟩
  by_contra later
  exact absurd (Int.ediv_le_ediv (by decide) (not_lt.mp later)) (not_le.mpr day)

/-- The last of the schedule's wall times that has started is this week's, or else last week's. -/
theorem weekly_started_iff {wall : Int} : schedule.MostRecentStarted now wall ↔
    (schedule.Started now (schedule.candidate now) ∧ wall = schedule.candidate now) ∨
      (¬schedule.Started now (schedule.candidate now) ∧
        wall = schedule.candidate now - WEEK) := by
  obtain ⟨weekly, recent, near⟩ := schedule.candidate_weekly now
  obtain ⟨weekly', day'⟩ := schedule.weekly_before now
  -- no wall time of the schedule that has started falls after this week's day
  have this_week : ∀ other, schedule.Weekly other → schedule.Started now other →
      civilDay other ≤ civilDay (schedule.candidate now) := by
    intro other is_weekly started
    by_contra after
    have apart := schedule.weekly_apart weekly is_weekly (not_le.mp after)
    have := started_day started
    omega
  have started' : schedule.Started now (schedule.candidate now - WEEK) :=
    started_of_day (by omega)
  have ordered {a b : Int} (ha : schedule.Weekly a) (hb : schedule.Weekly b)
      (days : civilDay a ≤ civilDay b) : a ≤ b := by
    rcases lt_or_eq_of_le days with less | same
    · by_contra above
      exact absurd (Int.ediv_le_ediv (by decide) (le_of_lt (not_le.mp above))) (not_le.mpr less)
    · exact le_of_eq (schedule.weekly_inj ha hb same)
  constructor
  · rintro ⟨is_weekly, started, last⟩
    by_cases reached : schedule.Started now (schedule.candidate now)
    · refine .inl ⟨reached, le_antisymm ?_ (last _ weekly reached)⟩
      exact ordered is_weekly weekly (this_week wall is_weekly started)
    · refine .inr ⟨reached, le_antisymm ?_ (last _ weekly' started')⟩
      refine ordered is_weekly weekly' ?_
      have other : civilDay wall ≠ civilDay (schedule.candidate now) := by
        intro same
        rw [schedule.weekly_inj is_weekly weekly same] at started
        exact reached started
      have apart := schedule.weekly_apart is_weekly weekly
        (lt_of_le_of_ne (this_week wall is_weekly started) other)
      omega
  · rintro (⟨reached, rfl⟩ | ⟨unreached, rfl⟩)
    · exact ⟨weekly, reached, fun other is_weekly started =>
        ordered is_weekly weekly (this_week other is_weekly started)⟩
    · refine ⟨weekly', started', fun other is_weekly started => ordered is_weekly weekly' ?_⟩
      have distinct : civilDay other ≠ civilDay (schedule.candidate now) := by
        intro same
        rw [schedule.weekly_inj is_weekly weekly same] at started
        exact unreached started
      have apart := schedule.weekly_apart is_weekly weekly
        (lt_of_le_of_ne (this_week other is_weekly started) distinct)
      omega

/-! ## The instant it is due at -/

/-- This week's instant if it has come, else last week's. -/
theorem scheduledAtOrBefore_iff {s : Int} : schedule.scheduledAtOrBefore now = .ok s ↔
    (Selects schedule.foldPolicy schedule.zone (schedule.candidate now) s ∧ s ≤ now) ∨
      ((∃ u, now < u ∧ Selects schedule.foldPolicy schedule.zone (schedule.candidate now) u) ∧
        Selects schedule.foldPolicy schedule.zone (schedule.candidate now - WEEK) s) := by
  unfold scheduledAtOrBefore
  rw [bind_ok_iff]
  constructor
  · rintro ⟨u, resolved, rest⟩
    have selects := resolveLocal_iff.mp resolved
    split at rest
    · next after => exact .inr ⟨⟨u, after, selects⟩, resolveLocal_iff.mp rest⟩
    · next come =>
        cases rest
        exact .inl ⟨selects, not_lt.mp come⟩
  · rintro (⟨selects, come⟩ | ⟨⟨u, after, selects⟩, earlier⟩)
    · refine ⟨s, resolveLocal_iff.mpr selects, ?_⟩
      rw [if_neg (not_lt.mpr come)]
      rfl
    · refine ⟨u, resolveLocal_iff.mpr selects, ?_⟩
      rw [if_pos after]
      exact resolveLocal_iff.mpr earlier

/-- Last week's instant has come. -/
theorem last_week_come {s : Int}
    (selects : Selects schedule.foldPolicy schedule.zone (schedule.candidate now - WEEK) s) :
    s < now := by
  obtain ⟨-, recent, -⟩ := schedule.candidate_weekly now
  obtain ⟨-, day'⟩ := schedule.weekly_before now
  refine schedule.zone.lt_of_civilDay ?_
  rw [selects.1]
  omega

variable (schedule now)

/-- What the schedule promises about an instant: the one returned has come, is due, and is followed
by no other due instant before now; and one is returned whenever the most recent wall time that has
started resolves. -/
structure DueMostRecently : Prop where
  returned : ∀ s, schedule.scheduledAtOrBefore now = .ok s →
    s ≤ now ∧ schedule.DueAt s ∧ ∀ u, schedule.DueAt u → ¬(s < u ∧ u < now)
  returns : ∀ wall, schedule.MostRecentStarted now wall → schedule.Resolvable wall →
    ∃ s, schedule.scheduledAtOrBefore now = .ok s

variable {schedule now}

/-- Whatever is returned is the most recent due instant. -/
theorem returned_most_recent {s : Int} (ran : schedule.scheduledAtOrBefore now = .ok s) :
    s ≤ now ∧ schedule.DueAt s ∧ ∀ u, schedule.DueAt u → ¬(s < u ∧ u < now) := by
  obtain ⟨weekly, recent, near⟩ := schedule.candidate_weekly now
  obtain ⟨weekly', day'⟩ := schedule.weekly_before now
  -- a due instant before now falls on this week's day, on last week's, or before
  have day_before : ∀ u, schedule.DueAt u → u < now →
      civilDay (schedule.zone.wall u) ≤ civilDay (schedule.candidate now) := by
    intro u due before
    by_contra after
    have apart := schedule.weekly_apart weekly due.1 (not_le.mp after)
    have := schedule.zone.forward u now (le_of_lt before)
    omega
  rcases scheduledAtOrBefore_iff.mp ran with ⟨selects, come⟩ | ⟨⟨v, after, this_week⟩, selects⟩
  · have shown := selects.1
    refine ⟨come, ⟨shown ▸ weekly, shown.symm ▸ selects⟩, fun u due ⟨later, before⟩ => ?_⟩
    have day := day_before u due before
    have forward := schedule.zone.forward s u (le_of_lt later)
    rw [shown] at forward
    have same := schedule.weekly_inj due.1 weekly (le_antisymm day forward)
    have instant := selects.inj (same ▸ due.2)
    omega
  · have shown := selects.1
    refine ⟨le_of_lt (last_week_come selects), ⟨shown ▸ weekly', shown.symm ▸ selects⟩,
      fun u due ⟨later, before⟩ => ?_⟩
    have day := day_before u due before
    have forward := schedule.zone.forward s u (le_of_lt later)
    rw [shown] at forward
    rcases lt_or_eq_of_le day with less | same
    · have apart := schedule.weekly_apart due.1 weekly less
      have same := schedule.weekly_inj due.1 weekly' (by omega)
      have instant := selects.inj (same ▸ due.2)
      omega
    · have same := schedule.weekly_inj due.1 weekly same
      have instant := this_week.inj (same ▸ due.2)
      omega

/-- The promise is kept unless this week's wall time has not started and does not resolve while last
week's does, or has started, resolves to an instant still to come and last week's does not
resolve. -/
theorem most_recent_weekly_iff (schedule : WeeklySchedule) (now : Int) :
    schedule.DueMostRecently now ↔
      ¬(¬schedule.Started now (schedule.candidate now) ∧
          ¬schedule.Resolvable (schedule.candidate now) ∧
          schedule.Resolvable (schedule.candidate now - WEEK)) ∧
        ¬(schedule.Started now (schedule.candidate now) ∧
          (∃ u, now < u ∧ Selects schedule.foldPolicy schedule.zone (schedule.candidate now) u) ∧
          ¬schedule.Resolvable (schedule.candidate now - WEEK)) := by
  constructor
  · intro promise
    constructor
    · rintro ⟨unreached, unresolved, resolves⟩
      obtain ⟨s, ran⟩ := promise.returns _ (weekly_started_iff.mpr (.inr ⟨unreached, rfl⟩)) resolves
      rcases scheduledAtOrBefore_iff.mp ran with ⟨selects, _⟩ | ⟨⟨u, _, selects⟩, _⟩
      · exact unresolved ⟨s, selects⟩
      · exact unresolved ⟨u, selects⟩
    · rintro ⟨reached, ⟨u, after, this_week⟩, unresolved⟩
      obtain ⟨s, ran⟩ := promise.returns _ (weekly_started_iff.mpr (.inl ⟨reached, rfl⟩))
        ⟨u, this_week⟩
      rcases scheduledAtOrBefore_iff.mp ran with ⟨selects, come⟩ | ⟨_, selects⟩
      · have instant := this_week.inj selects
        omega
      · exact unresolved ⟨s, selects⟩
  · rintro ⟨no_gap, no_wait⟩
    refine ⟨fun s ran => returned_most_recent ran, fun wall started resolves => ?_⟩
    rcases weekly_started_iff.mp started with ⟨reached, rfl⟩ | ⟨unreached, rfl⟩
    · obtain ⟨u, this_week⟩ := resolves
      by_cases after : now < u
      · by_contra raises
        refine no_wait ⟨reached, ⟨u, after, this_week⟩, fun ⟨s, selects⟩ => raises ⟨s, ?_⟩⟩
        exact scheduledAtOrBefore_iff.mpr (.inr ⟨⟨u, after, this_week⟩, selects⟩)
      · exact ⟨u, scheduledAtOrBefore_iff.mpr (.inl ⟨this_week, not_lt.mp after⟩)⟩
    · have resolves' : schedule.Resolvable (schedule.candidate now) := by
        by_contra unresolved
        exact no_gap ⟨unreached, unresolved, resolves⟩
      obtain ⟨u, this_week⟩ := resolves'
      obtain ⟨s, selects⟩ := resolves
      have after : now < u := by
        by_contra come
        exact unreached ⟨u, not_lt.mp come, le_of_eq this_week.1.symm⟩
      exact ⟨s, scheduledAtOrBefore_iff.mpr (.inr ⟨⟨u, after, this_week⟩, selects⟩)⟩

end WeeklySchedule

end

/-! ## A schedule inside a gap -/

namespace Schedule.Samples

/-- Two o'clock on a Monday. -/
def jump : Int := 14 * DAY + 2 * 3600000000

/-- Clocks go forward one hour at two o'clock on that Monday. -/
def springForward : TimeZone where
  wall t := if t < jump then t else t + 3600000000
  fold _ := false
  toUtc w _ := if w < jump then w else w - 3600000000
  offset t := by
    simp only [DAY]
    split <;> rw [abs_lt] <;> omega
  forward t u before := by
    refine Int.ediv_le_ediv (by decide) ?_
    split <;> split <;> omega
  round_trip t := by
    by_cases early : t < jump
    · rw [if_pos early, if_pos early]
    · rw [if_neg early, if_neg (by omega)]
      omega
  folded t := by
    simp only [Bool.false_eq_true, false_iff]
    rintro ⟨u, before, same⟩
    split at same <;> split at same <;> omega

local instance : TimeZones := ⟨fun _ => some springForward⟩

/-- Mondays at half past two. -/
def halfPastTwo : WeeklySchedule where
  weekday := 0
  hour := 2
  minute := 30
  timezone := "zone"
  maxLatenessMinutes := 1440
  foldPolicy := .reject
  valid := by decide

/-- One o'clock on the Monday of the change. -/
def oneOClock : Int := 14 * DAY + 3600000000

theorem candidate_missing : resolveLocal .reject springForward (halfPastTwo.candidate oneOClock) =
    .error (configurationError "recurring local time does not exist in its zone") := by
  decide +kernel

/-- Before the time that does not exist, the schedule does not return the instant of last week. -/
theorem gap_hides_last_week : ¬halfPastTwo.DueMostRecently oneOClock := by
  intro promise
  have unreached : ¬halfPastTwo.Started oneOClock (halfPastTwo.candidate oneOClock) := by
    rintro ⟨t, before, reached⟩
    have candidate : halfPastTwo.candidate oneOClock = 14 * DAY + 9000000000 := by decide +kernel
    have early : halfPastTwo.zone.wall t = t := if_pos (by
      simp only [oneOClock, jump] at before ⊢
      omega)
    rw [candidate, early] at reached
    simp only [oneOClock] at before
    omega
  have last_week : resolveLocal .reject springForward (halfPastTwo.candidate oneOClock - WEEK) =
      .ok (7 * DAY + 9000000000) := by decide +kernel
  obtain ⟨s, ran⟩ := promise.returns _ (WeeklySchedule.weekly_started_iff.mpr
    (.inr ⟨unreached, rfl⟩)) ⟨_, resolveLocal_iff.mp last_week⟩
  obtain ⟨u, resolved, _⟩ := of_bind_ok ran
  have missing : resolveLocal .reject springForward (halfPastTwo.candidate oneOClock) = .ok u :=
    resolved
  rw [candidate_missing] at missing
  cases missing

end Schedule.Samples

end MasterAgent
