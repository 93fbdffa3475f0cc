import Mathlib.Logic.Function.Basic
import MasterAgent.Base.Transition

/-!
# Critical sections

Any number of processes replace a state under one lock. A process takes the lock, loads the state,
commits what it makes of the state that it has loaded, and gives the lock back; where it is stopped,
the lock is given back for it. Between the sections the state may be changed from outside.

Results:

1. `serial`: the commits of every run, in their order, are a serial run;
2. `of_serial`: every serial run is one of the processes.
-/

namespace Base.Locked

variable {P S E : Type}

/-- Where a process is in its section. -/
inductive Phase (S : Type) where
  | idle
  | entered
  | loaded (s : S)
  | leaving

structure World (P S : Type) where
  shared : S
  holder : Option P
  phase : P → Phase S

inductive Event (P E : Type) where
  | acquire (p : P)
  | load (p : P)
  | commit (p : P) (e : E)
  | release (p : P)
  | outside (e : E)

/-- What an event does to the shared state, if anything. -/
def Event.effect : Event P E → Option E
  | commit _ e | outside e => some e
  | _ => none

/-- No process is in its section. -/
def resting (s : S) : World P S := ⟨s, none, fun _ => .idle⟩

variable (performs changes : S → E → S → Prop)

section
variable [DecidableEq P]

/-- A process goes by its own phase. Only the lock tells it about the others. -/
inductive Step : World P S → Event P E → World P S → Prop
  | acquire {w : World P S} {p : P} (idle : w.phase p = .idle) (free : w.holder = none) :
      Step w (.acquire p) ⟨w.shared, some p, Function.update w.phase p .entered⟩
  | load {w : World P S} {p : P} (entered : w.phase p = .entered) :
      Step w (.load p) ⟨w.shared, w.holder, Function.update w.phase p (.loaded w.shared)⟩
  | commit {w : World P S} {p : P} {e : E} {s s' : S} (loaded : w.phase p = .loaded s)
      (performed : performs s e s') :
      Step w (.commit p e) ⟨s', w.holder, Function.update w.phase p .leaving⟩
  | release {w : World P S} {p : P} (inside : w.phase p ≠ .idle) :
      Step w (.release p) ⟨w.shared, none, Function.update w.phase p .idle⟩
  | outside {w : World P S} {e : E} {s' : S} (free : w.holder = none)
      (changed : changes w.shared e s') : Step w (.outside e) ⟨s', none, w.phase⟩

end

/-- One event of a serial run. -/
def Serially (s : S) (e : E) (s' : S) : Prop := performs s e s' ∨ changes s e s'

/-- Only the holder is in its section, and it has loaded the state as it is. -/
structure Exclusive (w : World P S) : Prop where
  holds : ∀ p, w.phase p ≠ .idle → w.holder = some p
  current : ∀ p s, w.phase p = .loaded s → s = w.shared

theorem resting_exclusive (s : S) : Exclusive (resting s : World P S) :=
  ⟨fun _ inside => absurd rfl inside, fun _ _ loaded => nomatch loaded⟩

variable {performs changes} {w w' : World P S}

/-- While a process is in its section, every other process is idle. -/
theorem Exclusive.alone (exclusive : Exclusive w) {p q : P} (inside : w.phase p ≠ .idle)
    (other : q ≠ p) : w.phase q = .idle := by
  by_contra entered
  exact other (Option.some.inj ((exclusive.holds q entered).symm.trans (exclusive.holds p inside)))

/-- A process that moves on while the others are idle. -/
theorem Exclusive.moved [DecidableEq P] {p : P} {s : S} {phase : P → Phase S} {next : Phase S}
    (alone : ∀ q, q ≠ p → phase q = .idle) (current : ∀ x, next = .loaded x → x = s) :
    Exclusive ⟨s, some p, Function.update phase p next⟩ := by
  refine ⟨fun q inside => ?_, fun q x loaded => ?_⟩
  · by_cases same : q = p
    · rw [same]
    · exact absurd ((Function.update_of_ne same _ _).trans (alone q same)) inside
  · change Function.update phase p next q = _ at loaded
    by_cases same : q = p
    · rw [same, Function.update_self] at loaded
      exact current x loaded
    · rw [Function.update_of_ne same, alone q same] at loaded
      cases loaded

/-- Nobody is in a section whose lock is free. -/
theorem Exclusive.all_idle (exclusive : Exclusive w) (free : w.holder = none) (p : P) :
    w.phase p = .idle := by
  by_contra inside
  cases free.symm.trans (exclusive.holds p inside)

theorem Exclusive.of_idle {phase : P → Phase S} (idle : ∀ p, phase p = .idle) (s : S) :
    Exclusive ⟨s, none, phase⟩ :=
  ⟨fun p inside => absurd (idle p) inside, fun p _ loaded => nomatch loaded.symm.trans (idle p)⟩

variable [DecidableEq P]

/-- One event keeps the sections apart, and has its effect on the state as it is. -/
theorem step_serial {e : Event P E} (step : Step performs changes w e w') (exclusive : Exclusive w) :
    Run (Serially performs changes) w.shared e.effect.toList w'.shared ∧ Exclusive w' := by
  cases step with
  | acquire idle free =>
    exact ⟨.nil _, .moved (fun q _ => exclusive.all_idle free q) nofun⟩
  | @load p entered =>
    -- a process that has entered holds the lock, though its step does not ask for it
    have inside : w.phase p ≠ .idle := fun idle => nomatch entered.symm.trans idle
    refine ⟨.nil _, ?_⟩
    rw [exclusive.holds p inside]
    exact .moved (fun q other => exclusive.alone inside other) fun x same => by
      cases same
      rfl
  | @commit p e s s' loaded performed =>
    have inside : w.phase p ≠ .idle := fun idle => nomatch loaded.symm.trans idle
    -- nothing has changed the state since it was loaded
    rw [exclusive.current p s loaded] at performed
    refine ⟨.single (.inl performed), ?_⟩
    rw [exclusive.holds p inside]
    exact .moved (fun q other => exclusive.alone inside other) nofun
  | @release p inside =>
    refine ⟨.nil _, .of_idle (fun q => ?_) _⟩
    by_cases same : q = p
    · rw [same, Function.update_self]
    · rw [Function.update_of_ne same]
      exact exclusive.alone inside same
  | outside free changed =>
    exact ⟨.single (.inr changed), .of_idle (exclusive.all_idle free) _⟩

/-- The commits of every run, in their order, are a serial run. -/
theorem serial {t : List (Event P E)} (run : Run (Step performs changes) w t w')
    (exclusive : Exclusive w) :
    Run (Serially performs changes) w.shared (t.filterMap Event.effect) w'.shared ∧
      Exclusive w' := by
  induction run with
  | nil _ => exact ⟨.nil _, exclusive⟩
  | @cons _ _ _ e _ now _ ih =>
    obtain ⟨effect, still⟩ := step_serial now exclusive
    obtain ⟨later, last⟩ := ih still
    refine ⟨?_, last⟩
    rw [List.filterMap_cons]
    cases of : e.effect with
    | none =>
      rw [of] at effect
      exact effect.append later
    | some x =>
      rw [of] at effect
      exact effect.append later

/-- One process alone can perform every serial run. -/
theorem of_serial (p : P) {s s' : S} {u : List E} (run : Run (Serially performs changes) s u s') :
    ∃ t : List (Event P E), Run (Step performs changes) (resting s) t (resting s') ∧
      t.filterMap Event.effect = u := by
  induction run with
  | nil s => exact ⟨[], .nil _, rfl⟩
  | @cons s next _ e _ now _ ih =>
    obtain ⟨t, later, effects⟩ := ih
    rcases now with performed | changed
    · refine ⟨.acquire p :: .load p :: .commit p e :: .release p :: t, ?_, ?_⟩
      · have entered : Step performs changes (resting s) (.acquire p) _ := .acquire rfl rfl
        have back : (resting next : World P S) = ⟨next, none, Function.update (Function.update
            (Function.update (Function.update (fun _ => .idle) p .entered) p (.loaded s)) p
            .leaving) p .idle⟩ := by
          simp [resting]
        rw [back] at later
        refine .cons entered (.cons (.load ?_) (.cons (.commit ?_ performed)
          (.cons (.release ?_) later)))
        · exact Function.update_self ..
        · exact Function.update_self ..
        · show Function.update _ p _ p ≠ _
          rw [Function.update_self]
          nofun
      · show e :: t.filterMap Event.effect = _
        rw [effects]
    · refine ⟨.outside e :: t, .cons (.outside rfl changed) later, ?_⟩
      show e :: t.filterMap Event.effect = _
      rw [effects]

end Base.Locked
