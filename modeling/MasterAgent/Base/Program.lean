import Mathlib.Data.List.Basic

/-!
# Programs that make calls

A program either returns or makes a call and goes on with the answer. Nothing is assumed about
answers: a fact about a program holds for every behaviour of what it calls, and at every point
where it may be stopped.

A procedure is a program over a mutable state that may raise. Every call carries the state it is
made in, so that the history of a run shows the state at each of its calls.

Results:

1. `Prog.wp_reaches`: what the calculus proves of a program holds at every point it reaches;
2. one rule for each way to build a procedure (`Proc.wp_bind`, `Proc.wp_call`,
   `Proc.wp_tryCatch`, …);
3. `Proc.wp_each`: the invariant rule of a loop over a list.
-/

namespace Base

universe u v w

/-- A call with its answer. -/
abbrev Event {C : Type u} (R : C → Type u) := (c : C) × R c

inductive Prog (C : Type u) (R : C → Type u) (A : Type v) : Type (max u v)
  | ret (a : A) : Prog C R A
  | call (c : C) (next : R c → Prog C R A) : Prog C R A

namespace Prog

variable {C : Type u} {R : C → Type u} {A : Type v} {B : Type v}

def bind : Prog C R A → (A → Prog C R B) → Prog C R B
  | ret a, f => f a
  | call c next, f => call c fun r => (next r).bind f

/-- `Reaches p t q`: after the events `t` the program `p` is at `q`. -/
inductive Reaches : Prog C R A → List (Event R) → Prog C R A → Prop
  | here (p : Prog C R A) : Reaches p [] p
  | step {c : C} {next : R c → Prog C R A} (r : R c) {t : List (Event R)} {q : Prog C R A} :
      Reaches (next r) t q → Reaches (call c next) (⟨c, r⟩ :: t) q

/-- Every event of a run answers a call that was reached before it. -/
theorem Reaches.event {p q : Prog C R A} {t u : List (Event R)} {e : Event R}
    (h : Reaches p (t ++ e :: u) q) : ∃ next, Reaches p t (call e.1 next) := by
  induction t generalizing p with
  | nil =>
      obtain ⟨c, r⟩ := e
      cases h with
      | step r _ => exact ⟨_, .here _⟩
  | cons first t ih =>
      obtain ⟨c, r⟩ := first
      cases h with
      | step r later =>
          obtain ⟨next, reached⟩ := ih later
          exact ⟨next, .step r reached⟩

/-- The first `n` steps under fixed answers. -/
def drive (answer : Nat → (c : C) → R c) : Nat → Nat → Prog C R A →
    List (Event R) × Prog C R A
  | _, 0, p => ([], p)
  | _, _ + 1, ret a => ([], ret a)
  | i, n + 1, call c next =>
      let (t, q) := drive answer (i + 1) n (next (answer i c))
      (⟨c, answer i c⟩ :: t, q)

theorem reaches_drive (answer : Nat → (c : C) → R c) (i n : Nat) (p : Prog C R A) :
    Reaches p (drive answer i n p).1 (drive answer i n p).2 := by
  induction n generalizing i p with
  | zero => exact .here p
  | succ n ih =>
      cases p with
      | ret a => exact .here _
      | call c next => exact .step _ (ih (i + 1) (next (answer i c)))

/-- Every event of a driven run is one of the given answers. -/
theorem drive_answers {answer : Nat → (c : C) → R c} {i n : Nat} {p : Prog C R A} {e : Event R}
    (h : e ∈ (drive answer i n p).1) : ∃ j, e.2 = answer j e.1 := by
  induction n generalizing i p with
  | zero => cases h
  | succ n ih =>
      cases p with
      | ret a => cases h
      | call c next =>
          rcases List.mem_cons.mp h with rfl | later
          · exact ⟨i, rfl⟩
          · exact ih later

/-- What a program has returned. -/
def result : Prog C R A → Option A
  | ret a => some a
  | call _ _ => none

/-- The call a program is at. -/
def awaited : Prog C R A → Option C
  | ret _ => none
  | call c _ => some c

theorem eq_of_result {p : Prog C R A} {a : A} (h : p.result = some a) : p = ret a := by
  cases p with
  | ret b => rw [Option.some.inj h]
  | call c next => cases h

theorem eq_of_awaited {p : Prog C R A} {c : C} (h : p.awaited = some c) :
    ∃ next, p = call c next := by
  cases p with
  | ret b => cases h
  | call d next =>
      obtain rfl := Option.some.inj h
      exact ⟨next, rfl⟩

/-! ## Preconditions -/

/-- Started with the history `h`, every call of the program is made as `point` asks, and what it
returns satisfies the postcondition. -/
def wp (point : List (Event R) → C → Prop) (Q : A → List (Event R) → Prop) :
    Prog C R A → List (Event R) → Prop
  | ret a, h => Q a h
  | call c next, h => point h c ∧ ∀ r, (next r).wp point Q (h ++ [⟨c, r⟩])

variable {point : List (Event R) → C → Prop}

theorem wp_bind {p : Prog C R A} {f : A → Prog C R B} {Q : B → List (Event R) → Prop}
    {h : List (Event R)} :
    (p.bind f).wp point Q h ↔ p.wp point (fun a h => (f a).wp point Q h) h := by
  induction p generalizing h with
  | ret a => rfl
  | call c next ih => exact and_congr_right fun _ => forall_congr' fun r => ih r

theorem wp_mono {p : Prog C R A} {Q Q' : A → List (Event R) → Prop} {h : List (Event R)}
    (wider : ∀ a h, Q a h → Q' a h) (pre : p.wp point Q h) : p.wp point Q' h := by
  induction p generalizing h with
  | ret a => exact wider a h pre
  | call c next ih => exact ⟨pre.1, fun r => ih r (pre.2 r)⟩

/-- The history at a call extends the one the program was started with. -/
theorem wp_extends {p : Prog C R A} {Q : A → List (Event R) → Prop} {h : List (Event R)}
    (pre : p.wp point Q h) : p.wp (fun h' c => h <+: h' ∧ point h' c) Q h := by
  suffices general : ∀ h', h <+: h' → p.wp point Q h' →
      p.wp (fun h' c => h <+: h' ∧ point h' c) Q h' from general h (List.prefix_refl h) pre
  clear pre
  induction p with
  | ret a => exact fun _ _ pre => pre
  | call c next ih =>
      exact fun h' extends_h pre => ⟨⟨extends_h, pre.1⟩, fun r =>
        ih r _ (extends_h.trans (List.prefix_append h' _)) (pre.2 r)⟩

theorem wp_always {p : Prog C R A} {Q : A → List (Event R) → Prop} {h : List (Event R)}
    (points : ∀ h c, point h c) (post : ∀ a h, Q a h) : p.wp point Q h := by
  induction p generalizing h with
  | ret a => exact post a h
  | call c next ih => exact ⟨points h c, fun r => ih r⟩

/-- What came before may be left out of the history. -/
theorem wp_shift {p : Prog C R A} {Q : A → List (Event R) → Prop} {h t : List (Event R)}
    (pre : p.wp (fun u c => point (h ++ u) c) (fun a u => Q a (h ++ u)) t) :
    p.wp point Q (h ++ t) := by
  induction p generalizing t with
  | ret a => exact pre
  | call c next ih =>
      refine ⟨pre.1, fun r => ?_⟩
      rw [List.append_assoc]
      exact ih r (pre.2 r)

/-- What holds of a program holds at every point it reaches. -/
theorem wp_reaches {p q : Prog C R A} {Q : A → List (Event R) → Prop} {t h : List (Event R)}
    (reached : Reaches p t q) (pre : p.wp point Q h) : q.wp point Q (h ++ t) := by
  induction reached generalizing h with
  | here p => simpa using pre
  | step r _ ih => simpa using ih (pre.2 r)

end Prog

/-! ## Procedures -/

/-- A program over a state, which returns a value or raises, and leaves a state either way. -/
def Proc (S : Type u) (C : Type u) (R : C → Type u) (E A : Type u) : Type u :=
  S → Prog (S × C) (fun x => R x.2) (Except E A × S)

namespace Proc

variable {S C : Type u} {R : C → Type u} {E A B : Type u}

protected def pure (a : A) : Proc S C R E A := fun s => .ret (.ok a, s)

protected def bind (p : Proc S C R E A) (f : A → Proc S C R E B) : Proc S C R E B := fun s =>
  (p s).bind fun
    | (.ok a, s) => f a s
    | (.error e, s) => .ret (.error e, s)

instance : Monad (Proc S C R E) where
  pure := Proc.pure
  bind := Proc.bind

def get : Proc S C R E S := fun s => .ret (.ok s, s)

def modify (f : S → S) : Proc S C R E PUnit := fun s => .ret (.ok ⟨⟩, f s)

def throw (e : E) : Proc S C R E A := fun s => .ret (.error e, s)

/-- Run a handler on what is raised, in the state it is raised in. -/
def tryCatch (p : Proc S C R E A) (handler : E → Proc S C R E A) : Proc S C R E A := fun s =>
  (p s).bind fun
    | (.ok a, s) => .ret (.ok a, s)
    | (.error e, s) => handler e s

/-- Make a call. -/
def call (c : C) : Proc S C R E (R c) := fun s => .call (s, c) fun r => .ret (.ok r, s)

/-- A computation that may raise and touches no state. -/
def lift : Except E A → Proc S C R E A
  | .ok a => fun s => .ret (.ok a, s)
  | .error e => fun s => .ret (.error e, s)

/-- Run a procedure for each element in turn. -/
def each (f : B → Proc S C R E PUnit) : List B → Proc S C R E PUnit
  | [] => pure ⟨⟩
  | b :: rest => f b >>= fun _ => each f rest

/-- The events of a procedure. -/
abbrev History (S : Type u) {C : Type u} (R : C → Type u) :=
  List (Event (C := S × C) fun x => R x.2)

/-- Started in a state with a history, every call is made as `point` asks, and the procedure
returns as `Q` asks or raises as `X` asks. -/
def wp (point : History S R → S → C → Prop) (p : Proc S C R E A)
    (Q : A → S → History S R → Prop) (X : E → S → History S R → Prop) (s : S)
    (h : History S R) : Prop :=
  (p s).wp (fun h x => point h x.1 x.2) (fun out h => match out with
    | (.ok a, s) => Q a s h
    | (.error e, s) => X e s h) h

variable {point : History S R → S → C → Prop} {Q : A → S → History S R → Prop}
  {X : E → S → History S R → Prop} {s : S} {h : History S R}

@[simp]
theorem wp_pure {a : A} : wp point (pure a : Proc S C R E A) Q X s h ↔ Q a s h := Iff.rfl

theorem wp_bind {p : Proc S C R E B} {f : B → Proc S C R E A} :
    wp point (p >>= f) Q X s h ↔ wp point p (fun b s h => wp point (f b) Q X s h) X s h := by
  show Prog.wp _ _ ((p s).bind _) h ↔ _
  rw [Prog.wp_bind]
  unfold wp
  apply iff_of_eq
  congr 1
  funext out h
  obtain ⟨_ | b, s⟩ := out <;> rfl

theorem wp_map {p : Proc S C R E B} {f : B → A} :
    wp point (f <$> p) Q X s h ↔ wp point p (fun b => Q (f b)) X s h :=
  wp_bind

@[simp]
theorem wp_get {Q : S → S → History S R → Prop} :
    wp point (get : Proc S C R E S) Q X s h ↔ Q s s h := Iff.rfl

@[simp]
theorem wp_modify {f : S → S} {Q : PUnit → S → History S R → Prop} :
    wp point (modify f : Proc S C R E PUnit) Q X s h ↔ Q ⟨⟩ (f s) h := Iff.rfl

@[simp]
theorem wp_throw {e : E} : wp point (throw e : Proc S C R E A) Q X s h ↔ X e s h := Iff.rfl

theorem wp_tryCatch {p : Proc S C R E A} {handler : E → Proc S C R E A} :
    wp point (tryCatch p handler) Q X s h ↔
      wp point p Q (fun e s h => wp point (handler e) Q X s h) s h := by
  show Prog.wp _ _ ((p s).bind _) h ↔ _
  rw [Prog.wp_bind]
  unfold wp
  apply iff_of_eq
  congr 1
  funext out h
  obtain ⟨_ | a, s⟩ := out <;> rfl

theorem wp_call {c : C} {Q : R c → S → History S R → Prop} :
    wp point (call c : Proc S C R E (R c)) Q X s h ↔
      point h s c ∧ ∀ r, Q r s (h ++ [⟨(s, c), r⟩]) := Iff.rfl

@[simp]
theorem wp_lift {x : Except E A} :
    wp point (lift x : Proc S C R E A) Q X s h ↔
      match x with
      | .ok a => Q a s h
      | .error e => X e s h := by
  cases x <;> rfl

theorem wp_mono {p : Proc S C R E A} {Q' : A → S → History S R → Prop}
    {X' : E → S → History S R → Prop} (pre : wp point p Q X s h)
    (returns : ∀ a s h, Q a s h → Q' a s h) (raises : ∀ e s h, X e s h → X' e s h) :
    wp point p Q' X' s h := by
  refine Prog.wp_mono ?_ pre
  rintro ⟨_ | a, s⟩ h out
  · exact raises _ _ _ out
  · exact returns _ _ _ out

/-- Calls may be asked for less. -/
theorem wp_point_mono {p : Proc S C R E A} {point' : History S R → S → C → Prop}
    (pre : wp point p Q X s h) (weaker : ∀ h s c, point h s c → point' h s c) :
    wp point' p Q X s h := by
  unfold wp at pre ⊢
  generalize p s = program at pre
  induction program generalizing h with
  | ret out => exact pre
  | call c next ih => exact ⟨weaker _ _ _ pre.1, fun r => ih r (pre.2 r)⟩

/-- The history at a call extends the one the procedure was started with. -/
theorem wp_extends {p : Proc S C R E A} (pre : wp point p Q X s h) :
    wp (fun h' s' c => h <+: h' ∧ point h' s' c) p Q X s h :=
  Prog.wp_extends pre

/-- A procedure may be considered with an empty history. -/
theorem wp_shift {p : Proc S C R E A}
    (pre : wp (fun u s c => point (h ++ u) s c) p (fun a s u => Q a s (h ++ u))
      (fun e s u => X e s (h ++ u)) s []) : wp point p Q X s h := by
  have shifted : Prog.wp (fun t x => point t x.1 x.2) (fun out t => match out with
      | (.ok a, s) => Q a s t
      | (.error e, s) => X e s t) (p s) (h ++ []) := by
    refine Prog.wp_shift (Prog.wp_mono (fun out _ post => ?_) pre)
    obtain ⟨_ | a, s⟩ := out <;> exact post
  rwa [List.append_nil] at shifted

theorem wp_always {p : Proc S C R E A} (points : ∀ h s c, point h s c) (returns : ∀ a s h, Q a s h)
    (raises : ∀ e s h, X e s h) : wp point p Q X s h := by
  refine Prog.wp_always (fun h x => points h x.1 x.2) fun out h => ?_
  obtain ⟨_ | a, s⟩ := out
  · exact raises _ _ _
  · exact returns _ _ _

/-- The invariant rule: what one round preserves, the loop preserves. -/
theorem wp_each {f : B → Proc S C R E PUnit} {all : List B}
    {I : List B → S → History S R → Prop}
    (round : ∀ done b rest s h, all = done ++ b :: rest → I done s h →
      wp point (f b) (fun _ s h => I (done ++ [b]) s h) X s h)
    (start : I [] s h) :
    wp point (each f all) (fun _ s h => I all s h) X s h := by
  suffices general : ∀ (rest done : List B) (s : S) (h : History S R), all = done ++ rest →
      I done s h → wp point (each f rest) (fun _ s h => I all s h) X s h from
    general all [] s h rfl start
  intro rest
  induction rest with
  | nil =>
      intro done s h split holds
      rw [List.append_nil] at split
      subst split
      exact holds
  | cons b rest ih =>
      intro done s h split holds
      show wp point (f b >>= fun _ => each f rest) _ X s h
      rw [wp_bind]
      refine wp_mono (round done b rest s h split holds) ?_ fun _ _ _ raised => raised
      intro _ s h preserved
      exact ih (done ++ [b]) s h (by rw [split, List.append_assoc]; rfl) preserved

/-- What is proved of a procedure holds at every call of every run of it. -/
theorem point_of_reaches {p : Proc S C R E A} {t : History S R} {x : S × C}
    {next : R x.2 → Prog (S × C) (fun x => R x.2) (Except E A × S)} (pre : wp point p Q X s h)
    (reached : Prog.Reaches (p s) t (.call x next)) : point (h ++ t) x.1 x.2 :=
  (Prog.wp_reaches reached pre).1

/-- What is proved of a procedure holds at every event of every run of it. -/
theorem point_of_event {p : Proc S C R E A} {t u : History S R} {x : S × C} {r : R x.2}
    {q : Prog (S × C) (fun x => R x.2) (Except E A × S)} (pre : wp point p Q X s h)
    (reached : Prog.Reaches (p s) (t ++ ⟨x, r⟩ :: u) q) : point (h ++ t) x.1 x.2 := by
  obtain ⟨next, before⟩ := reached.event
  exact point_of_reaches pre before

/-- What is proved of a procedure holds of everything it returns. -/
theorem post_of_reaches {p : Proc S C R E A} {t : History S R} {a : A} {s' : S}
    (pre : wp point p Q X s h) (reached : Prog.Reaches (p s) t (.ret (.ok a, s'))) :
    Q a s' (h ++ t) :=
  Prog.wp_reaches reached pre

/-- What is proved of a procedure holds of everything it raises. -/
theorem raise_of_reaches {p : Proc S C R E A} {t : History S R} {e : E} {s' : S}
    (pre : wp point p Q X s h) (reached : Prog.Reaches (p s) t (.ret (.error e, s'))) :
    X e s' (h ++ t) :=
  Prog.wp_reaches reached pre

end Proc

end Base
