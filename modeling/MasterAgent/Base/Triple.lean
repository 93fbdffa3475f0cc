import MasterAgent.Base.Program

/-!
# Triples

What a procedure does to its state, whatever its calls answer: from any state that satisfies the
precondition it returns in a state that satisfies one assertion, or raises in a state that satisfies
another. Where the history does not matter, a rule for each construct replaces the weakest
precondition.
-/

namespace Base

universe u

namespace Proc

variable {S C : Type u} {R : C → Type u} {E A B : Type u}

/-- Started as `I` asks, the procedure returns as `J` asks, or raises as `X` asks. -/
def Triple (I : S → Prop) (p : Proc S C R E A) (J : A → S → Prop) (X : S → Prop) : Prop :=
  ∀ s h, I s → wp (fun _ _ _ => True) p (fun a s _ => J a s) (fun _ s _ => X s) s h

/-- The procedure keeps an assertion, also when it raises. -/
def Keeps (I : S → Prop) (p : Proc S C R E A) : Prop := Triple I p (fun _ => I) I

variable {I I' X X' : S → Prop} {J J' : A → S → Prop} {p : Proc S C R E A}

theorem Triple.mono (triple : Triple I p J X) (pre : ∀ s, I' s → I s)
    (returns : ∀ a s, J a s → J' a s) (raises : ∀ s, X s → X' s) : Triple I' p J' X' :=
  fun s h start => wp_mono (triple s h (pre s start)) (fun a s _ => returns a s)
    fun _ s _ => raises s

theorem Keeps.triple (keeps : Keeps I p) (returns : ∀ a s, I s → J a s) (raises : ∀ s, I s → X s) :
    Triple I p J X :=
  keeps.mono (fun _ start => start) returns raises

/-- A fact that does not depend on the state. -/
theorem Triple.fact {P : Prop} (triple : P → Triple I p J X) : Triple (fun s => P ∧ I s) p J X :=
  fun s h start => triple start.1 s h start.2

theorem Triple.bind {M : B → S → Prop} {p : Proc S C R E B} {f : B → Proc S C R E A}
    (first : Triple I p M X) (next : ∀ b, Triple (M b) (f b) J X) : Triple I (p >>= f) J X :=
  fun s h start => wp_bind.mpr (wp_mono (first s h start) (fun b s h between => next b s h between)
    fun _ _ _ raised => raised)

theorem Triple.pure {a : A} (returns : ∀ s, I s → J a s) :
    Triple I (Pure.pure a : Proc S C R E A) J X :=
  fun s _ start => wp_pure.mpr (returns s start)

theorem Triple.throw {e : E} (raises : ∀ s, I s → X s) :
    Triple I (Proc.throw e : Proc S C R E A) J X :=
  fun s _ start => wp_throw.mpr (raises s start)

theorem Triple.modify {f : S → S} {J : PUnit → S → Prop} (returns : ∀ s, I s → J ⟨⟩ (f s)) :
    Triple I (Proc.modify f : Proc S C R E PUnit) J X :=
  fun s _ start => wp_modify.mpr (returns s start)

/-- Reading the state: what follows knows which one was read. -/
theorem Triple.get {f : S → Proc S C R E A} (next : ∀ s₀, I s₀ → Triple (· = s₀) (f s₀) J X) :
    Triple I (Proc.get >>= f) J X :=
  fun s h start => wp_bind.mpr (wp_get.mpr (next s start s h rfl))

theorem Triple.lift {x : Except E A} (returns : ∀ a, x = .ok a → ∀ s, I s → J a s)
    (raises : ∀ s, I s → X s) : Triple I (Proc.lift x : Proc S C R E A) J X := by
  intro s h start
  rw [wp_lift]
  cases x with
  | ok a => exact returns a rfl s start
  | error e => exact raises s start

theorem Triple.call {c : C} {J : R c → S → Prop} (returns : ∀ r s, I s → J r s) :
    Triple I (Proc.call c : Proc S C R E (R c)) J X :=
  fun s _ start => wp_call.mpr ⟨trivial, fun r => returns r s start⟩

theorem Triple.tryCatch {M : S → Prop} {handler : E → Proc S C R E A} (body : Triple I p J M)
    (handled : ∀ e, Triple M (handler e) J X) : Triple I (Proc.tryCatch p handler) J X :=
  fun s h start => wp_tryCatch.mpr (wp_mono (body s h start) (fun _ _ _ returned => returned)
    fun e s h raised => handled e s h raised)

/-- What one round keeps, a loop keeps. -/
theorem Keeps.each {f : B → Proc S C R E PUnit} {all : List B}
    (round : ∀ b ∈ all, Keeps I (f b)) : Keeps I (Proc.each f all) := by
  intro s h start
  refine wp_each (I := fun _ s _ => I s) (fun done b rest s h split holds => ?_) start
  exact round b (by rw [split]; simp) s h holds

/-- The invariant of a loop may speak of the rounds that are over. -/
theorem Triple.each {f : B → Proc S C R E PUnit} {all : List B} {L : List B → S → Prop}
    (round : ∀ done b rest, all = done ++ b :: rest →
      Triple (L done) (f b) (fun _ => L (done ++ [b])) X) :
    Triple (L []) (Proc.each f all) (fun _ => L all) X :=
  fun _ _ start => wp_each (I := fun done s _ => L done s)
    (fun done b rest s h split holds => round done b rest split s h holds) start

namespace Keeps

theorem bind {p : Proc S C R E B} {f : B → Proc S C R E A} (first : Keeps I p)
    (next : ∀ b, Keeps I (f b)) : Keeps I (p >>= f) :=
  Triple.bind first next

theorem pure {a : A} : Keeps I (Pure.pure a : Proc S C R E A) := Triple.pure fun _ start => start

theorem throw {e : E} : Keeps I (Proc.throw e : Proc S C R E A) := Triple.throw fun _ start => start

theorem lift {x : Except E A} : Keeps I (Proc.lift x : Proc S C R E A) :=
  Triple.lift (fun _ _ _ start => start) fun _ start => start

theorem modify {f : S → S} (kept : ∀ s, I s → I (f s)) :
    Keeps I (Proc.modify f : Proc S C R E PUnit) :=
  Triple.modify kept

end Keeps

end Proc

end Base
