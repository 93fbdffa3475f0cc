import Mathlib.Data.List.Basic
import Mathlib.Data.List.Induction

/-!
# Hash chains

A chain of entries is the iteration of a linking function: the head digest of a log is the
fold of `link` from a genesis digest. Result: a log whose entries are linked injectively is
determined by its length and its head (`head_commits`).
-/

namespace Base.HashChain

variable {Entry Digest : Type} (link : Digest → Entry → Digest)

/-- The digest a log ends with. -/
def head (genesis : Digest) (log : List Entry) : Digest := log.foldl link genesis

theorem head_concat {genesis : Digest} {log : List Entry} {e : Entry} :
    head link genesis (log ++ [e]) = link (head link genesis log) e := by
  simp [head, List.foldl_append]

variable {link}

/-- A property of digests that every link establishes holds of every head. -/
theorem head_invariant {P : Entry → Prop} {D : Digest → Prop} {genesis : Digest}
    (start : D genesis) (step : ∀ d e, D d → P e → D (link d e)) :
    ∀ {log : List Entry}, (∀ e ∈ log, P e) → D (head link genesis log) := by
  intro log
  induction log using List.reverseRecOn with
  | nil => exact fun _ => start
  | append_singleton log e ih =>
      intro h
      rw [head_concat]
      exact step _ _ (ih fun x hx => h x (by simp [hx])) (h e (by simp))

/-- A log whose entries are linked injectively is the only one of its length with its head.
The other log's entries need not be injective: the digests agree from the head backwards, so
each of its entries is met at a place where the first log has one. -/
theorem head_commits {P : Entry → Prop} {D : Digest → Prop} {genesis : Digest}
    (start : D genesis) (step : ∀ d e, D d → P e → D (link d e))
    (inj : ∀ d e d' e', D d → P e → link d e = link d' e' → d = d' ∧ e = e') :
    ∀ {log other : List Entry}, (∀ e ∈ log, P e) → log.length = other.length →
      head link genesis log = head link genesis other → log = other := by
  intro log
  induction log using List.reverseRecOn with
  | nil =>
      intro other _ len _
      exact (List.length_eq_zero_iff.mp len.symm).symm
  | append_singleton log e ih =>
      intro other safe len same
      rcases List.eq_nil_or_concat' other with rfl | ⟨other, e', rfl⟩
      · simp at len
      · have before : ∀ x ∈ log, P x := fun x hx => safe x (by simp [hx])
        rw [head_concat, head_concat] at same
        obtain ⟨heads, rfl⟩ := inj _ _ _ _ (head_invariant start step before)
          (safe e (by simp)) same
        rw [ih before (by simpa using len) heads]

end Base.HashChain
