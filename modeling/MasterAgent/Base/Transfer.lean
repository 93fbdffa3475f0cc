import MasterAgent.Base.Effect

/-!
# Writing and reading in rounds

A write or a read may move fewer bytes than it is asked to; the caller goes on until all are moved.

Results: `wp_writeRounds`, whose invariant is about the bytes written so far, and `wp_readBlocks`:
all bytes are read.
-/

namespace Base.Effect

/-- How many bytes the rounds of a loop write or read; a round moves at least one. -/
structure Transfers where
  amount : Nat → Nat
  moves : ∀ round, 0 < amount round

/-- What the rounds before the given one can move. -/
def Transfers.total (transfers : Transfers) : Nat → Nat
  | 0 => 0
  | round + 1 => transfers.total round + transfers.amount round

variable {S E α : Type}

/-- Rounds until nothing remains. -/
def writeRounds (step : Nat → Effect S E Unit) (store : List α → S → S) (transfers : Transfers) :
    (fuel round : Nat) → List α → Effect S E Unit
  | 0, _, _ => pure ()
  | fuel + 1, round, remaining =>
      if remaining = [] then pure ()
      else do
        step round
        modify (store (remaining.take (transfers.amount round)))
        writeRounds step store transfers fuel (round + 1) (remaining.drop (transfers.amount round))

/-- Rounds until one reads nothing or more than the limit has been read: what is left unread, and
what has been read. -/
def readBlocks (step : Nat → Effect S E Unit) (blockSize limit : Nat) (transfers : Transfers) :
    (fuel round : Nat) → (unread observed : List α) → Effect S E (List α × List α)
  | 0, _, unread, observed => pure (unread, observed)
  | fuel + 1, round, unread, observed =>
      if limit < observed.length then pure (unread, observed)
      else
        let wanted := min (min blockSize (limit + 1 - observed.length)) (transfers.amount round)
        (step round).bind fun _ =>
          if unread.take wanted = [] then pure (unread, observed)
          else readBlocks step blockSize limit transfers fuel (round + 1) (unread.drop wanted)
            (observed ++ unread.take wanted)

section
variable {step : Nat → Effect S E Unit} {store : List α → S → S} {transfers : Transfers}
  {X : E → S → Prop} {C : S → Prop} {payload : List α}

theorem wp_writeRounds (Inv : Nat → List α → S → Prop)
    (round_ : ∀ {round written remaining s}, remaining ≠ [] → written ++ remaining = payload →
      Inv round written s → wp (step round) (fun _ s =>
        Inv (round + 1) (written ++ remaining.take (transfers.amount round))
          (store (remaining.take (transfers.amount round)) s)) X C s)
    {fuel round : Nat} {written remaining : List α} {s : S} (enough : remaining.length ≤ fuel)
    (all : written ++ remaining = payload) (h : Inv round written s) :
    wp (writeRounds step store transfers fuel round remaining)
      (fun _ s => ∃ round, Inv round payload s) X C s := by
  induction fuel generalizing round written remaining s with
  | zero =>
      obtain rfl := List.length_eq_zero_iff.mp (Nat.le_zero.mp enough)
      rw [List.append_nil] at all
      exact ⟨round, all ▸ h⟩
  | succ fuel ih =>
  unfold writeRounds
  by_cases done : remaining = []
  · rw [if_pos done]
    rw [done, List.append_nil] at all
    exact ⟨round, all ▸ h⟩
  rw [if_neg done]
  refine wp_bind.mpr (wp_mono (round_ done all h) ?_ (fun _ _ => id) fun _ => id)
  intro _ s more
  refine wp_bind.mpr (wp_modify.mpr (ih ?_ ?_ more))
  · have moves := transfers.moves round
    have some_ := List.length_pos_iff.mpr done
    rw [List.length_drop]
    omega
  · rw [List.append_assoc, List.take_append_drop, all]

theorem wp_readBlocks {blockSize limit : Nat} (block : 0 < blockSize) {s : S}
    (round_ : ∀ round, wp (step round) (fun _ s' => s' = s) X C s)
    {fuel round : Nat} {unread observed : List α} (enough : unread.length < fuel)
    (within : observed.length + unread.length ≤ limit) :
    wp (readBlocks step blockSize limit transfers fuel round unread observed)
      (fun r s' => r = ([], observed ++ unread) ∧ s' = s) X C s := by
  induction fuel generalizing round unread observed with
  | zero => exact absurd enough (Nat.not_lt_zero _)
  | succ fuel ih =>
  unfold readBlocks
  rw [if_neg (by omega)]
  refine wp_bind.mpr (wp_mono (round_ round) ?_ (fun _ _ => id) fun _ => id)
  rintro _ s' rfl
  generalize wanted_ : min (min blockSize (limit + 1 - observed.length))
    (transfers.amount round) = wanted
  have moves := transfers.moves round
  have some_ : 0 < wanted := by omega
  by_cases done : unread = []
  · rw [done, List.take_nil, if_pos rfl]
    exact ⟨by rw [List.append_nil], rfl⟩
  have more : unread.take wanted ≠ [] := by
    rw [Ne, List.take_eq_nil_iff]
    rintro (none_ | empty)
    · omega
    · exact done empty
  rw [if_neg more]
  have left := List.length_pos_iff.mpr done
  have rest := @ih (round + 1) (unread.drop wanted) (observed ++ unread.take wanted)
    (by rw [List.length_drop]; omega)
    (by rw [List.length_append, List.length_take, List.length_drop]; omega)
  rwa [List.append_assoc, List.take_append_drop] at rest

end

end Base.Effect
