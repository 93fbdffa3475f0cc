import Mathlib.Data.List.Infix
import Mathlib.Data.Nat.Find

/-!
# Searching an expanded text

A text is expanded by replacing each of its characters by one or more others, as case folding does.
A pattern is found at an offset of the expanded text, and that offset is not a position of the text
itself.

Results:

1. `find_iff`, `find_eq_none_iff`: the least offset of a pattern;
2. `exists_stretch`: an occurrence in the expanded text stands on a stretch of the text;
3. `Stretch.start_le_offset`: in the text a stretch begins no later than in the expanded text;
4. `stretch_within_iff`: the stretches of a part of the text are the stretches that lie in it.
-/

namespace Base.Expansion

section
variable {α : Type} [DecidableEq α] {pattern text : List α} {offset : Nat}

/-- `text.find(pattern)`, `none` where it is -1. -/
def find (pattern text : List α) : Option Nat :=
  (List.range (text.length + 1)).find? fun offset => pattern.isPrefixOf (text.drop offset)

theorem find_iff : find pattern text = some offset ↔
    pattern <+: text.drop offset ∧ offset ≤ text.length ∧
      ∀ earlier < offset, ¬ pattern <+: text.drop earlier := by
  rw [find, List.find?_range_eq_some]
  simp only [List.isPrefixOf_iff_prefix, List.mem_range, Nat.lt_succ_iff, Bool.not_eq_true',
    Bool.eq_false_iff, ne_eq]

omit [DecidableEq α] in
theorem prefix_drop_iff_infix : (∃ offset ≤ text.length, pattern <+: text.drop offset) ↔
    pattern <:+: text := by
  constructor
  · rintro ⟨offset, -, here⟩
    exact here.isInfix.trans (List.drop_suffix offset text).isInfix
  · rintro ⟨front, back, rfl⟩
    refine ⟨front.length, by simp, back, ?_⟩
    rw [List.append_assoc, List.drop_left]

theorem find_eq_none_iff : find pattern text = none ↔ ¬ pattern <:+: text := by
  rw [← prefix_drop_iff_infix, find, List.find?_eq_none]
  simp only [List.mem_range, Nat.lt_succ_iff, List.isPrefixOf_iff_prefix, not_exists, not_and]

theorem find_isSome_iff : (find pattern text).isSome ↔ pattern <:+: text := by
  rw [Option.isSome_iff_ne_none, ne_eq, find_eq_none_iff, not_not]

end

/-! ## The two coordinates -/

section
variable {α : Type} {expand : α → List α} {pattern text : List α} {offset position : Nat}

/-- Where the character at `position` begins in the expanded text. -/
def place (expand : α → List α) (text : List α) (position : Nat) : Nat :=
  ((text.take position).flatMap expand).length

theorem place_zero : place expand text 0 = 0 := rfl

theorem place_mono {position later : Nat} (le : position ≤ later) :
    place expand text position ≤ place expand text later := by
  obtain ⟨rest, split⟩ := List.take_prefix_take_left (l := text) le
  rw [place, place, ← split, List.flatMap_append, List.length_append]
  exact Nat.le_add_right _ _

theorem place_of_length_le (le : text.length ≤ position) :
    place expand text position = (text.flatMap expand).length := by
  rw [place, List.take_of_length_le le]

theorem place_succ (inside : position < text.length) :
    place expand text (position + 1) = place expand text position + (expand text[position]).length := by
  rw [place, List.take_succ_eq_append_getElem inside, List.flatMap_append, List.length_append,
    List.flatMap_singleton, place]

theorem place_le (position : Nat) : place expand text position ≤ (text.flatMap expand).length := by
  rw [← place_of_length_le (le_max_left text.length position)]
  exact place_mono (le_max_right _ _)

/-- The least end of a front of the text whose expansion reaches beyond an offset. -/
theorem exists_carrier (inside : offset < (text.flatMap expand).length) :
    ∃ position < text.length,
      place expand text position ≤ offset ∧ offset < place expand text (position + 1) := by
  have reached : ∃ stop, offset < place expand text stop :=
    ⟨text.length, by rwa [place_of_length_le le_rfl]⟩
  have here := Nat.find_spec reached
  obtain ⟨position, last⟩ : ∃ position, Nat.find reached = position + 1 :=
    Nat.exists_eq_succ_of_ne_zero fun zero => by
      rw [zero, place_zero] at here
      exact Nat.not_lt_zero _ here
  have before : place expand text position ≤ offset :=
    Nat.not_lt.mp (Nat.find_min reached (last ▸ Nat.lt_succ_self position))
  refine ⟨position, Nat.lt_of_not_le fun beyond => ?_, before, last ▸ here⟩
  rw [place_of_length_le beyond] at before
  exact absurd inside before.not_gt

/-- The occurrence of `pattern` at `offset` of the expanded text stands on the characters of the text
from `start` to `stop`, none of which can be spared. -/
structure Stretch (expand : α → List α) (pattern text : List α) (offset start stop : Nat) :
    Prop where
  here : pattern <+: (text.flatMap expand).drop offset
  first : place expand text start ≤ offset
  carried : offset < place expand text (start + 1)
  last : place expand text (stop - 1) < offset + pattern.length
  covered : offset + pattern.length ≤ place expand text stop
  inside : stop ≤ text.length

variable {start stop : Nat}

theorem exists_stretch (nonempty : pattern ≠ [])
    (here : pattern <+: (text.flatMap expand).drop offset) :
    ∃ start stop, Stretch expand pattern text offset start stop := by
  have positive : 0 < pattern.length := List.length_pos_iff.mpr nonempty
  have fits : offset + pattern.length ≤ (text.flatMap expand).length := by
    have short := here.length_le
    rw [List.length_drop] at short
    omega
  obtain ⟨start, -, first, carried⟩ :=
    exists_carrier (Nat.lt_of_lt_of_le (Nat.lt_add_of_pos_right positive) fits)
  -- The last character of the occurrence is carried by the character before `stop`.
  obtain ⟨final, inside, last, covered⟩ :=
    @exists_carrier _ expand text (offset + pattern.length - 1) (by omega)
  exact ⟨start, final + 1, here, first, carried, by rw [Nat.add_sub_cancel]; omega, by omega, inside⟩

theorem Stretch.start_lt_stop (s : Stretch expand pattern text offset start stop)
    (nonempty : pattern ≠ []) : start < stop := by
  have positive : 0 < pattern.length := List.length_pos_iff.mpr nonempty
  by_contra late
  have covered := s.covered.trans ((place_mono (Nat.not_lt.mp late)).trans s.first)
  omega

theorem le_place (expands : ∀ c, expand c ≠ []) : ∀ {position : Nat}, position ≤ text.length →
    position ≤ place expand text position
  | 0, _ => Nat.zero_le _
  | position + 1, inside => by
    rw [place_succ inside]
    exact Nat.add_le_add (le_place expands (Nat.le_of_succ_le inside))
      (List.length_pos_iff.mpr (expands _))

theorem Stretch.start_le_offset (s : Stretch expand pattern text offset start stop)
    (expands : ∀ c, expand c ≠ []) (nonempty : pattern ≠ []) : start ≤ offset :=
  (le_place expands ((s.start_lt_stop nonempty).le.trans s.inside)).trans s.first

/-! ## Parts of a text -/

variable {front middle back : List α}

theorem place_within (inside : position ≤ middle.length) :
    place expand (front ++ middle ++ back) (front.length + position) =
      (front.flatMap expand).length + place expand middle position := by
  rw [place, place, List.append_assoc, List.take_length_add_append, List.take_append_of_le_length inside,
    List.flatMap_append, List.length_append]

theorem drop_within (short : offset ≤ (middle.flatMap expand).length) :
    ((front ++ middle ++ back).flatMap expand).drop ((front.flatMap expand).length + offset) =
      (middle.flatMap expand).drop offset ++ back.flatMap expand := by
  rw [List.append_assoc, List.flatMap_append, List.flatMap_append, List.drop_length_add_append,
    List.drop_append_of_le_length short]

theorem stretch_within_iff (nonempty : pattern ≠ []) :
    Stretch expand pattern middle offset start stop ↔
      Stretch expand pattern (front ++ middle ++ back) ((front.flatMap expand).length + offset)
        (front.length + start) (front.length + stop) ∧ stop ≤ middle.length := by
  have ends (lt : start < stop) : front.length + stop - 1 = front.length + (stop - 1) := by omega
  constructor
  · intro s
    have lt := s.start_lt_stop nonempty
    have inside := s.inside
    have short : offset ≤ (middle.flatMap expand).length :=
      (Nat.le_add_right _ _).trans (s.covered.trans (place_le stop))
    refine ⟨⟨?_, ?_, ?_, ?_, ?_, ?_⟩, inside⟩
    · rw [drop_within short]
      exact s.here.trans (List.prefix_append _ _)
    · rw [place_within (lt.le.trans inside)]
      exact Nat.add_le_add_left s.first _
    · rw [Nat.add_assoc, place_within (Nat.le_trans lt inside)]
      exact Nat.add_lt_add_left s.carried _
    · rw [ends lt, place_within ((Nat.sub_le _ _).trans inside), Nat.add_assoc]
      exact Nat.add_lt_add_left s.last _
    · rw [place_within inside, Nat.add_assoc]
      exact Nat.add_le_add_left s.covered _
    · rw [List.append_assoc, List.length_append, List.length_append]
      exact Nat.add_le_add_left (inside.trans (Nat.le_add_right _ _)) _
  · rintro ⟨s, inside⟩
    have lt : start < stop := Nat.lt_of_add_lt_add_left (s.start_lt_stop nonempty)
    have first := s.first
    have carried := s.carried
    have last := s.last
    have covered := s.covered
    rw [place_within (lt.le.trans inside)] at first
    rw [Nat.add_assoc, place_within (Nat.le_trans lt inside)] at carried
    rw [ends lt, place_within ((Nat.sub_le _ _).trans inside), Nat.add_assoc] at last
    rw [place_within inside, Nat.add_assoc] at covered
    have fits := (Nat.le_of_add_le_add_left covered).trans (place_le stop)
    refine ⟨?_, Nat.le_of_add_le_add_left first, Nat.lt_of_add_lt_add_left carried,
      Nat.lt_of_add_lt_add_left last, Nat.le_of_add_le_add_left covered, inside⟩
    have here := s.here
    rw [drop_within ((Nat.le_add_right _ _).trans fits)] at here
    refine List.prefix_of_prefix_length_le here (List.prefix_append _ _) ?_
    rw [List.length_drop]
    exact Nat.le_sub_of_add_le' fits

/-- A stretch that lies in a part of the text is one of that part. -/
theorem Stretch.within (s : Stretch expand pattern (front ++ middle ++ back) offset start stop)
    (nonempty : pattern ≠ []) (after : front.length ≤ start)
    (before : stop ≤ front.length + middle.length) :
    ∃ offset', Stretch expand pattern middle offset' (start - front.length) (stop - front.length) := by
  have begun : (front.flatMap expand).length ≤ offset := by
    refine le_trans ?_ ((place_mono after).trans s.first)
    rw [← Nat.add_zero front.length, place_within (Nat.zero_le _)]
    exact Nat.le_add_right _ _
  refine ⟨offset - (front.flatMap expand).length,
    (@stretch_within_iff _ _ _ _ _ _ front _ back nonempty).mpr ⟨?_, Nat.sub_le_iff_le_add'.mpr before⟩⟩
  rwa [Nat.add_sub_cancel' begun, Nat.add_sub_cancel' after,
    Nat.add_sub_cancel' (after.trans (s.start_lt_stop nonempty).le)]

/-- Where the expansion adds nothing, the two coordinates are the same. -/
theorem place_of_single (single : ∀ c ∈ text, (expand c).length = 1) : ∀ {position : Nat},
    position ≤ text.length → place expand text position = position
  | 0, _ => rfl
  | position + 1, inside => by
    rw [place_succ inside, place_of_single single (Nat.le_of_succ_le inside),
      single _ (List.getElem_mem _)]

end

end Base.Expansion
