import MasterAgent.Base.UnifiedDiff
import MasterAgent.Errors
import Mathlib.Tactic.SplitIfs

/-!
# Generated patches

`RepositoryDraftConnector.execute` for `repository.patch.generate`: the texts are split with
`str.splitlines`, and `difflib.unified_diff` writes what its opcodes say.

Results:

1. `partsOf_grouped`: what correct opcodes say about two texts;
2. `generated_patch_applies`: when the patch that is written applies.
-/

namespace MasterAgent.Drafts
open Base.UnifiedDiff

/-! ## Lines -/

/-- `value.replace("\r\n", "\n")` -/
def replaceCrLf : List Char → List Char
  | [] => []
  | c :: rest =>
      if c = '\r' ∧ rest.head? = some '\n' then replaceCrLf rest else c :: replaceCrLf rest

/-- `_normalize_patch_newlines` -/
def normalizePatchNewlines (value : List Char) : List Char :=
  (replaceCrLf value).map fun c => if c = '\r' then '\n' else c

/-- The characters that end a line for `str.splitlines`. -/
def isLineEnd (c : Char) : Bool :=
  let n := c.toNat
  10 ≤ n && n ≤ 13 || 28 ≤ n && n ≤ 30 || n == 0x85 || n == 0x2028 || n == 0x2029

/-- `text.splitlines(keepends=True)` -/
def splitlines : List Char → List Line
  | [] => []
  | c :: rest =>
      if isLineEnd c ∧ ¬(c = '\r' ∧ rest.head? = some '\n') then [c] :: splitlines rest
      else match splitlines rest with
        | [] => [[c]]
        | line :: lines => (c :: line) :: lines

theorem flatten_splitlines : ∀ text : List Char, (splitlines text).flatten = text
  | [] => rfl
  | c :: rest => by
      have ih := flatten_splitlines rest
      unfold splitlines
      split
      · rw [List.flatten_cons, ih]
        rfl
      · split
        · next none_ =>
            rw [none_] at ih
            rw [← ih]
            rfl
        · next line lines shape =>
            rw [shape] at ih
            rw [← ih]
            rfl

/-- A line feed is the last character of its line. -/
theorem feed_last : ∀ {text : List Char} {line : Line}, line ∈ splitlines text →
    '\n' ∉ line.dropLast
  | [], _, listed => nomatch listed
  | c :: rest, line, listed => by
      unfold splitlines at listed
      split at listed
      · rcases List.mem_cons.mp listed with rfl | later
        · exact List.not_mem_nil
        · exact feed_last later
      next more =>
      have other : c ≠ '\n' := by
        rintro rfl
        exact more ⟨by decide, fun both => absurd both.1 (by decide)⟩
      split at listed
      · rw [List.mem_singleton.mp listed]
        exact List.not_mem_nil
      · next first lines shape =>
        rcases List.mem_cons.mp listed with rfl | later
        · have before : '\n' ∉ first.dropLast := feed_last (shape ▸ List.mem_cons_self)
          cases first with
          | nil => exact List.not_mem_nil
          | cons d first =>
              rw [List.dropLast_cons_cons, List.mem_cons, not_or]
              exact ⟨Ne.symm other, before⟩
        · exact feed_last (shape ▸ List.mem_cons_of_mem _ later)

theorem ended_of_last {text : List Char} {line : Line} (listed : line ∈ splitlines text)
    (last : line.getLast? = some '\n') : Ended line := by
  refine ⟨line.dropLast, ?_, feed_last listed⟩
  rw [List.getLast?_eq_some_iff] at last
  obtain ⟨content, rfl⟩ := last
  rw [List.dropLast_concat]

/-! ## Opcodes -/

inductive Tag where
  | equal | replace | delete | insert
deriving DecidableEq

/-- `(tag, i1, i2, j1, j2)` -/
structure Opcode where
  tag : Tag
  i1 : Nat
  i2 : Nat
  j1 : Nat
  j2 : Nat

/-- `lines[start:stop]` -/
def slice (lines : List Line) (start stop : Nat) : List Line := (lines.drop start).take (stop - start)

/-- The opcode is right about the two lists of lines. -/
structure Opcode.Right (a b : List Line) (op : Opcode) : Prop where
  order : op.i1 ≤ op.i2 ∧ op.j1 ≤ op.j2
  within : op.i2 ≤ a.length ∧ op.j2 ≤ b.length
  equal : op.tag = .equal → slice a op.i1 op.i2 = slice b op.j1 op.j2
  delete : op.tag = .delete → op.j1 = op.j2
  insert : op.tag = .insert → op.i1 = op.i2

/-- The opcodes lead from one pair of indices to another. -/
inductive Steps (a b : List Line) : Nat → Nat → List Opcode → Nat → Nat → Prop
  | nil {i j : Nat} : Steps a b i j [] i j
  | cons {op : Opcode} {ops : List Opcode} {i j : Nat} : op.Right a b →
      Steps a b op.i2 op.j2 ops i j → Steps a b op.i1 op.j1 (op :: ops) i j

/-- The groups lead from a pair of indices to the ends; what lies between them is equal. -/
inductive Grouped (a b : List Line) : Nat → Nat → List (List Opcode) → Prop
  | nil {i j : Nat} : a.drop i = b.drop j → Grouped a b i j []
  | cons {i j k i' j' : Nat} {group : List Opcode} {groups : List (List Opcode)} :
      i + k ≤ a.length → slice a i (i + k) = slice b j (j + k) → group ≠ [] →
      Steps a b (i + k) (j + k) group i' j' → Grouped a b i' j' groups →
      Grouped a b i j (group :: groups)

/-- A `SequenceMatcher` whose grouped opcodes are correct. -/
structure Matcher where
  groups : List Line → List Line → List (List Opcode)
  correct : ∀ a b, Grouped a b 0 0 (groups a b)

/-! ## Writing the patch -/

/-- `_format_range_unified` -/
def formatRangeUnified (start stop : Nat) : List Char :=
  let length := stop - start
  if length = 1 then Nat.toDigits 10 (start + 1)
  else Nat.toDigits 10 (if length = 0 then start else start + 1) ++ ',' :: Nat.toDigits 10 length

/-- The lines of an opcode. -/
def opcodeLines (a b : List Line) (op : Opcode) : List Line :=
  match op.tag with
  | .equal => (slice a op.i1 op.i2).map (' ' :: ·)
  | .replace =>
      (slice a op.i1 op.i2).map ('-' :: ·) ++ (slice b op.j1 op.j2).map ('+' :: ·)
  | .delete => (slice a op.i1 op.i2).map ('-' :: ·)
  | .insert => (slice b op.j1 op.j2).map ('+' :: ·)

/-- The lines of a group, with its header. -/
def groupLines (a b : List Line) (group : List Opcode) : List Line :=
  match group, group.getLast? with
  | first :: _, some last =>
      ('@' :: '@' :: ' ' :: '-' :: (formatRangeUnified first.i1 last.i2 ++
        ' ' :: '+' :: (formatRangeUnified first.j1 last.j2 ++ [' ', '@', '@', '\n']))) ::
          group.flatMap (opcodeLines a b)
  | _, _ => []

/-- `difflib.unified_diff` -/
def unifiedDiff (matcher : Matcher) (a b : List Line) (fromfile tofile : List Char) : List Line :=
  match matcher.groups a b with
  | [] => []
  | groups => ('-' :: '-' :: '-' :: ' ' :: (fromfile ++ ['\n'])) ::
      ('+' :: '+' :: '+' :: ' ' :: (tofile ++ ['\n'])) :: groups.flatMap (groupLines a b)

/-- `execute` of a patch, up to the text that it writes. -/
def generatePatch (matcher : Matcher) (relativePath beforeText afterText : List Char) :
    Except Exn (List Char) :=
  let before := normalizePatchNewlines beforeText
  let after := normalizePatchNewlines afterText
  let diff := (unifiedDiff matcher (splitlines before) (splitlines after)
    ('a' :: '/' :: relativePath) ('b' :: '/' :: relativePath)).flatten
  if diff = [] then .error (connectorError "patch generation produced no changes") else .ok diff

/-! ## What opcodes say -/

section
variable {a b : List Line} {i j : Nat}

/-- The edits of an opcode. -/
def opcodeEdits (a b : List Line) (op : Opcode) : List Edit :=
  match op.tag with
  | .equal => (slice a op.i1 op.i2).map (⟨.keep, ·⟩)
  | .replace => (slice a op.i1 op.i2).map (⟨.remove, ·⟩) ++ (slice b op.j1 op.j2).map (⟨.add, ·⟩)
  | .delete => (slice a op.i1 op.i2).map (⟨.remove, ·⟩)
  | .insert => (slice b op.j1 op.j2).map (⟨.add, ·⟩)

theorem opcodeLines_eq (op : Opcode) :
    opcodeLines a b op = (opcodeEdits a b op).map Edit.render := by
  unfold opcodeLines opcodeEdits
  split <;> simp [Edit.render, Kind.sign, Function.comp_def]

theorem slice_self {lines : List Line} : slice lines i i = [] := by
  rw [slice, Nat.sub_self, List.take_zero]

theorem slice_append {lines : List Line} {k m : Nat} (first : i ≤ k) (second : k ≤ m) :
    slice lines i k ++ slice lines k m = slice lines i m := by
  have sum : m - i = (k - i) + (m - k) := by omega
  have shift : lines.drop k = (lines.drop i).drop (k - i) := by
    rw [List.drop_drop]
    congr 1
    omega
  rw [slice, slice, slice, sum, List.take_add, shift]

theorem length_slice {lines : List Line} {k : Nat} (within : k ≤ lines.length) :
    (slice lines i k).length = k - i := by
  rw [slice, List.length_take, List.length_drop]
  omega

theorem lines_append (xs ys : List Edit) : takenLines (xs ++ ys) = takenLines xs ++ takenLines ys ∧
    madeLines (xs ++ ys) = madeLines xs ++ madeLines ys := by
  simp [takenLines, madeLines]

/-- The edits of a correct opcode take its lines of the first text and make those of the second. -/
theorem lines_opcodeEdits {op : Opcode} (right : op.Right a b) :
    takenLines (opcodeEdits a b op) = slice a op.i1 op.i2 ∧
      madeLines (opcodeEdits a b op) = slice b op.j1 op.j2 := by
  have pick (kind : Kind) (lines : List Line) :
      takenLines (lines.map (⟨kind, ·⟩)) = (if kind = .add then [] else lines) ∧
        madeLines (lines.map (⟨kind, ·⟩)) = (if kind = .remove then [] else lines) := by
    unfold takenLines madeLines
    rw [List.filter_map, List.filter_map]
    cases kind <;> simp [Function.comp_def]
  unfold opcodeEdits
  cases tag : op.tag with
  | equal =>
      refine ⟨(pick .keep _).1, (pick .keep _).2.trans (right.equal tag)⟩
  | replace =>
      dsimp only
      rw [(lines_append _ _).1, (lines_append _ _).2, (pick .remove _).1, (pick .add _).1,
        (pick .remove _).2, (pick .add _).2]
      exact ⟨List.append_nil _, rfl⟩
  | delete =>
      refine ⟨(pick .remove _).1, (pick .remove _).2.trans ?_⟩
      rw [right.delete tag, slice_self]
      rfl
  | insert =>
      refine ⟨(pick .add _).1.trans ?_, (pick .add _).2⟩
      rw [right.insert tag, slice_self]
      rfl

theorem Steps.lines {ops : List Opcode} {i' j' : Nat} (h : Steps a b i j ops i' j') :
    (i ≤ i' ∧ j ≤ j') ∧ takenLines (ops.flatMap (opcodeEdits a b)) = slice a i i' ∧
      madeLines (ops.flatMap (opcodeEdits a b)) = slice b j j' := by
  induction h with
  | nil => exact ⟨⟨Nat.le_refl _, Nat.le_refl _⟩, slice_self.symm, slice_self.symm⟩
  | cons right steps ih =>
      obtain ⟨order, taken_, made_⟩ := ih
      obtain ⟨takes, makes⟩ := lines_opcodeEdits right
      refine ⟨⟨Nat.le_trans right.order.1 order.1, Nat.le_trans right.order.2 order.2⟩, ?_, ?_⟩
      · rw [List.flatMap_cons, (lines_append _ _).1, takes, taken_,
          slice_append right.order.1 order.1]
      · rw [List.flatMap_cons, (lines_append _ _).2, makes, made_,
          slice_append right.order.2 order.2]

theorem Steps.of_nil {i' j' : Nat} (h : Steps a b i j [] i' j') : i' = i ∧ j' = j := by
  cases h
  exact ⟨rfl, rfl⟩

theorem Steps.within {ops : List Opcode} {i' j' : Nat} (h : Steps a b i j ops i' j')
    (nonempty : ops ≠ []) : (i' ≤ a.length ∧ j' ≤ b.length) ∧
      (∃ first rest, ops = first :: rest ∧ first.i1 = i ∧ first.j1 = j) ∧
      ∃ last, ops.getLast? = some last ∧ last.i2 = i' ∧ last.j2 = j' := by
  induction h with
  | nil => exact absurd rfl nonempty
  | @cons op ops i' j' right steps ih =>
      cases ops with
      | nil =>
          obtain ⟨rfl, rfl⟩ := steps.of_nil
          exact ⟨right.within, ⟨op, [], rfl, rfl, rfl⟩, op, rfl, rfl, rfl⟩
      | cons other ops =>
          obtain ⟨bounds, -, last, found, ends⟩ := ih (List.cons_ne_nil _ _)
          refine ⟨bounds, ⟨op, other :: ops, rfl, rfl, rfl⟩, last, ?_, ends⟩
          rw [List.getLast?_cons_cons]
          exact found

theorem formatRangeUnified_eq (start stop : Nat) : formatRangeUnified start stop =
    renderRange (firstLine start (stop - start)) (stop - start) := by
  unfold formatRangeUnified renderRange firstLine
  by_cases one : stop - start = 1
  · rw [one]
    rfl
  · dsimp only
    rw [if_neg one, if_neg one]

/-- A group is written as a hunk. -/
theorem groupLines_eq {group : List Opcode} {i' j' : Nat} (h : Steps a b i j group i' j')
    (nonempty : group ≠ []) :
    groupLines a b group = (hunkAt i j (group.flatMap (opcodeEdits a b))).render := by
  obtain ⟨⟨within, within'⟩, ⟨first, rest, shape, start, start'⟩, last, found, stop, stop'⟩ :=
    h.within nonempty
  obtain ⟨⟨order, order'⟩, takes, makes⟩ := h.lines
  have before : taken (group.flatMap (opcodeEdits a b)) = i' - i := by
    rw [← length_takenLines, takes, length_slice within]
  have after : made (group.flatMap (opcodeEdits a b)) = j' - j := by
    rw [← length_madeLines, makes, length_slice within']
  have body : group.flatMap (opcodeLines a b) =
      (group.flatMap (opcodeEdits a b)).map Edit.render := by
    rw [List.map_flatMap]
    exact congrArg (fun f => group.flatMap f) (funext opcodeLines_eq)
  unfold groupLines
  rw [found, shape]
  dsimp only
  rw [← shape, body, start, start', stop, stop', formatRangeUnified_eq, formatRangeUnified_eq]
  unfold Hunk.render Hunk.header hunkAt
  dsimp only
  rw [before, after]

/-- The indices where the last group ends. -/
def endOf : List (List Opcode) → Nat × Nat → Nat × Nat
  | [], reached => reached
  | group :: groups, reached => endOf groups (match group.getLast? with
      | some last => (last.i2, last.j2)
      | none => reached)

/-- Correct groups write the hunks of parts that lead to the end of the last group. -/
theorem partsOf_grouped {groups : List (List Opcode)} (h : Grouped a b i j groups) :
    ∃ parts, groups.flatMap (groupLines a b) = (hunksOf i j parts).flatMap Hunk.render ∧
      (i ≤ (endOf groups (i, j)).1 ∧ j ≤ (endOf groups (i, j)).2) ∧
      beforeLines parts = slice a i (endOf groups (i, j)).1 ∧
      afterLines parts = slice b j (endOf groups (i, j)).2 ∧
      a.drop (endOf groups (i, j)).1 = b.drop (endOf groups (i, j)).2 := by
  induction h with
  | nil same => exact ⟨[], rfl, ⟨Nat.le_refl _, Nat.le_refl _⟩, slice_self.symm, slice_self.symm, same⟩
  | @cons i j k i' j' group groups within same nonempty steps grouped ih =>
      obtain ⟨parts, lines, ⟨order, order'⟩, before, after, rest⟩ := ih
      obtain ⟨-, -, last, found, stop, stop'⟩ := steps.within nonempty
      obtain ⟨⟨least, least'⟩, takes, makes⟩ := steps.lines
      have ends : endOf (group :: groups) (i, j) = endOf groups (i', j') := by
        rw [endOf, found, ← stop, ← stop']
      have length : (slice a i (i + k)).length = k := by
        rw [length_slice within, Nat.add_sub_cancel_left]
      have here : i + k + taken (group.flatMap (opcodeEdits a b)) = i' := by
        rw [← length_takenLines, takes, length_slice (steps.within nonempty).1.1]
        omega
      have there : j + k + made (group.flatMap (opcodeEdits a b)) = j' := by
        rw [← length_madeLines, makes, length_slice (steps.within nonempty).1.2]
        omega
      refine ⟨⟨slice a i (i + k), group.flatMap (opcodeEdits a b)⟩ :: parts, ?_, ?_⟩
      · rw [List.flatMap_cons, lines, groupLines_eq steps nonempty, hunksOf, List.flatMap_cons]
        dsimp only
        rw [length, here, there]
      · rw [ends]
        refine ⟨⟨by omega, by omega⟩, ?_, ?_, rest⟩
        · show (slice a i (i + k) ++ takenLines _) ++ beforeLines parts = _
          rw [takes, before, slice_append (Nat.le_add_right _ _) least,
            slice_append (by omega) order]
        · show (slice a i (i + k) ++ madeLines _) ++ afterLines parts = _
          rw [makes, after, same, slice_append (Nat.le_add_right _ _) least',
            slice_append (by omega) order']

end

/-! ## Patches that apply -/

/-- No line feed in the path, and every line up to the end of the last hunk ends in one. -/
def PatchReadable (matcher : Matcher) (relativePath before after : List Char) : Prop :=
  let a := splitlines (normalizePatchNewlines before)
  let b := splitlines (normalizePatchNewlines after)
  let last := endOf (matcher.groups a b) (0, 0)
  '\n' ∉ relativePath ∧ (∀ line ∈ a.take last.1, line.getLast? = some '\n') ∧
    ∀ line ∈ b.take last.2, line.getLast? = some '\n'

theorem unifiedDiff_nil {matcher : Matcher} {a b : List Line} {fromfile tofile : List Char}
    (empty : (unifiedDiff matcher a b fromfile tofile).flatten = []) : a = b := by
  have correct := matcher.correct a b
  unfold unifiedDiff at empty
  split at empty
  · next none_ =>
      rw [none_] at correct
      cases correct with
      | nil same => exact same
  · cases empty

theorem applyPatch_unifiedDiff {matcher : Matcher} {relativePath before after : List Char}
    (written : matcher.groups (splitlines before) (splitlines after) ≠ [])
    (path : '\n' ∉ relativePath)
    (ended : ∀ line ∈ (splitlines before).take
      (endOf (matcher.groups (splitlines before) (splitlines after)) (0, 0)).1,
        line.getLast? = some '\n')
    (ended' : ∀ line ∈ (splitlines after).take
      (endOf (matcher.groups (splitlines before) (splitlines after)) (0, 0)).2,
        line.getLast? = some '\n') :
    applyPatch (unifiedDiff matcher (splitlines before) (splitlines after)
      ('a' :: '/' :: relativePath) ('b' :: '/' :: relativePath)).flatten before = some after := by
  obtain ⟨parts, lines, -, taken_, made_, rest⟩ :=
    partsOf_grouped (matcher.correct (splitlines before) (splitlines after))
  generalize endOf (matcher.groups (splitlines before) (splitlines after)) (0, 0) = last at *
  have first {lines : List Line} {n : Nat} : slice lines 0 n = lines.take n := by
    rw [slice, List.drop_zero, Nat.sub_zero]
  rw [first] at taken_ made_
  have whole (text : List Char) (n : Nat) :
      ((splitlines text).take n).flatten ++ ((splitlines text).drop n).flatten = text := by
    rw [← List.flatten_append, List.take_append_drop, flatten_splitlines]
  have header (sign side : Char) (other : sign ≠ '\n') (side_ : side ≠ '\n') :
      Ended (sign :: sign :: sign :: ' ' :: (side :: '/' :: relativePath ++ ['\n'])) := by
    refine ⟨sign :: sign :: sign :: ' ' :: side :: '/' :: relativePath, rfl, ?_⟩
    simp [path, other.symm, side_.symm]
  have applied := @applyPatch_render _ _ parts (header '-' 'a' (by decide) (by decide))
    (header '+' 'b' (by decide) (by decide))
    (fun line listed => ended_of_last (List.mem_of_mem_take (taken_ ▸ listed))
      (ended line (taken_ ▸ listed)))
    (fun line listed => ended_of_last (List.mem_of_mem_take (made_ ▸ listed))
      (ended' line (made_ ▸ listed)))
    ((splitlines before).drop last.1).flatten
  rw [taken_, made_, whole before last.1, rest, whole after last.2, ← lines] at applied
  rw [← applied]
  unfold unifiedDiff
  split
  · next none_ => exact absurd none_ written
  · simp

namespace Samples

/-- The opcode that replaces everything. -/
def wholeOpcode (a b : List Line) : Opcode :=
  ⟨if a = [] then .insert else if b = [] then .delete else .replace, 0, a.length, 0, b.length⟩

theorem wholeOpcode_right (a b : List Line) : (wholeOpcode a b).Right a b := by
  unfold wholeOpcode
  refine ⟨⟨Nat.zero_le _, Nat.zero_le _⟩, ⟨Nat.le_refl _, Nat.le_refl _⟩, ?_, ?_, ?_⟩
  · dsimp only
    split_ifs <;> nofun
  · dsimp only
    split_ifs with none_ none_'
    · nofun
    · intro _
      rw [none_', List.length_nil]
    · nofun
  · dsimp only
    split_ifs with none_
    · intro _
      rw [none_, List.length_nil]
    · nofun
    · nofun

def wholeMatcher : Matcher where
  groups a b := if a = b then [] else [[wholeOpcode a b]]
  correct a b := by
    split
    · next same => exact .nil (by rw [same])
    · have steps : Steps a b 0 0 [wholeOpcode a b] a.length b.length :=
        .cons (wholeOpcode_right a b) .nil
      refine .cons (k := 0) (Nat.zero_le _) rfl (List.cons_ne_nil _ _) steps (.nil ?_)
      rw [List.drop_length, List.drop_length]

end Samples

end MasterAgent.Drafts
