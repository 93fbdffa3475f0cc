import Mathlib.Algebra.Ring.Nat
import Mathlib.Data.List.Basic
import Mathlib.Data.List.Infix

/-!
# Unified diffs

A patch as its text: two header lines and hunks, whose lines end at a line feed. A line of a text
that has none is marked by a line of the patch that begins with a backslash.

Results:

1. `readPatch_render`: a patch of lines that end in their only line feed is read as it was meant;
2. `applyPatch_render`: a patch that follows two texts turns the one into the other.
-/

namespace Base.UnifiedDiff

/-- A line with its line feed, which only the last line of a text may lack. -/
abbrev Line := List Char

/-! ## Lines -/

/-- The lines of a text. -/
def textLines : List Char → List Line
  | [] => []
  | c :: rest =>
      if c = '\n' then ['\n'] :: textLines rest
      else match textLines rest with
        | [] => [[c]]
        | line :: lines => (c :: line) :: lines

/-- The line ends in its only line feed. -/
def Ended (line : Line) : Prop := ∃ content, line = content ++ ['\n'] ∧ '\n' ∉ content

theorem flatten_textLines : ∀ text : List Char, (textLines text).flatten = text
  | [] => rfl
  | c :: rest => by
      have ih := flatten_textLines rest
      unfold textLines
      split
      · next feed => rw [List.flatten_cons, ih, feed]; rfl
      · split
        · next none_ =>
            rw [none_] at ih
            rw [← ih]
            rfl
        · next line lines shape =>
            rw [shape] at ih
            rw [← ih]
            rfl

theorem textLines_append {line : Line} (ended : Ended line) (rest : List Char) :
    textLines (line ++ rest) = line :: textLines rest := by
  obtain ⟨content, rfl, free⟩ := ended
  induction content with
  | nil => rfl
  | cons c content ih =>
      rw [List.mem_cons, not_or] at free
      have tail := ih free.2
      show textLines (c :: (content ++ ['\n'] ++ rest)) = _
      rw [textLines, if_neg (Ne.symm free.1), tail]
      rfl

theorem textLines_flatten {lines : List Line} (ended : ∀ line ∈ lines, Ended line)
    (rest : List Char) : textLines (lines.flatten ++ rest) = lines ++ textLines rest := by
  induction lines with
  | nil => rfl
  | cons line lines ih =>
      rw [List.flatten_cons, List.append_assoc, textLines_append (ended line List.mem_cons_self),
        ih fun other listed => ended other (List.mem_cons_of_mem _ listed)]
      rfl

/-! ## Edits -/

inductive Kind where
  | keep | remove | add
deriving DecidableEq

def Kind.sign : Kind → Char
  | .keep => ' '
  | .remove => '-'
  | .add => '+'

/-- A line of a hunk with the line of the text that it stands for. -/
structure Edit where
  kind : Kind
  line : Line
deriving DecidableEq

/-- How many lines the edit takes of the text before, and how many it makes of the text after. -/
def Kind.taken : Kind → Nat
  | .add => 0
  | _ => 1

def Kind.made : Kind → Nat
  | .remove => 0
  | _ => 1

/-- A hunk, with the first lines that its header names and its two lengths. -/
structure Hunk where
  beforeStart : Nat
  beforeLength : Nat
  afterStart : Nat
  afterLength : Nat
  edits : List Edit
deriving DecidableEq

/-! ## Writing -/

def renderRange (start length : Nat) : List Char :=
  if length = 1 then Nat.toDigits 10 start
  else Nat.toDigits 10 start ++ ',' :: Nat.toDigits 10 length

def Hunk.header (h : Hunk) : Line :=
  '@' :: '@' :: ' ' :: '-' :: (renderRange h.beforeStart h.beforeLength ++
    ' ' :: '+' :: (renderRange h.afterStart h.afterLength ++ [' ', '@', '@', '\n']))

def Edit.render (e : Edit) : Line := e.kind.sign :: e.line

def Hunk.render (h : Hunk) : List Line := h.header :: h.edits.map Edit.render

/-! ## Reading -/

/-- A number, and what follows it. -/
def readNumber (cs : List Char) : Option (Nat × List Char) :=
  let digits := cs.takeWhile Char.isDigit
  if digits = [] then none else some (Nat.ofDigitChars 10 digits 0, cs.dropWhile Char.isDigit)

/-- `start` or `start,length`, and what follows. -/
def readRange (cs : List Char) : Option ((Nat × Nat) × List Char) := do
  let (start, rest) ← readNumber cs
  match rest with
  | ',' :: rest => do
      let (length, rest) ← readNumber rest
      some ((start, length), rest)
  | rest => some ((start, 1), rest)

/-- The header of a hunk. -/
def readHeader : Line → Option ((Nat × Nat) × Nat × Nat)
  | '@' :: '@' :: ' ' :: '-' :: rest => do
      let (before, rest) ← readRange rest
      match rest with
      | ' ' :: '+' :: rest => do
          let (after, rest) ← readRange rest
          if rest = [' ', '@', '@', '\n'] then some (before, after) else none
      | _ => none
  | _ => none

def readKind : Char → Option Kind
  | ' ' => some .keep
  | '-' => some .remove
  | '+' => some .add
  | _ => none

/-- The next line is the mark of a line without line feed. -/
def marked : List Line → Bool
  | ('\\' :: _) :: _ => true
  | _ => false

/-- The edit of one line of a hunk, with what follows the line. -/
def readEdit (line : Line) (lines : List Line) : Option (Edit × List Line) := do
  let kind ← line.head?.bind readKind
  if line.getLast? ≠ some '\n' then none
  else if marked lines then some (⟨kind, line.tail.dropLast⟩, lines.tail)
  else some (⟨kind, line.tail⟩, lines)

/-- The edits of a hunk, until its two lengths are used up, and the lines that follow. -/
def readEdits : (fuel taken made : Nat) → List Line → Option (List Edit × List Line)
  | 0, taken, made, lines => if taken = 0 ∧ made = 0 then some ([], lines) else none
  | fuel + 1, taken, made, lines =>
      if taken = 0 ∧ made = 0 then some ([], lines)
      else match lines with
        | [] => none
        | line :: lines => do
            let (edit, lines) ← readEdit line lines
            if taken < edit.kind.taken ∨ made < edit.kind.made then none
            else do
              let (edits, rest) ←
                readEdits fuel (taken - edit.kind.taken) (made - edit.kind.made) lines
              some (edit :: edits, rest)

/-- The hunks of a patch, one after the other. -/
def readHunks : (fuel : Nat) → List Line → Option (List Hunk)
  | _, [] => some []
  | 0, _ => none
  | fuel + 1, header :: lines => do
      let ((beforeStart, beforeLength), afterStart, afterLength) ← readHeader header
      let (edits, rest) ← readEdits lines.length beforeLength afterLength lines
      let hunks ← readHunks fuel rest
      some (⟨beforeStart, beforeLength, afterStart, afterLength, edits⟩ :: hunks)

/-- A patch of one file. -/
def readPatch (patch : List Char) : Option (List Hunk) :=
  match textLines patch with
  | ('-' :: '-' :: '-' :: ' ' :: _) :: ('+' :: '+' :: '+' :: ' ' :: _) :: lines =>
      readHunks lines.length lines
  | _ => none

/-! ## Applying -/

/-- The lines that the edits make, and the lines of the text before that they leave. -/
def applyEdits : List Edit → List Line → Option (List Line × List Line)
  | [], lines => some ([], lines)
  | ⟨.add, line⟩ :: edits, lines => do
      let (made, rest) ← applyEdits edits lines
      some (line :: made, rest)
  | _ :: _, [] => none
  | ⟨.keep, line⟩ :: edits, head :: lines =>
      if line = head then do
        let (made, rest) ← applyEdits edits lines
        some (line :: made, rest)
      else none
  | ⟨.remove, line⟩ :: edits, head :: lines =>
      if line = head then applyEdits edits lines else none

/-- The index of the first line; an empty range names the line before it. -/
def firstIndex (start length : Nat) : Nat := if length = 0 then start else start - 1

/-- The text that the hunks make of the lines before, from the indices reached in both texts. -/
def applyHunks : (i j : Nat) → List Hunk → List Line → Option (List Char)
  | _, _, [], lines => some lines.flatten
  | i, j, h :: hunks, lines => do
      let skipped := firstIndex h.beforeStart h.beforeLength - i
      if firstIndex h.beforeStart h.beforeLength < i ∨ lines.length < skipped ∨
          firstIndex h.afterStart h.afterLength ≠ j + skipped then none
      else do
        let (made, rest) ← applyEdits h.edits (lines.drop skipped)
        let text ← applyHunks (i + skipped + h.beforeLength) (j + skipped + h.afterLength) hunks rest
        some ((lines.take skipped).flatten ++ made.flatten ++ text)

/-- The text that a patch makes of another, if it applies. -/
def applyPatch (patch before : List Char) : Option (List Char) := do
  let hunks ← readPatch patch
  applyHunks 0 0 hunks (textLines before)

/-! ## Reading what was written -/

def taken (edits : List Edit) : Nat := (edits.map fun e => e.kind.taken).sum

def made (edits : List Edit) : Nat := (edits.map fun e => e.kind.made).sum

/-- The lines of a hunk end in their only line feed, and its lengths count them. -/
structure Hunk.Clean (h : Hunk) : Prop where
  ended : ∀ e ∈ h.edits, Ended e.line
  before : taken h.edits = h.beforeLength
  after : made h.edits = h.afterLength

theorem readNumber_toDigits {n : Nat} {rest : List Char}
    (stops : ∀ c, rest.head? = some c → c.isDigit = false) :
    readNumber (Nat.toDigits 10 n ++ rest) = some (n, rest) := by
  have all : ∀ c ∈ Nat.toDigits 10 n, c.isDigit = true := fun c listed =>
    Nat.isDigit_of_mem_toDigits (by decide) (by decide) listed
  have none_ : rest.takeWhile Char.isDigit = [] ∧ rest.dropWhile Char.isDigit = rest := by
    cases rest with
    | nil => exact ⟨rfl, rfl⟩
    | cons c rest =>
        have other := stops c rfl
        simp [other]
  unfold readNumber
  rw [List.takeWhile_append_of_pos all, List.dropWhile_append_of_pos all, none_.1, none_.2,
    List.append_nil, if_neg Nat.toDigits_ne_nil, Nat.ofDigitChars_ten_toDigits]

theorem readRange_render {start length : Nat} {rest : List Char} :
    readRange (renderRange start length ++ ' ' :: rest) = some ((start, length), ' ' :: rest) := by
  unfold readRange renderRange
  split
  · next one =>
      rw [readNumber_toDigits (by rintro c ⟨⟩; rfl), one]
      rfl
  · rw [List.append_assoc, readNumber_toDigits (by rintro c ⟨⟩; rfl)]
    show (readNumber (Nat.toDigits 10 length ++ ' ' :: rest)).bind _ = _
    rw [readNumber_toDigits (by rintro c ⟨⟩; rfl)]
    rfl

theorem readHeader_header (h : Hunk) : readHeader h.header =
    some ((h.beforeStart, h.beforeLength), h.afterStart, h.afterLength) := by
  show (readRange (renderRange h.beforeStart h.beforeLength ++ ' ' :: ('+' :: _))).bind _ = _
  rw [readRange_render]
  show (readRange (renderRange h.afterStart h.afterLength ++ ' ' :: ['@', '@', '\n'])).bind _ = _
  rw [readRange_render]
  rfl

theorem ended_render {e : Edit} (ended : Ended e.line) : Ended e.render := by
  obtain ⟨content, shape, free⟩ := ended
  refine ⟨e.kind.sign :: content, by rw [Edit.render, shape]; rfl, ?_⟩
  rw [List.mem_cons, not_or]
  refine ⟨?_, free⟩
  cases e.kind <;> decide

theorem readKind_sign (kind : Kind) : readKind kind.sign = some kind := by cases kind <;> rfl

theorem not_marked_render {edits : List Edit} {rest : List Line} (h : marked rest = false) :
    marked (edits.map Edit.render ++ rest) = false := by
  cases edits with
  | nil => exact h
  | cons e edits =>
      obtain ⟨kind, line⟩ := e
      cases kind <;> rfl

theorem readEdit_render {e : Edit} {lines : List Line} (ended : Ended e.line)
    (unmarked : marked lines = false) : readEdit e.render lines = some (e, lines) := by
  obtain ⟨content, shape, -⟩ := ended
  have last : e.render.getLast? = some '\n' := by
    rw [Edit.render, shape, ← List.cons_append, List.getLast?_concat]
  unfold readEdit
  show (readKind e.kind.sign).bind _ = _
  rw [readKind_sign]
  show (if e.render.getLast? ≠ some '\n' then none else _) = _
  rw [if_neg (not_not_intro last), unmarked]
  rfl

theorem readEdits_render {rest : List Line} (unmarked : marked rest = false) :
    ∀ {edits : List Edit} {fuel : Nat}, (∀ e ∈ edits, Ended e.line) → edits.length ≤ fuel →
      readEdits fuel (taken edits) (made edits) (edits.map Edit.render ++ rest) =
        some (edits, rest)
  | [], fuel, _, _ => by cases fuel <;> rfl
  | e :: edits, 0, _, short => absurd short (Nat.not_succ_le_zero _)
  | e :: edits, fuel + 1, ended, short => by
      have tail := readEdits_render unmarked
        (fun other listed => ended other (List.mem_cons_of_mem _ listed))
        (Nat.le_of_succ_le_succ short)
      have here : taken (e :: edits) = e.kind.taken + taken edits := List.sum_cons
      have there : made (e :: edits) = e.kind.made + made edits := List.sum_cons
      have some_ : ¬(taken (e :: edits) = 0 ∧ made (e :: edits) = 0) := by
        rw [here, there]
        obtain ⟨kind, line⟩ := e
        cases kind <;> simp [Kind.taken, Kind.made]
      unfold readEdits
      rw [if_neg some_]
      show (readEdit e.render (edits.map Edit.render ++ rest)).bind _ = _
      rw [readEdit_render (ended e List.mem_cons_self) (not_marked_render unmarked)]
      show (if _ then none else _) = _
      rw [if_neg (by rw [here, there]; omega), here, there, Nat.add_sub_cancel_left,
        Nat.add_sub_cancel_left]
      show (readEdits fuel _ _ (edits.map Edit.render ++ rest)).bind _ = _
      rw [tail]
      rfl

theorem not_marked_hunks (hunks : List Hunk) : marked (hunks.flatMap Hunk.render) = false := by
  cases hunks <;> rfl

theorem readHunks_render : ∀ {hunks : List Hunk} {fuel : Nat}, (∀ h ∈ hunks, h.Clean) →
    (hunks.flatMap Hunk.render).length ≤ fuel →
      readHunks fuel (hunks.flatMap Hunk.render) = some hunks
  | [], fuel, _, _ => by cases fuel <;> rfl
  | h :: hunks, 0, _, short => absurd short (Nat.not_succ_le_zero _)
  | h :: hunks, fuel + 1, clean, short => by
      have first := clean h List.mem_cons_self
      have lines : (h :: hunks).flatMap Hunk.render =
          h.header :: (h.edits.map Edit.render ++ hunks.flatMap Hunk.render) := List.flatMap_cons
      rw [lines, List.length_cons, List.length_append] at short
      have tail := @readHunks_render hunks fuel
        (fun other listed => clean other (List.mem_cons_of_mem _ listed)) (by omega)
      have edits := @readEdits_render (hunks.flatMap Hunk.render) (not_marked_hunks hunks) h.edits
        (h.edits.map Edit.render ++ hunks.flatMap Hunk.render).length first.ended (by
          rw [List.length_append, List.length_map]
          omega)
      rw [first.before, first.after] at edits
      rw [lines]
      unfold readHunks
      rw [readHeader_header]
      show (readEdits _ h.beforeLength h.afterLength _).bind _ = _
      rw [edits]
      show (readHunks fuel (hunks.flatMap Hunk.render)).bind _ = _
      rw [tail]
      rfl

/-- A range is written without line feed. -/
theorem feed_not_mem_renderRange {start length : Nat} : '\n' ∉ renderRange start length := by
  have digits (n : Nat) : '\n' ∉ Nat.toDigits 10 n := fun listed => by
    have digit := Nat.isDigit_of_mem_toDigits (by decide) (by decide) listed
    exact absurd digit (by decide)
  unfold renderRange
  split
  · exact digits start
  · rw [List.mem_append, List.mem_cons]
    rintro (listed | same | listed)
    · exact digits _ listed
    · exact absurd same (by decide)
    · exact digits _ listed

theorem ended_header (h : Hunk) : Ended h.header := by
  refine ⟨'@' :: '@' :: ' ' :: '-' :: (renderRange h.beforeStart h.beforeLength ++
    ' ' :: '+' :: (renderRange h.afterStart h.afterLength ++ [' ', '@', '@'])), ?_, ?_⟩
  · simp [Hunk.header]
  · have first : '\n' ∉ renderRange h.beforeStart h.beforeLength := feed_not_mem_renderRange
    have second : '\n' ∉ renderRange h.afterStart h.afterLength := feed_not_mem_renderRange
    simp [first, second]

/-- A patch of clean hunks is read as it was written. -/
theorem readPatch_render {source target : Line} {hunks : List Hunk}
    (from_ : Ended ('-' :: '-' :: '-' :: ' ' :: source))
    (to_ : Ended ('+' :: '+' :: '+' :: ' ' :: target)) (clean : ∀ h ∈ hunks, h.Clean) :
    readPatch (('-' :: '-' :: '-' :: ' ' :: source) ++ ('+' :: '+' :: '+' :: ' ' :: target) ++
      (hunks.flatMap Hunk.render).flatten) = some hunks := by
  have ended : ∀ line ∈ hunks.flatMap Hunk.render, Ended line := by
    intro line listed
    obtain ⟨h, member, line_⟩ := List.mem_flatMap.mp listed
    rcases List.mem_cons.mp line_ with rfl | edit
    · exact ended_header h
    · obtain ⟨e, among, rfl⟩ := List.mem_map.mp edit
      exact ended_render ((clean h member).ended e among)
  have lines := textLines_flatten ended []
  rw [List.append_nil] at lines
  unfold readPatch
  rw [List.append_assoc, textLines_append from_, textLines_append to_, lines]
  show readHunks _ (hunks.flatMap Hunk.render ++ []) = _
  rw [List.append_nil]
  exact readHunks_render clean (by simp)

/-! ## Parts -/

/-- The lines that the edits take, and those they make. -/
def takenLines (edits : List Edit) : List Line :=
  (edits.filter fun e => e.kind ≠ .add).map (·.line)

def madeLines (edits : List Edit) : List Line :=
  (edits.filter fun e => e.kind ≠ .remove).map (·.line)

/-- Lines that both texts share, and the edits of the hunk that follows them. -/
structure Part where
  gap : List Line
  edits : List Edit

def beforeLines (parts : List Part) : List Line :=
  parts.flatMap fun part => part.gap ++ takenLines part.edits

def afterLines (parts : List Part) : List Line :=
  parts.flatMap fun part => part.gap ++ madeLines part.edits

/-- The first line that a header names. -/
def firstLine (index length : Nat) : Nat := if length = 0 then index else index + 1

/-- The hunk of edits at these indices. -/
def hunkAt (i j : Nat) (edits : List Edit) : Hunk :=
  ⟨firstLine i (taken edits), taken edits, firstLine j (made edits), made edits, edits⟩

def hunksOf : (i j : Nat) → List Part → List Hunk
  | _, _, [] => []
  | i, j, part :: parts =>
      hunkAt (i + part.gap.length) (j + part.gap.length) part.edits ::
        hunksOf (i + part.gap.length + taken part.edits) (j + part.gap.length + made part.edits) parts

theorem firstIndex_firstLine {index length : Nat} :
    firstIndex (firstLine index length) length = index := by
  unfold firstIndex firstLine
  split <;> rfl

theorem length_takenLines : ∀ edits : List Edit, (takenLines edits).length = taken edits
  | [] => rfl
  | e :: edits => by
      have ih := length_takenLines edits
      obtain ⟨kind, line⟩ := e
      cases kind <;> simp_all [takenLines, taken, Kind.taken] <;> omega

theorem length_madeLines : ∀ edits : List Edit, (madeLines edits).length = made edits
  | [] => rfl
  | e :: edits => by
      have ih := length_madeLines edits
      obtain ⟨kind, line⟩ := e
      cases kind <;> simp_all [madeLines, made, Kind.made] <;> omega

theorem applyEdits_taken {rest : List Line} : ∀ edits : List Edit,
    applyEdits edits (takenLines edits ++ rest) = some (madeLines edits, rest)
  | [] => rfl
  | ⟨.keep, line⟩ :: edits => by
      show (if line = line then (applyEdits edits (takenLines edits ++ rest)).bind _ else none) = _
      rw [if_pos rfl, applyEdits_taken edits]
      rfl
  | ⟨.remove, line⟩ :: edits => by
      show (if line = line then applyEdits edits (takenLines edits ++ rest) else none) = _
      rw [if_pos rfl, applyEdits_taken edits]
      rfl
  | ⟨.add, line⟩ :: edits => by
      show (applyEdits edits (takenLines edits ++ rest)).bind _ = _
      rw [applyEdits_taken edits]
      rfl

/-- Hunks that follow the lines before turn them into those after. -/
theorem applyHunks_hunksOf {rest : List Line} : ∀ (parts : List Part) (i j : Nat),
    applyHunks i j (hunksOf i j parts) (beforeLines parts ++ rest) =
      some ((afterLines parts).flatten ++ rest.flatten)
  | [], _, _ => rfl
  | part :: parts, i, j => by
      have tail := @applyHunks_hunksOf rest parts
        (i + part.gap.length + taken part.edits) (j + part.gap.length + made part.edits)
      have before : beforeLines (part :: parts) ++ rest =
          part.gap ++ (takenLines part.edits ++ (beforeLines parts ++ rest)) := by
        simp [beforeLines]
      rw [before]
      unfold hunksOf applyHunks
      simp only [hunkAt, firstIndex_firstLine, Nat.add_sub_cancel_left]
      rw [if_neg (by rw [List.length_append]; omega), List.drop_left, List.take_left]
      show (applyEdits part.edits (takenLines part.edits ++ (beforeLines parts ++ rest))).bind _ = _
      rw [applyEdits_taken]
      show (applyHunks _ _ _ (beforeLines parts ++ rest)).bind _ = _
      rw [tail]
      simp [afterLines]

theorem hunksOf_clean : ∀ {parts : List Part} {i j : Nat}, (∀ part ∈ parts, ∀ e ∈ part.edits,
    Ended e.line) → ∀ h ∈ hunksOf i j parts, h.Clean
  | part :: parts, i, j, ended, h, member => by
      rcases List.mem_cons.mp member with rfl | later
      · exact ⟨ended part List.mem_cons_self, rfl, rfl⟩
      · exact hunksOf_clean (fun other listed => ended other (List.mem_cons_of_mem _ listed)) h later

/-- Every line of an edit is taken or made. -/
theorem mem_lines {parts : List Part} {part : Part} (member : part ∈ parts) {e : Edit}
    (listed : e ∈ part.edits) : e.line ∈ beforeLines parts ∨ e.line ∈ afterLines parts := by
  by_cases kind : e.kind = .add
  · refine .inr (List.mem_flatMap.mpr ⟨part, member, List.mem_append_right _ ?_⟩)
    exact List.mem_map_of_mem (List.mem_filter.mpr ⟨listed, by simp [kind]⟩)
  · refine .inl (List.mem_flatMap.mpr ⟨part, member, List.mem_append_right _ ?_⟩)
    exact List.mem_map_of_mem (List.mem_filter.mpr ⟨listed, by simp [kind]⟩)

/-- A patch of parts applies to the text they were made for, whatever follows them in it. -/
theorem applyPatch_render {source target : Line} {parts : List Part}
    (from_ : Ended ('-' :: '-' :: '-' :: ' ' :: source))
    (to_ : Ended ('+' :: '+' :: '+' :: ' ' :: target))
    (before : ∀ line ∈ beforeLines parts, Ended line)
    (after : ∀ line ∈ afterLines parts, Ended line) (rest : List Char) :
    applyPatch (('-' :: '-' :: '-' :: ' ' :: source) ++ ('+' :: '+' :: '+' :: ' ' :: target) ++
      ((hunksOf 0 0 parts).flatMap Hunk.render).flatten) ((beforeLines parts).flatten ++ rest) =
        some ((afterLines parts).flatten ++ rest) := by
  have clean : ∀ h ∈ hunksOf 0 0 parts, h.Clean := hunksOf_clean fun part member e listed =>
    (mem_lines member listed).elim (before e.line) (after e.line)
  unfold applyPatch
  rw [readPatch_render from_ to_ clean, textLines_flatten before]
  show applyHunks 0 0 (hunksOf 0 0 parts) (beforeLines parts ++ textLines rest) = _
  rw [applyHunks_hunksOf, flatten_textLines]

end Base.UnifiedDiff
