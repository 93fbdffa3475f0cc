import Mathlib.Data.List.Sort
import MasterAgent.Base.Expansion
import MasterAgent.Base.Frames
import MasterAgent.Base.Json
import MasterAgent.Models.Checks

/-!
# Search evidence

The reviewer cites what a search of the repository shows: an excerpt of a file around the query,
and for the scoped tool its line. The query is looked up in the case-folded text; the excerpt is cut
from the text itself.

Results:

1. `searchFixture_eq`, `searchFiles_ok`: which files a search reports;
2. `shows_window_iff`: when the window of the text around an index shows a match;
3. `search_evidence`: for which files the evidence is faithful.
-/

namespace MasterAgent.Advisory
open Base Expansion

def MAX_FILES : Nat := 512
def MAX_FILE_BYTES : Nat := 64 * 1024
def MAX_RESULTS : Nat := 20
def MAX_TOOL_FILE_BYTES : Nat := 64 * 1024
def MAX_TOOL_OUTPUT_BYTES : Nat := 64 * 1024
def MAX_TOOL_RESULTS : Nat := 64
def MAX_SEARCH_QUERY : Nat := 512

def advisoryDispatchDenied (message : String) : Exn :=
  ⟨.valueError, "AdvisoryDispatchDenied", message⟩

def copilotScopeRejected (message : String) : Exn :=
  ⟨.runtime, "CopilotScopeRejected", message⟩

/-- `if refused: raise raised` -/
def raiseIf (refused : Prop) [Decidable refused] (raised : Exn) : Except Exn Unit :=
  if refused then .error raised else .ok ()

theorem raiseIf_ok {refused : Prop} [Decidable refused] {raised : Exn}
    (passed : raiseIf refused raised = .ok ()) : ¬ refused := by
  rw [raiseIf] at passed
  split at passed
  · cases passed
  · assumption

variable [Host]

/-! ## The fixture of the integration tests -/

/-- `repr(value)` of a text. -/
def reprStr (value : String) : String := Host.reprText (.str value)

/-- `PurePosixPath(value).parts` of a relative path. -/
def posixParts (value : String) : List String :=
  ((value.toList.splitOn '/').map String.ofList).filter fun part => part != "" && part != "."

/-- `PurePosixPath(value).as_posix()` of a relative path. -/
def asPosix (value : String) : String :=
  if posixParts value = [] then "." else join '/' (posixParts value)

/-- `_normalize_path` -/
def normalizePath (value : String) : Except Exn String :=
  if value = "" ∨ '\\' ∈ value.toList then
    .error (advisoryDispatchDenied ("unsafe repository path: " ++ reprStr value))
  else if value.toList.head? = some '/' ∨ ".." ∈ posixParts value then
    .error (advisoryDispatchDenied ("unsafe repository path: " ++ reprStr value))
  else if asPosix value ≠ value then
    .error (advisoryDispatchDenied ("repository path is not normalized: " ++ reprStr value))
  else .ok value

/-- The loop of `RepositoryFixture.__init__`. -/
def normalizedFiles (files : List (String × String)) : Except Exn (List (String × String)) :=
  files.mapM fun (path, content) => do
    if (utf8 content).length > MAX_FILE_BYTES then
      .error (advisoryDispatchDenied ("repository fixture is too large: " ++ path))
    let normalized ← normalizePath path
    .ok (normalized, content)

/-- `RepositoryFixture(files)`, where it does not raise. -/
structure RepositoryFixture where
  files : List (String × String)
  distinct : (files.map Prod.fst).Nodup
  few : files.length ≤ MAX_FILES
  normalized : normalizedFiles files = .ok files

structure Citation where
  path : String
  excerpt : String
deriving DecidableEq, Repr

/-- `content[start:stop]` -/
def slice (content : String) (start stop : Nat) : String :=
  String.ofList ((content.toList.take stop).drop start)

/-- `content.casefold().find(query.casefold())` -/
def foldedFind (content query : String) : Option Nat :=
  find (casefold query).toList (casefold content).toList

/-- The excerpt around an index, with `before` characters before it. -/
def window (before after : Nat) (content query : String) (index : Nat) : String :=
  slice content (index - before) (min content.toList.length (index + query.toList.length + after))

/-- The loop of `RepositoryFixture.search`. -/
def searchFixture (query : String) : List (String × String) → List Citation → List Citation
  | [], results => results
  | (path, content) :: files, results =>
    match foldedFind content query with
    | none => searchFixture query files results
    | some index =>
      let results := results ++ [⟨path, window 80 160 content query index⟩]
      if results.length ≥ MAX_RESULTS then results else searchFixture query files results

def RepositoryFixture.search (fixture : RepositoryFixture) (query : String) :
    Except Exn (List Citation) :=
  if query = "" ∨ query.toList.length > 512 then
    .error (advisoryDispatchDenied "search query must contain 1-512 characters")
  else .ok (searchFixture query (sortBy Prod.fst fixture.files) [])

/-! ## The scoped tool of the Copilot worker -/

/-- The files of a bound scope in order, with the bytes that `read_file` gives or the exception that
it raises. An entry has no symbolic link on it, so that the path it resolves to is its own. -/
structure ScopedRepositoryTools where
  relativeFiles : List String
  distinct : relativeFiles.Nodup
  readFile : String → Nat → Except Exn (List UInt8)

/-- An exception for which the search leaves a file out. `_AdvisoryFileChanged`, a subclass of
`CopilotScopeRejected`, is handled before. -/
def skipsFile (e : Exn) : Bool :=
  e.className == "CopilotScopeRejected" || e.className == "UnicodeDecodeError" || e.kind == .osError

/-- `payload.decode("utf-8")` -/
def decodeUtf8 (payload : List UInt8) : Except Exn String :=
  match String.fromUTF8? ⟨payload.toArray⟩ with
  | some content => .ok content
  | none => .error ⟨.valueError, "UnicodeDecodeError", "invalid utf-8"⟩

structure Match where
  path : String
  line : Nat
  excerpt : String
deriving DecidableEq, Repr

/-- `content.count("\n", 0, index)` -/
def lineFeeds (content : String) (index : Nat) : Nat := (content.toList.take index).count '\n'

/-- A file of the scope that is read as text. -/
def ScopedRepositoryTools.readText (tools : ScopedRepositoryTools) (relative : String) :
    Except Exn String := do
  let payload ← tools.readFile relative MAX_TOOL_FILE_BYTES
  decodeUtf8 payload

/-- The loop of `_search`, with the matches and the skipped files so far. -/
def ScopedRepositoryTools.searchFiles (tools : ScopedRepositoryTools) (query : String) :
    List String → List Match → Nat → Except Exn (List Match × Nat)
  | [], found, skipped => .ok (found, skipped)
  | relative :: rest, found, skipped =>
    match tools.readText relative with
    | .error e => if skipsFile e then tools.searchFiles query rest found (skipped + 1) else .error e
    | .ok content =>
      match foldedFind content query with
      | none => tools.searchFiles query rest found skipped
      | some index =>
        let found := found ++
          [⟨relative, lineFeeds content index + 1, window 120 240 content query index⟩]
        if found.length ≥ MAX_TOOL_RESULTS then .ok (found, skipped)
        else tools.searchFiles query rest found skipped

def Match.document (m : Match) : Json :=
  .obj [("path", .str m.path), ("line", .int m.line), ("excerpt", .str m.excerpt)]

def searchDocument (found : List Match) (skipped : Nat) : Json :=
  .obj [("matches", .arr (found.map Match.document)), ("skipped_files", .int skipped)]

/-- `_bounded_tool_output` -/
def boundedToolOutput (value : String) : Except Exn String :=
  if (utf8 value).length > MAX_TOOL_OUTPUT_BYTES then
    .error (copilotScopeRejected "advisory tool output exceeds its byte limit")
  else .ok value

/-- `_validated_query` of a text -/
def validatedQuery (value : String) : Except Exn String :=
  if value = "" ∨ Char.ofNat 0 ∈ value.toList ∨ (utf8 value).length > MAX_SEARCH_QUERY then
    .error (copilotScopeRejected "advisory search query is invalid")
  else .ok value

/-- `invoke("masteragent_search", {"query": query})` -/
def ScopedRepositoryTools.search (tools : ScopedRepositoryTools) (query : String) :
    Except Exn String := do
  let query ← validatedQuery query
  let (found, skipped) ← tools.searchFiles query tools.relativeFiles [] 0
  boundedToolOutput (Json.dumps (searchDocument found skipped))

/-! ## What is reported -/

/-- The file contains the query up to case folding. -/
def Mentions (query content : String) : Prop :=
  (casefold query).toList <:+: (casefold content).toList

instance (query content : String) : Decidable (Mentions query content) :=
  inferInstanceAs (Decidable (_ <:+: _))

theorem foldedFind_eq_none {content query : String} :
    foldedFind content query = none ↔ ¬ Mentions query content := find_eq_none_iff

/-- The files that a search reports, with the limit on its results. -/
def reported (limit : Nat) (query : String) (files : List (String × String)) :
    List (String × String) :=
  (files.filter fun file => Mentions query file.2).take limit

theorem reported_of_absent {limit : Nat} {query : String} {file : String × String}
    {files : List (String × String)} (absent : foldedFind file.2 query = none) :
    reported limit query (file :: files) = reported limit query files := by
  rw [reported, List.filter_cons_of_neg (by simpa using foldedFind_eq_none.mp absent), reported]

theorem reported_of_found {limit index : Nat} {query : String} {file : String × String}
    {files : List (String × String)} (found : foldedFind file.2 query = some index) :
    reported (limit + 1) query (file :: files) = file :: reported limit query files := by
  have mentioned : Mentions query file.2 := by
    by_contra absent
    rw [foldedFind_eq_none.mpr absent] at found
    cases found
  rw [reported, List.filter_cons_of_pos (by simpa using mentioned), List.take_succ_cons, reported]

/-- The citation of a file that mentions the query. -/
def cite (query : String) (file : String × String) : Citation :=
  ⟨file.1, window 80 160 file.2 query ((foldedFind file.2 query).getD 0)⟩

theorem searchFixture_eq {query : String} : ∀ {files : List (String × String)}
    {results : List Citation} {room : Nat}, results.length + (room + 1) = MAX_RESULTS →
    searchFixture query files results = results ++ (reported (room + 1) query files).map (cite query)
  | [], results, room, _ => by simp [searchFixture, reported]
  | file :: files, results, room, left => by
    rw [searchFixture]
    split
    · rename_i absent
      rw [searchFixture_eq left, reported_of_absent absent]
    · rename_i index found
      have cited : (⟨file.1, window 80 160 file.2 query index⟩ : Citation) = cite query file := by
        rw [cite, found, Option.getD_some]
      simp only [cited, List.length_append, List.length_singleton]
      rw [reported_of_found found, List.map_cons]
      cases room with
      | zero =>
        rw [if_pos (by omega)]
        simp [reported]
      | succ room =>
        rw [if_neg (by omega), @searchFixture_eq _ _ _ room (by simp; omega), List.append_assoc,
          List.singleton_append]

/-- The files of a scope that are read as text. -/
def ScopedRepositoryTools.texts (tools : ScopedRepositoryTools) (relatives : List String) :
    List (String × String) :=
  relatives.filterMap fun relative => (tools.readText relative).toOption.map (relative, ·)

/-- The match in a file that mentions the query. -/
def located (query : String) (file : String × String) : Match :=
  let index := (foldedFind file.2 query).getD 0
  ⟨file.1, lineFeeds file.2 index + 1, window 120 240 file.2 query index⟩

theorem searchFiles_ok {tools : ScopedRepositoryTools} {query : String} :
    ∀ {relatives : List String} {found matched : List Match} {skipped missed room : Nat},
    found.length + (room + 1) = MAX_TOOL_RESULTS →
    tools.searchFiles query relatives found skipped = .ok (matched, missed) →
    matched = found ++ (reported (room + 1) query (tools.texts relatives)).map (located query)
  | [], found, matched, skipped, missed, room, _, searched => by
    cases searched
    simp [ScopedRepositoryTools.texts, reported]
  | relative :: relatives, found, matched, skipped, missed, room, left, searched => by
    rw [ScopedRepositoryTools.searchFiles] at searched
    split at searched
    · rename_i e unread
      have rest : tools.texts (relative :: relatives) = tools.texts relatives := by
        rw [ScopedRepositoryTools.texts, List.filterMap_cons_none (by rw [unread]; rfl)]
        rfl
      split at searched
      · rw [rest]
        exact searchFiles_ok left searched
      · cases searched
    · rename_i content read
      have rest : tools.texts (relative :: relatives) = (relative, content) :: tools.texts relatives := by
        rw [ScopedRepositoryTools.texts, List.filterMap_cons_some (by rw [read]; rfl)]
        rfl
      rw [rest]
      split at searched
      · rename_i absent
        rw [@reported_of_absent _ _ _ (relative, content) _ absent]
        exact searchFiles_ok left searched
      · rename_i index here
        have matching : (⟨relative, lineFeeds content index + 1, window 120 240 content query index⟩ : Match) =
            located query (relative, content) := by
          rw [located, here, Option.getD_some]
        simp only [matching, List.length_append, List.length_singleton] at searched
        rw [@reported_of_found _ _ _ _ (relative, content) _ here, List.map_cons]
        cases room with
        | zero =>
          rw [if_pos (by omega)] at searched
          cases searched
          simp [reported]
        | succ room =>
          rw [if_neg (by omega)] at searched
          rw [@searchFiles_ok _ _ _ _ _ _ _ room (by simp; omega) searched, List.append_assoc,
            List.singleton_append]

/-! ## What an excerpt shows -/

/-- Full case folding maps each character to at least one. -/
structure Folding : Prop where
  expands : ∀ c, Host.foldChar c ≠ []

/-- The characters of the file from `start` to `stop` match the query, at `offset` of the folded
file. -/
def MatchAt (content query : String) (offset start stop : Nat) : Prop :=
  Stretch Host.foldChar (casefold query).toList content.toList offset start stop

/-- The part of the file from `place` on reads like `part`. -/
def Reads (content part : String) (place : Nat) : Prop :=
  ∃ front back, content.toList = front ++ part.toList ++ back ∧ front.length = place

/-- The excerpt is a part of the file that contains a match, which begins at the character `start` of
the file. -/
def Shows (content query excerpt : String) (start : Nat) : Prop :=
  ∃ place offset first stop, Reads content excerpt place ∧
    MatchAt excerpt query offset first stop ∧ start = place + first

/-- The first match of the query begins at the character `start` of the file, and case folding adds
`added` characters before it. -/
structure FirstMatch (content query : String) (start added : Nat) : Prop where
  matched : ∃ stop, MatchAt content query (start + added) start stop
  least : ∀ earlier < start + added,
    ¬ (casefold query).toList <+: (casefold content).toList.drop earlier

section
variable {content query excerpt : String}

omit [Host] in
theorem toList_slice (content : String) (start stop : Nat) :
    (slice content start stop).toList = (content.toList.take stop).drop start := String.toList_ofList

theorem toList_casefold (text : String) :
    (casefold text).toList = text.toList.flatMap Host.foldChar := String.toList_ofList

theorem casefold_nonempty (folding : Folding) (nonempty : query ≠ "") :
    (casefold query).toList ≠ [] := by
  rw [toList_casefold, ne_eq, List.flatMap_eq_nil_iff]
  intro empty
  obtain ⟨c, rest, chars⟩ := List.exists_cons_of_ne_nil
    (mt String.toList_eq_nil_iff.mp nonempty)
  exact folding.expands c (empty c (chars ▸ List.mem_cons_self))

theorem foldedFind_iff (folding : Folding) (nonempty : query ≠ "") {index : Nat} :
    foldedFind content query = some index ↔
      ∃ start added, index = start + added ∧ FirstMatch content query start added := by
  rw [foldedFind, find_iff]
  constructor
  · rintro ⟨here, -, least⟩
    rw [toList_casefold content] at here
    obtain ⟨start, stop, stretch⟩ := exists_stretch (casefold_nonempty folding nonempty) here
    have le := stretch.start_le_offset folding.expands (casefold_nonempty folding nonempty)
    have split := Nat.add_sub_cancel' le
    exact ⟨start, index - start, split.symm, ⟨stop, split.symm ▸ stretch⟩, split.symm ▸ least⟩
  · rintro ⟨start, added, rfl, ⟨stop, stretch⟩, least⟩
    refine ⟨toList_casefold content ▸ stretch.here, ?_, least⟩
    have short := (Nat.le_add_right _ _).trans (stretch.covered.trans (place_le stop))
    rwa [toList_casefold content]

/-- An excerpt shows the matches of the file that lie in it, wherever the file reads like it. -/
theorem shows_iff (folding : Folding) (nonempty : query ≠ "") {start : Nat} :
    Shows content query excerpt start ↔ ∃ place offset stop, Reads content excerpt place ∧
      MatchAt content query offset start stop ∧ place ≤ start ∧
        stop ≤ place + excerpt.toList.length := by
  have pattern := casefold_nonempty folding nonempty
  constructor
  · rintro ⟨place, offset, first, stop, ⟨front, back, split, rfl⟩, stretch, rfl⟩
    have whole := (@stretch_within_iff _ _ _ _ _ _ front _ back pattern).mp stretch
    exact ⟨_, _, _, ⟨front, back, split, rfl⟩, split.symm ▸ whole.1, Nat.le_add_right _ _,
      Nat.add_le_add_left whole.2 _⟩
  · rintro ⟨place, offset, stop, ⟨front, back, split, rfl⟩, stretch, after, before⟩
    rw [MatchAt, split] at stretch
    obtain ⟨offset', inner⟩ := stretch.within pattern after before
    exact ⟨_, _, _, _, ⟨front, back, split, rfl⟩, inner, (Nat.add_sub_cancel' after).symm⟩

omit [Host] in
/-- The characters from `start` to `stop` read like themselves. -/
theorem reads_slice {start stop : Nat} (ordered : start ≤ stop) :
    Reads content (slice content start stop) (min start content.toList.length) := by
  refine ⟨content.toList.take start, content.toList.drop stop, ?_, List.length_take⟩
  rw [toList_slice, ← Nat.min_eq_left ordered, ← List.take_take, Nat.min_eq_left ordered,
    List.take_append_drop, List.take_append_drop]

/-- A part of the file shows a match exactly when a match of the file lies between its ends. -/
theorem shows_slice_iff (folding : Folding) (nonempty : query ≠ "") {lo hi : Nat}
    (inside : hi ≤ content.toList.length) :
    (∃ start, Shows content query (slice content lo hi) start) ↔
      ∃ offset start stop, MatchAt content query offset start stop ∧ lo ≤ start ∧ stop ≤ hi := by
  have pattern := casefold_nonempty folding nonempty
  have length : (slice content lo hi).toList.length = hi - lo := by
    rw [toList_slice, List.length_drop, List.length_take, Nat.min_eq_left inside]
  constructor
  · rintro ⟨start, place, offset, first, stop, -, stretch, -⟩
    have room := stretch.inside
    have lt := stretch.start_lt_stop pattern
    rw [length] at room
    obtain ⟨front, back, split, here⟩ := @reads_slice content _ _ (by omega : lo ≤ hi)
    rw [Nat.min_eq_left (by omega)] at here
    have whole := ((@stretch_within_iff _ _ _ _ _ _ front _ back pattern).mp stretch).1
    refine ⟨_, _, _, split.symm ▸ whole, here ▸ Nat.le_add_right _ _, ?_⟩
    omega
  · rintro ⟨offset, start, stop, stretch, after, before⟩
    have lt := stretch.start_lt_stop pattern
    have here := @reads_slice content _ _ (by omega : lo ≤ hi)
    rw [Nat.min_eq_left (by omega)] at here
    exact ⟨start, (shows_iff folding nonempty).mpr ⟨lo, offset, stop, here, stretch, after, by omega⟩⟩

end

/-! ## Faithful evidence -/

/-- What the citations of a search of the fixture owe to the reviewer. -/
structure RepositoryFixture.Faithful (fixture : RepositoryFixture) (query : String)
    (citations : List Citation) : Prop where
  shown : ∀ citation ∈ citations, ∃ content, (citation.path, content) ∈ fixture.files ∧
    Mentions query content ∧ ∃ start, Shows content query citation.excerpt start
  complete : ∀ file ∈ fixture.files, Mentions query file.2 →
    (∃ citation ∈ citations, citation.path = file.1) ∨ citations.length = MAX_RESULTS

/-- What the matches of a search of the scope owe to the reviewer. -/
structure ScopedRepositoryTools.Faithful (tools : ScopedRepositoryTools) (query : String)
    (found : List Match) : Prop where
  shown : ∀ m ∈ found, ∃ content, tools.readText m.path = .ok content ∧ Mentions query content ∧
    ∃ start, Shows content query m.excerpt start ∧ m.line = lineFeeds content start + 1
  complete : ∀ relative ∈ tools.relativeFiles, ∀ content, tools.readText relative = .ok content →
    Mentions query content → (∃ m ∈ found, m.path = relative) ∨ found.length = MAX_TOOL_RESULTS

/-- A match lies between 80 characters before and 160 characters after the place where the first
match would be if case folding had not moved it. -/
def FixtureShows (content query : String) : Prop :=
  ∀ start added, FirstMatch content query start added →
    ∃ offset first stop, MatchAt content query offset first stop ∧
      start + added ≤ first + 80 ∧ stop ≤ start + added + query.toList.length + 160

/-- The characters around the place where the first match begins, moved by what case folding adds
before it. -/
def movedWindow (content query : String) (start added : Nat) : String :=
  slice content (start + added - 120)
    (min content.toList.length (start + added + query.toList.length + 240))

/-- A match lies in those characters, or in others of the file that read like them, and has as many
line feeds before it as the moved place. -/
def ToolShows (content query : String) : Prop :=
  ∀ start added, FirstMatch content query start added →
    ∃ place offset first stop, Reads content (movedWindow content query start added) place ∧
      MatchAt content query offset first stop ∧ place ≤ first ∧
      stop ≤ place + (movedWindow content query start added).toList.length ∧
      lineFeeds content (start + added) = lineFeeds content first

section
variable {content query : String} (folding : Folding) (nonempty : query ≠ "")
include folding nonempty

theorem found_of_mentions (mentioned : Mentions query content) :
    ∃ start added, foldedFind content query = some (start + added) ∧
      FirstMatch content query start added := by
  obtain ⟨index, found⟩ := Option.isSome_iff_exists.mp (find_isSome_iff.mpr mentioned)
  obtain ⟨start, added, rfl, first⟩ := (foldedFind_iff folding nonempty).mp found
  exact ⟨start, added, found, first⟩

theorem moved_eq {start added start' added' : Nat} (first : FirstMatch content query start added)
    (first' : FirstMatch content query start' added') : start + added = start' + added' := by
  have found := (foldedFind_iff folding nonempty).mpr ⟨start, added, rfl, first⟩
  rw [(foldedFind_iff folding nonempty).mpr ⟨start', added', rfl, first'⟩] at found
  exact (Option.some.inj found).symm

theorem cite_shows_iff {path : String} (mentioned : Mentions query content) :
    (∃ start, Shows content query (cite query (path, content)).excerpt start) ↔
      FixtureShows content query := by
  obtain ⟨start, added, found, first⟩ := found_of_mentions folding nonempty mentioned
  rw [cite, found, Option.getD_some, window, shows_slice_iff folding nonempty (min_le_left _ _)]
  constructor
  · rintro ⟨offset, begun, stop, matched, after, before⟩ start' added' first'
    rw [← moved_eq folding nonempty first first']
    exact ⟨offset, begun, stop, matched, Nat.sub_le_iff_le_add.mp after,
      before.trans (min_le_right _ _)⟩
  · intro shown
    obtain ⟨offset, begun, stop, matched, after, before⟩ := shown start added first
    exact ⟨offset, begun, stop, matched, Nat.sub_le_iff_le_add.mpr after,
      le_min matched.inside before⟩

theorem located_shows_iff {path : String} (mentioned : Mentions query content) :
    (∃ start, Shows content query (located query (path, content)).excerpt start ∧
        (located query (path, content)).line = lineFeeds content start + 1) ↔
      ToolShows content query := by
  obtain ⟨start, added, found, first⟩ := found_of_mentions folding nonempty mentioned
  have excerpt : (located query (path, content)).excerpt =
      movedWindow content query start added := by rw [located, found]; rfl
  have line : (located query (path, content)).line = lineFeeds content (start + added) + 1 := by
    rw [located, found]; rfl
  simp only [excerpt, line, shows_iff folding nonempty, Nat.add_right_cancel_iff]
  constructor
  · rintro ⟨begun, ⟨place, offset, stop, reads, matched, after, before⟩, lines⟩ start' added' first'
    rw [movedWindow, ← moved_eq folding nonempty first first']
    exact ⟨place, offset, begun, stop, reads, matched, after, before, lines⟩
  · intro shown
    obtain ⟨place, offset, begun, stop, reads, matched, after, before, lines⟩ :=
      shown start added first
    exact ⟨begun, ⟨place, offset, stop, reads, matched, after, before⟩, lines⟩

end

/-! ## Files that case folding leaves in place -/

section
variable {content query : String} (single : ∀ c ∈ content.toList, (Host.foldChar c).length = 1)
include single

theorem MatchAt.of_single {offset start stop : Nat} (matched : MatchAt content query offset start stop) :
    offset = start ∧ stop ≤ start + (casefold query).toList.length := by
  have first := matched.first
  have carried := matched.carried
  have last := matched.last
  have inside := matched.inside
  rw [place_of_single single (by omega)] at last
  by_cases fits : start + 1 ≤ content.toList.length
  · rw [place_of_single single fits] at carried
    rw [place_of_single single (by omega)] at first
    omega
  · have total : place Host.foldChar content.toList (start + 1) ≤ content.toList.length := by
      rw [← place_of_single single le_rfl, place_of_length_le le_rfl]
      exact place_le _
    rw [place_of_length_le (by omega), ← place_of_length_le le_rfl,
      place_of_single single le_rfl] at first
    omega

/-- Where no character of the file folds to several, the evidence is faithful for every query that
folding does not lengthen beyond the excerpt. -/
theorem shows_of_single (folding : Folding) (nonempty : query ≠ "")
    (short : (casefold query).toList.length ≤ query.toList.length + 160) :
    FixtureShows content query ∧ ToolShows content query := by
  constructor
  · intro start added first
    obtain ⟨stop, matched⟩ := first.matched
    obtain ⟨same, before⟩ := matched.of_single single
    exact ⟨_, start, stop, matched, by omega, by omega⟩
  · intro start added first
    obtain ⟨stop, matched⟩ := first.matched
    obtain ⟨same, before⟩ := matched.of_single single
    have ordered := matched.start_lt_stop (casefold_nonempty folding nonempty)
    have inside := matched.inside
    have low : start + added - 120 ≤ content.toList.length := by omega
    have here := @reads_slice content _ (min content.toList.length
      (start + added + query.toList.length + 240)) (by omega : start + added - 120 ≤ _)
    rw [Nat.min_eq_left low] at here
    have covers : stop ≤ start + added - 120 +
        (movedWindow content query start added).toList.length := by
      rw [movedWindow, toList_slice, List.length_drop, List.length_take]
      omega
    exact ⟨start + added - 120, start + added, start, stop, here, matched, by omega, covers,
      congrArg (lineFeeds content) same⟩

end

/-! ## The searches -/

theorem mem_reported {limit : Nat} {query : String} {files : List (String × String)}
    {file : String × String} (listed : file ∈ reported limit query files) :
    file ∈ files ∧ Mentions query file.2 := by
  simpa using List.mem_filter.mp (List.mem_of_mem_take listed)

theorem reported_complete (limit : Nat) {query : String} {files : List (String × String)}
    {file : String × String} (member : file ∈ files) (mentioned : Mentions query file.2) :
    file ∈ reported limit query files ∨ (reported limit query files).length = limit := by
  have hit : file ∈ files.filter fun file => Mentions query file.2 :=
    List.mem_filter.mpr ⟨member, by simpa using mentioned⟩
  rcases Nat.le_total (files.filter fun file => Mentions query file.2).length limit with all | more
  · exact .inl (by rwa [reported, List.take_of_length_le all])
  · exact .inr (by rw [reported, List.length_take, Nat.min_eq_left more])

theorem RepositoryFixture.search_ok {fixture : RepositoryFixture} {query : String}
    {citations : List Citation} (searched : fixture.search query = .ok citations) :
    query ≠ "" ∧
      citations = (reported MAX_RESULTS query (sortBy Prod.fst fixture.files)).map (cite query) := by
  rw [RepositoryFixture.search] at searched
  split at searched
  · cases searched
  · rename_i accepted
    rw [Except.ok.injEq, @searchFixture_eq _ _ _ _ 19 rfl, List.nil_append] at searched
    exact ⟨(not_or.mp accepted).1, searched.symm⟩

theorem ScopedRepositoryTools.search_ok {tools : ScopedRepositoryTools} {query text : String}
    (searched : tools.search query = .ok text) :
    query ≠ "" ∧ ∃ skipped, text = Json.dumps (searchDocument
      ((reported MAX_TOOL_RESULTS query (tools.texts tools.relativeFiles)).map (located query))
      skipped) := by
  obtain ⟨accepted, valid, rest⟩ := of_bind_ok searched
  obtain ⟨⟨found, skipped⟩, ran, bounded⟩ := of_bind_ok rest
  rw [validatedQuery] at valid
  split at valid
  · cases valid
  · rename_i refused
    cases valid
    have every := @searchFiles_ok _ _ _ _ _ _ _ _ 63 rfl ran
    change boundedToolOutput _ = .ok text at bounded
    rw [boundedToolOutput] at bounded
    split at bounded
    · cases bounded
    · cases bounded
      exact ⟨(not_or.mp refused).1, skipped, by rw [every]; rfl⟩

omit [Host] in
theorem searchDocument_inj {found found' : List Match} {skipped skipped' : Nat}
    (same : searchDocument found skipped = searchDocument found' skipped') : found = found' := by
  have document : Function.Injective Match.document := by
    rintro ⟨path, line, excerpt⟩ ⟨path', line', excerpt'⟩ same
    simpa [Match.document] using same
  rw [searchDocument, searchDocument, Json.obj.injEq, List.cons.injEq, Prod.mk.injEq,
    Json.arr.injEq] at same
  exact document.list_map same.1.2

/-- A search of the scope raises for a refused query, for a file that is not skipped, or for an
output beyond its limit. -/
theorem ScopedRepositoryTools.search_error {tools : ScopedRepositoryTools} {query : String} {e : Exn}
    (searched : tools.search query = .error e) :
    validatedQuery query = .error e ∨
      (∃ relative ∈ tools.relativeFiles, tools.readText relative = .error e ∧ skipsFile e = false) ∨
      ∃ found skipped, boundedToolOutput (Json.dumps (searchDocument found skipped)) = .error e := by
  have loop : ∀ {relatives : List String} {found : List Match} {skipped : Nat},
      tools.searchFiles query relatives found skipped = .error e →
      ∃ relative ∈ relatives, tools.readText relative = .error e ∧ skipsFile e = false := by
    intro relatives
    induction relatives with
    | nil => rintro _ _ ⟨⟩
    | cons relative relatives ih =>
      intro found skipped raised
      have later {found : List Match} {skipped : Nat}
          (raised : tools.searchFiles query relatives found skipped = .error e) :
          ∃ other ∈ relative :: relatives, tools.readText other = .error e ∧ skipsFile e = false := by
        obtain ⟨other, member, unread⟩ := ih raised
        exact ⟨other, List.mem_cons_of_mem _ member, unread⟩
      rw [ScopedRepositoryTools.searchFiles] at raised
      split at raised
      · rename_i unread
        split at raised
        · exact later raised
        · rename_i kept
          cases raised
          exact ⟨relative, List.mem_cons_self, unread, Bool.eq_false_iff.mpr kept⟩
      · split at raised
        · exact later raised
        · simp only at raised
          split at raised
          · cases raised
          · exact later raised
  rw [ScopedRepositoryTools.search] at searched
  cases valid : validatedQuery query with
  | error refused =>
    rw [valid] at searched
    exact .inl (by cases searched; rfl)
  | ok accepted =>
    have same : accepted = query := by
      rw [validatedQuery] at valid
      split at valid
      · cases valid
      · exact (Except.ok.inj valid).symm
    subst same
    rw [valid, ok_bind] at searched
    cases ran : tools.searchFiles accepted tools.relativeFiles [] 0 with
    | error raised =>
      rw [ran] at searched
      cases searched
      exact .inr (.inl (loop ran))
    | ok result =>
      rw [ran, ok_bind] at searched
      exact .inr (.inr ⟨result.1, result.2, searched⟩)

theorem RepositoryFixture.faithful_iff (folding : Folding) {fixture : RepositoryFixture}
    {query : String} {citations : List Citation} (searched : fixture.search query = .ok citations) :
    fixture.Faithful query citations ↔
      ∀ file ∈ reported MAX_RESULTS query (sortBy Prod.fst fixture.files),
        FixtureShows file.2 query := by
  obtain ⟨nonempty, rfl⟩ := RepositoryFixture.search_ok searched
  have sorted : (sortBy Prod.fst fixture.files).Perm fixture.files := List.perm_insertionSort _ _
  constructor
  · rintro ⟨shown, -⟩ ⟨path, content⟩ listed
    obtain ⟨member, mentioned⟩ := mem_reported listed
    obtain ⟨content', member', -, start, shows⟩ := shown _ (List.mem_map_of_mem listed)
    -- The fixture has one content for a path.
    obtain rfl : content' = content :=
      congrArg Prod.snd (List.inj_on_of_nodup_map fixture.distinct member' (sorted.mem_iff.mp member) rfl)
    exact (cite_shows_iff folding nonempty mentioned).mp ⟨start, shows⟩
  · intro shown
    refine ⟨fun citation cited => ?_, fun file member mentioned => ?_⟩
    · obtain ⟨⟨path, content⟩, listed, rfl⟩ := List.mem_map.mp cited
      obtain ⟨member, mentioned⟩ := mem_reported listed
      exact ⟨content, sorted.mem_iff.mp member, mentioned,
        (cite_shows_iff folding nonempty mentioned).mpr (shown _ listed)⟩
    · rw [List.length_map]
      refine (reported_complete MAX_RESULTS (sorted.mem_iff.mpr member) mentioned).imp_left fun listed => ?_
      exact ⟨_, List.mem_map_of_mem listed, rfl⟩

omit [Host] in
theorem mem_texts {tools : ScopedRepositoryTools} {relatives : List String}
    {file : String × String} :
    file ∈ tools.texts relatives ↔ file.1 ∈ relatives ∧ tools.readText file.1 = .ok file.2 := by
  obtain ⟨path, content⟩ := file
  rw [ScopedRepositoryTools.texts, List.mem_filterMap]
  constructor
  · rintro ⟨relative, member, read⟩
    obtain ⟨text, ok, same⟩ := Option.map_eq_some_iff.mp read
    cases same
    refine ⟨member, ?_⟩
    cases outcome : tools.readText path with
    | error e => rw [outcome] at ok; cases ok
    | ok value => rw [outcome] at ok; cases ok; rfl
  · rintro ⟨member, read⟩
    exact ⟨path, member, by simp only at read; rw [read]; rfl⟩

theorem ScopedRepositoryTools.faithful_iff (folding : Folding) {tools : ScopedRepositoryTools}
    {query text : String} (searched : tools.search query = .ok text) :
    (∃ found skipped, text = Json.dumps (searchDocument found skipped) ∧ tools.Faithful query found) ↔
      ∀ file ∈ reported MAX_TOOL_RESULTS query (tools.texts tools.relativeFiles),
        ToolShows file.2 query := by
  obtain ⟨nonempty, missed, rfl⟩ := ScopedRepositoryTools.search_ok searched
  constructor
  · rintro ⟨found, skipped, same, shown, -⟩ ⟨path, content⟩ listed
    obtain rfl := searchDocument_inj (Json.dumps_inj same)
    obtain ⟨member, mentioned⟩ := mem_reported listed
    obtain ⟨content', read, -, shows⟩ := shown _ (List.mem_map_of_mem listed)
    obtain rfl : content = content' := Except.ok.inj ((mem_texts.mp member).2.symm.trans read)
    exact (located_shows_iff folding nonempty mentioned).mp shows
  · intro shown
    refine ⟨_, missed, rfl, fun m matched => ?_, fun relative member content read mentioned => ?_⟩
    · obtain ⟨⟨path, content⟩, listed, rfl⟩ := List.mem_map.mp matched
      obtain ⟨member, mentioned⟩ := mem_reported listed
      exact ⟨content, (mem_texts.mp member).2, mentioned,
        (located_shows_iff folding nonempty mentioned).mpr (shown _ listed)⟩
    · rw [List.length_map]
      have reported := @reported_complete _ MAX_TOOL_RESULTS _ _ (relative, content)
        (mem_texts.mpr ⟨member, read⟩) mentioned
      refine reported.imp_left fun listed => ?_
      exact ⟨located query (relative, content), List.mem_map_of_mem listed, rfl⟩

/-- For which files the searches give faithful evidence, and when the scoped search raises. -/
theorem search_evidence (folding : Folding) :
    (∀ (fixture : RepositoryFixture) (query : String) (citations : List Citation),
      fixture.search query = .ok citations →
      (fixture.Faithful query citations ↔
        ∀ file ∈ reported MAX_RESULTS query (sortBy Prod.fst fixture.files),
          FixtureShows file.2 query)) ∧
    (∀ (tools : ScopedRepositoryTools) (query text : String), tools.search query = .ok text →
      ((∃ found skipped, text = Json.dumps (searchDocument found skipped) ∧
          tools.Faithful query found) ↔
        ∀ file ∈ reported MAX_TOOL_RESULTS query (tools.texts tools.relativeFiles),
          ToolShows file.2 query)) ∧
    ∀ (tools : ScopedRepositoryTools) (query : String) (e : Exn), tools.search query = .error e →
      validatedQuery query = .error e ∨
      (∃ relative ∈ tools.relativeFiles, tools.readText relative = .error e ∧
        skipsFile e = false) ∨
      ∃ found skipped, boundedToolOutput (Json.dumps (searchDocument found skipped)) = .error e :=
  ⟨fun _ _ _ searched => RepositoryFixture.faithful_iff folding searched,
    fun _ _ _ searched => ScopedRepositoryTools.faithful_iff folding searched,
    fun _ _ _ raised => ScopedRepositoryTools.search_error raised⟩

end MasterAgent.Advisory

/-! ## Two searches -/

namespace MasterAgent.Advisory.Search.Samples
open Base Expansion

/-- A host that folds the sharp s to two characters. -/
@[reducible]
def sharpHost : Host :=
  { spellingHost with foldChar := fun c => if c = 'ß' then ['s', 's'] else [c.toLower] }

attribute [local instance] sharpHost

theorem folding : Folding := ⟨fun c => by
  simp only [Host.foldChar]
  split <;> exact List.cons_ne_nil _ _⟩

def note : String := "Read the note"

def fixture : RepositoryFixture := ⟨[("a.md", note)], by decide, by decide, by decide⟩

/-- The note is found in spite of its case, and the citation is faithful. -/
theorem note_cited : fixture.search "NOTE" = .ok [⟨"a.md", note⟩] ∧
    fixture.Faithful "NOTE" [⟨"a.md", note⟩] := by
  have searched : fixture.search "NOTE" = .ok [⟨"a.md", note⟩] := by decide
  refine ⟨searched, ((search_evidence folding).1 fixture "NOTE" _ searched).mpr fun file listed => ?_⟩
  obtain rfl : file = ("a.md", note) :=
    List.mem_singleton.mp ((List.perm_insertionSort _ _).mem_iff.mp (mem_reported listed).1)
  have single : (note.toList.all fun c => (Host.foldChar c).length = 1) = true := by decide +kernel
  exact (shows_of_single (fun c member => of_decide_eq_true (List.all_eq_true.mp single c member)) folding
    (by decide +kernel) (by decide +kernel)).1

def grown : ScopedRepositoryTools :=
  ⟨["b.md"], by decide, fun _ _ => .ok (utf8 "ßßx\n")⟩

def shifted : Match := ⟨"b.md", 2, "ßßx\n"⟩

/-- The only x of the file is on its first line. Folding moves it behind the line feed. -/
theorem line_too_large : ∃ text, grown.search "x" = .ok text ∧
    ¬ ∃ found skipped, text = Json.dumps (searchDocument found skipped) ∧ grown.Faithful "x" found := by
  refine ⟨Json.dumps (searchDocument [shifted] 0), by decide +kernel, ?_⟩
  rintro ⟨found, skipped, same, shown, -⟩
  obtain rfl := searchDocument_inj (Json.dumps_inj same)
  obtain ⟨content, read, -, start, shows, line⟩ := shown shifted (List.mem_singleton_self _)
  obtain rfl : "ßßx\n" = content := Except.ok.inj ((by decide +kernel : _ = _).symm.trans read)
  obtain ⟨place, offset, stop, -, matched, -⟩ := (shows_iff folding (by decide)).mp shows
  -- The match begins at one of the four characters, and only after them is there a line feed.
  have before := matched.start_lt_stop (by decide)
  have inside : stop ≤ 4 := matched.inside
  have first : ∀ start < 4, lineFeeds "ßßx\n" start = 0 := by decide
  rw [first start (by omega)] at line
  exact absurd line (by decide)

end MasterAgent.Advisory.Search.Samples
