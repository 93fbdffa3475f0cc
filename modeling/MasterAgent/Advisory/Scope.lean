import MasterAgent.Advisory.Worktree

/-!
# Scopes

The paths of a repository that an advisory route may read. A scope is bound once: its entries are
minimized, the regular files below them are listed by Git, and each file is bound to its metadata and,
if it is small enough to be read by a tool, to the digest of its bytes. Later captures check the scope
against the file system before they take its digest.

Results:

1. `validate_read`: a small file has the bytes that it was bound with whenever the scope is valid;
2. `validate_listed`: the files of a valid scope are those that Git lists for its entries;
3. `scopeDigest_inj`: what the digest of a scope determines.
-/

namespace MasterAgent.Advisory
open Base Base.GitObjects Credentials

def MAX_SCOPE_PATHS : Nat := 64
def MAX_TOOL_FILES : Nat := 512

def advisoryFileChanged (message : String) : Exn := ⟨.runtime, "_AdvisoryFileChanged", message⟩

/-! ## Reading a file -/

/-- What the calls of one look at a scope answer: whether the root is a directory, `lstat` of a path,
the listing of the regular files below entries and the calls that read a file. -/
structure ScopeCalls where
  isDirectory : Bool
  lstat : Bytes → Option FileStat
  listing : List Bytes → Option Bytes
  calls : Bytes → FileCalls

/-- `_AdvisoryFileBinding`; the file it is made of has one link. -/
structure AdvisoryFileBinding where
  path : Bytes
  stat : FileStat
  contentDigest : Option String
deriving DecidableEq

/-- `_matches_file_binding` -/
def matchesFileBinding (binding : AdvisoryFileBinding) (value : FileStat) : Bool :=
  isSingleLinkRegular value && { binding.stat with links := value.links } = value

/-- The class of the rejection of a file that has a binding already. -/
def changedOrRejected (expected : Option AdvisoryFileBinding) (message : String) : Exn :=
  if expected.isSome then advisoryFileChanged message else copilotScopeRejected message

/-- `_inspect_stable_regular_file` from the opened descriptor on. -/
def inspectOpened (before opened : FileStat) (calls : FileCalls) (readLimit : Option Nat)
    (expected : Option AdvisoryFileBinding) : Except Exn (FileStat × Option Bytes) := do
  raiseIf (sameFileSnapshot before opened = false ∨ isSingleLinkRegular opened = false)
    (changedOrRejected expected "advisory file changed before reading")
  let payload := readLimit.map fun limit => calls.content.take (limit + 1)
  match calls.visible with
  | none => .error (copilotScopeRejected "advisory file changed after reading")
  | some visible =>
    raiseIf (readLimit.any (fun limit => limit < (calls.content.take (limit + 1)).length) = true ∨
        sameFileSnapshot before calls.after = false ∨ sameFileSnapshot before visible = false ∨
        isSingleLinkRegular calls.after = false ∨ isSingleLinkRegular visible = false)
      (changedOrRejected expected "advisory file changed or exceeded its limit")
    raiseIf (expected.any (fun binding =>
        !matchesFileBinding binding calls.after || !matchesFileBinding binding visible) = true)
      (advisoryFileChanged "advisory file changed after scope binding")
    .ok (before, payload)

/-- The message for a file that is not regular or has a second link. -/
def notSingleLink (expected : Option AdvisoryFileBinding) : Exn :=
  if expected.isSome then advisoryFileChanged "advisory file changed after scope binding"
  else copilotScopeRejected "advisory scope files must be single-link regular files"

/-- `_inspect_stable_regular_file` -/
def inspectStableRegularFile (calls : FileCalls) (readLimit : Option Nat)
    (expected : Option AdvisoryFileBinding) : Except Exn (FileStat × Option Bytes) :=
  match calls.before with
  | .found before => do
    raiseIf (isSingleLinkRegular before = false) (notSingleLink expected)
    raiseIf (expected.any (fun binding => !matchesFileBinding binding before) = true)
      (advisoryFileChanged "advisory file changed after scope binding")
    raiseIf (readLimit.any (before.size > ·) = true)
      (copilotScopeRejected "advisory file is not a bounded regular file")
    match calls.opened with
    | none => .error (copilotScopeRejected "advisory file could not be opened safely")
    | some opened => inspectOpened before opened calls readLimit expected
  | _ => .error (copilotScopeRejected "advisory file is unreadable")

section
variable [RawSha256]

/-- `_bind_advisory_file` -/
def bindAdvisoryFile (route : ScopeCalls) (path : Bytes) : Except Exn AdvisoryFileBinding :=
  match route.lstat path with
  | none => .error (copilotScopeRejected "advisory file is unreadable")
  | some before => do
    raiseIf (isSingleLinkRegular before = false)
      (copilotScopeRejected "advisory scope files must be single-link regular files")
    let readLimit := if before.size ≤ MAX_TOOL_FILE_BYTES then some MAX_TOOL_FILE_BYTES else none
    let (observed, payload) ← inspectStableRegularFile (route.calls path) readLimit none
    raiseIf (sameFileSnapshot before observed = false)
      (copilotScopeRejected "advisory file changed while binding scope")
    .ok ⟨path, observed, payload.map Sha256.hexdigest⟩

/-- `_read_stable_regular_file` of a file that is bound to the digest of its bytes. -/
def readStableRegularFile (calls : FileCalls) (binding : AdvisoryFileBinding) (digest : String) :
    Except Exn Bytes := do
  let (_, payload) ← inspectStableRegularFile calls (some MAX_TOOL_FILE_BYTES) (some binding)
  match payload with
  | none => .error (copilotScopeRejected "advisory file could not be read safely")
  | some payload =>
    raiseIf (Sha256.hexdigest payload ≠ digest)
      (advisoryFileChanged "advisory file content changed after scope binding")
    .ok payload

/-- `_validate_file_binding` -/
def validateFileBinding (route : ScopeCalls) (binding : AdvisoryFileBinding) : Except Exn Unit :=
  match binding.contentDigest with
  | none => discard (inspectStableRegularFile (route.calls binding.path) none (some binding))
  | some digest => discard (readStableRegularFile (route.calls binding.path) binding digest)

end

/-! ## Paths -/

/-- The parts of a path that is written in the source. -/
def partsOf (text : String) : List Bytes := components (utf8 text)

/-- A path of its parts: `Path(*parts).as_posix()` -/
def pathOf (parts : List Bytes) : Bytes := List.intercalate [SLASH] parts

def FORBIDDEN_ROUTE_COMPONENTS : List Bytes := [utf8 ".git", utf8 ".master-agent"]
def PARENT_ONLY_CONTEXT_PREFIXES : List (List Bytes) := [partsOf ".ai", partsOf ".github/agents"]
def PARENT_ONLY_CONTEXT_FILES : List (List Bytes) :=
  [partsOf "AGENTS.md", partsOf "docs/semantic-index.md"]

/-- `_is_parent_only_context` -/
def isParentOnlyContext (parts : List Bytes) : Bool :=
  PARENT_ONLY_CONTEXT_FILES.contains parts || PARENT_ONLY_CONTEXT_PREFIXES.any (·.isPrefixOf parts)

def hasPrivateComponent (parts : List Bytes) : Bool :=
  parts.any FORBIDDEN_ROUTE_COMPONENTS.contains

/-- `_normalized_relative` of a text -/
def normalizedRelative (raw : String) : Except Exn (List Bytes) :=
  if raw = "" ∨ Char.ofNat 0 ∈ raw.toList ∨ (utf8 raw).length > MAX_UNTRACKED_PATH_BYTES then
    .error (copilotScopeRejected "advisory path is invalid")
  else if leavesRoot (utf8 raw) then
    .error (copilotScopeRejected "advisory path must be repository-relative")
  else .ok (partsOf raw)

/-- `_reject_symlink_components`, from the parts that were passed already on. -/
def rejectSymlinkComponents (lstat : Bytes → Option FileStat) :
    List Bytes → List Bytes → Except Exn Unit
  | _, [] => .ok ()
  | passed, part :: parts =>
    match lstat (pathOf (passed ++ [part])) with
    | none => .error (copilotScopeRejected "advisory path is unavailable")
    | some value =>
      if value.kind = .symlink then
        .error (copilotScopeRejected "advisory paths must not traverse symlinks")
      else rejectSymlinkComponents lstat (passed ++ [part]) parts

/-- `path.is_file() or path.is_dir()` of a path without a link on it. -/
def isFileOrDirectory (route : ScopeCalls) (parts : List Bytes) : Bool :=
  (route.lstat (pathOf parts)).any fun value => value.kind = .regular || value.kind = .directory

/-- One turn of the loop over the requested paths. A path without a symbolic link on it resolves to
itself. -/
def resolveRequested (route : ScopeCalls) (raw : String) : Except Exn (List Bytes) := do
  let relative ← normalizedRelative raw
  raiseIf (hasPrivateComponent relative = true)
    (copilotScopeRejected "advisory route contains a private path")
  raiseIf (isParentOnlyContext relative = true)
    (copilotScopeRejected "advisory route contains parent-only context")
  rejectSymlinkComponents route.lstat [] relative
  raiseIf (relative = [])
    (copilotScopeRejected "advisory route must be narrower than the repository root")
  raiseIf (isFileOrDirectory route relative = false)
    (copilotScopeRejected "advisory route path must be a regular file or directory")
  .ok relative

/-- Paths in the order of their texts, which for UTF-8 is the order of the bytes. -/
def sortPaths (paths : List Bytes) : List Bytes := paths.insertionSort (· ≤ ·)

/-- The loop that minimizes the entries, with the minimal ones so far. -/
def minimalEntries : List Bytes → List Bytes → List Bytes
  | [], minimal => minimal
  | candidate :: rest, minimal =>
    if minimal.any (fun parent => (components parent).isPrefixOf (components candidate)) then
      minimalEntries rest minimal
    else
      minimalEntries rest
        (minimal.filter (fun item => !(components candidate).isPrefixOf (components item)) ++
          [candidate])

/-! ## The files below entries -/

/-- What Git lists is a regular file without a link on its path, below one of the entries. -/
def eligible (route : ScopeCalls) (entries : List Bytes) (path : Bytes) : Option FileStat :=
  match rejectSymlinkComponents route.lstat [] (components path) with
  | .error _ => none
  | .ok () =>
    (route.lstat path).filter fun value => value.kind = .regular &&
      entries.any fun entry => (components entry).isPrefixOf (components path)

/-- The loop of `_repository_files_in_entries`, with the files so far. -/
def inventoryFiles (route : ScopeCalls) (entries : List Bytes) :
    List Bytes → List Bytes → Except Exn (List Bytes)
  | [], observed => .ok observed
  | rawName :: names, observed => do
    raiseIf (rawName = [] ∨ rawName.length > MAX_UNTRACKED_PATH_BYTES)
      (copilotScopeRejected "advisory route inventory is malformed")
    raiseIf (leavesRoot rawName ∨ hasPrivateComponent (components rawName) = true)
      (copilotScopeRejected "advisory route inventory is unsafe")
    match eligible route entries (normalized rawName) with
    | none => inventoryFiles route entries names observed
    | some value =>
      raiseIf (value.links ≠ 1)
        (copilotScopeRejected "advisory route contains a hardlinked file")
      raiseIf ((observed.insert (normalized rawName)).length > MAX_TOOL_FILES)
        (copilotScopeRejected "advisory route contains too many files")
      inventoryFiles route entries names (observed.insert (normalized rawName))

/-- `_repository_files_in_entries` -/
def repositoryFilesInEntries (route : ScopeCalls) (entries : List Bytes) :
    Except Exn (List Bytes) := do
  let raw ← (runGit (route.listing entries) MAX_UNTRACKED_LIST_BYTES).mapError fun _ =>
    copilotScopeRejected "advisory route inventory could not be bounded"
  let names ← splitListing (copilotScopeRejected "advisory route inventory is incomplete") raw
  let observed ← inventoryFiles route entries names []
  .ok (sortPaths observed)

/-! ## Scopes -/

structure AdvisoryPathScope where
  entries : List Bytes
  allowedFiles : List Bytes
  fileBindings : List AdvisoryFileBinding
  digest : String
deriving DecidableEq

/-- The text of a path; a path that is not UTF-8 cannot be encoded for the digest. -/
def pathText (path : Bytes) : Except Exn String :=
  match String.fromUTF8? ⟨path.toArray⟩ with
  | some text => .ok text
  | none => .error ⟨.valueError, "UnicodeEncodeError", "surrogates not allowed"⟩

def AdvisoryFileBinding.document (binding : AdvisoryFileBinding) : Except Exn Json := do
  let path ← pathText binding.path
  .ok (.obj [("content_digest", (binding.contentDigest.map Json.str).getD .null),
    ("path", .str path), ("size", .int binding.stat.size)])

section
variable [RawSha256]

/-- The digest of `AdvisoryPathScope.bind`. -/
def scopeDigest (entries : List Bytes) (fileBindings : List AdvisoryFileBinding) :
    Except Exn String := do
  let files ← fileBindings.mapM AdvisoryFileBinding.document
  let paths ← entries.mapM pathText
  .ok (sha256Text (Json.dumps (.obj [("files", .arr files), ("paths", .arr (paths.map .str))])))

/-- `AdvisoryPathScope.bind` -/
def AdvisoryPathScope.bind (route : ScopeCalls) (requested : List String) :
    Except Exn AdvisoryPathScope := do
  raiseIf (route.isDirectory = false)
    (copilotScopeRejected "advisory repository root is not a directory")
  raiseIf (requested = [] ∨ requested.length > MAX_SCOPE_PATHS)
    (copilotScopeRejected "advisory route requires a bounded non-empty path scope")
  let resolved ← requested.mapM (resolveRequested route)
  let minimal := minimalEntries (sortPaths (resolved.map pathOf).dedup) []
  let allowedFiles ← repositoryFilesInEntries route minimal
  raiseIf (allowedFiles = [])
    (copilotScopeRejected "advisory route contains no tracked or untracked regular files")
  raiseIf (allowedFiles.any (fun path => isParentOnlyContext (components path)) = true)
    (copilotScopeRejected "advisory route contains parent-only context")
  let fileBindings ← allowedFiles.mapM (bindAdvisoryFile route)
  let digest ← scopeDigest minimal fileBindings
  .ok ⟨minimal, allowedFiles, fileBindings, digest⟩

/-- `except CopilotScopeRejected` -/
def asRepositoryChange {R : Type} (message : String) (ran : Except Exn R) : Except Exn R :=
  ran.mapError fun e =>
    if e.className = "CopilotScopeRejected" ∨ e.className = "_AdvisoryFileChanged" then
      copilotRepositoryChanged message
    else e

/-- `AdvisoryPathScope.validate` -/
def AdvisoryPathScope.validate (scope : AdvisoryPathScope) (route : ScopeCalls) :
    Except Exn Unit := do
  scope.entries.forM fun entry => do
    rejectSymlinkComponents route.lstat [] (components entry)
    raiseIf (isFileOrDirectory route (components entry) = false)
      (copilotRepositoryChanged "advisory route changed during delegation")
  let currentFiles ← asRepositoryChange "advisory route inventory changed during delegation"
    (repositoryFilesInEntries route scope.entries)
  raiseIf (currentFiles ≠ scope.allowedFiles)
    (copilotRepositoryChanged "advisory route inventory changed during delegation")
  asRepositoryChange "advisory route file changed during delegation"
    (scope.fileBindings.forM (validateFileBinding route))

/-- A scope that was bound. -/
structure BoundScope where
  scope : AdvisoryPathScope
  bound : ∃ route requested, AdvisoryPathScope.bind route requested = .ok scope

end

/-! ## What the digest of a scope determines -/

theorem pathText_inj {a b : Bytes} {text : String} (ha : pathText a = .ok text)
    (hb : pathText b = .ok text) : a = b := by
  have encoded : ∀ {path : Bytes}, pathText path = .ok text → utf8 text = path := by
    intro path decoded
    rw [pathText, String.fromUTF8?] at decoded
    split at decoded
    · rename_i found
      split at found
      · cases found
        cases decoded
        rfl
      · cases found
    · cases decoded
  exact (encoded ha).symm.trans (encoded hb)

/-- What the digest of a scope holds of a file. -/
def AdvisoryFileBinding.fields (binding : AdvisoryFileBinding) : Bytes × Nat × Option String :=
  (binding.path, binding.stat.size, binding.contentDigest)

theorem document_inj {a b : AdvisoryFileBinding} {document : Json} (ha : a.document = .ok document)
    (hb : b.document = .ok document) : a.fields = b.fields := by
  obtain ⟨text, pathA, done⟩ := of_bind_ok ha
  obtain ⟨text', pathB, done'⟩ := of_bind_ok hb
  cases done
  simp only [Except.ok.injEq, Json.obj.injEq, List.cons.injEq, Prod.mk.injEq, Json.str.injEq,
    Json.int.injEq, true_and, and_true] at done'
  obtain ⟨digests, rfl, sizes⟩ := done'
  have contents : a.contentDigest = b.contentDigest := by
    cases ca : a.contentDigest <;> cases cb : b.contentDigest <;> rw [ca, cb] at digests
    · cases digests
    · cases digests
    · rw [Json.str.inj digests]
  rw [AdvisoryFileBinding.fields, AdvisoryFileBinding.fields, pathText_inj pathA pathB, contents,
    Int.ofNat.inj sizes]

/-- Two traversals with one result agree on what each element's image determines. -/
theorem map_eq_of_mapM {R S K : Type} {f : R → Except Exn S} {key : R → K}
    (determined : ∀ {x y z}, f x = .ok z → f y = .ok z → key x = key y) {zs : List S} :
    ∀ {xs ys : List R}, xs.mapM f = .ok zs → ys.mapM f = .ok zs → xs.map key = ys.map key := by
  intro xs ys hx hy
  have left := forall₂_of_mapM hx
  have right := forall₂_of_mapM hy
  clear hx hy
  induction left generalizing ys with
  | nil =>
    cases right
    rfl
  | cons head _ ih =>
    cases right with
    | cons head' tail => rw [List.map_cons, List.map_cons, determined head head', ih tail]

variable [RawSha256]

/-- The digest determines the entries and, file by file, the path, the size and the digest. -/
theorem scopeDigest_inj (ideal : RawSha256.CollisionFree) {entries entries' : List Bytes}
    {bindings bindings' : List AdvisoryFileBinding} {digest : String}
    (made : scopeDigest entries bindings = .ok digest)
    (made' : scopeDigest entries' bindings' = .ok digest) :
    entries = entries' ∧
      bindings.map AdvisoryFileBinding.fields = bindings'.map AdvisoryFileBinding.fields := by
  obtain ⟨files, filesA, rest⟩ := of_bind_ok made
  obtain ⟨paths, pathsA, done⟩ := of_bind_ok rest
  obtain ⟨files', filesB, rest'⟩ := of_bind_ok made'
  obtain ⟨paths', pathsB, done'⟩ := of_bind_ok rest'
  have texts := sha256Text_inj ideal.hex ((Except.ok.inj done).trans (Except.ok.inj done').symm)
  have documents := Json.dumps_inj texts
  simp only [Json.obj.injEq, List.cons.injEq, Prod.mk.injEq, Json.arr.injEq, true_and,
    and_true] at documents
  obtain ⟨rfl, strings⟩ := documents
  obtain rfl := List.map_injective_iff.mpr (fun _ _ => Json.str.inj) strings
  refine ⟨?_, map_eq_of_mapM document_inj filesA filesB⟩
  have same := @map_eq_of_mapM _ _ _ _ id pathText_inj _ _ _ pathsA pathsB
  rwa [List.map_id, List.map_id] at same

theorem bindAdvisoryFile_path {route : ScopeCalls} {path : Bytes} {binding : AdvisoryFileBinding}
    (bound : bindAdvisoryFile route path = .ok binding) : binding.path = path := by
  rw [bindAdvisoryFile] at bound
  split at bound
  · cases bound
  · obtain ⟨_, _, rest⟩ := of_bind_ok bound
    obtain ⟨⟨_, _⟩, _, rest'⟩ := of_bind_ok rest
    obtain ⟨_, _, done⟩ := of_bind_ok rest'
    cases done
    rfl

theorem bindAdvisoryFile_paths {route : ScopeCalls} {files : List Bytes}
    {bindings : List AdvisoryFileBinding} (each : files.mapM (bindAdvisoryFile route) = .ok bindings) :
    bindings.map (·.path) = files := by
  have paths := forall₂_of_mapM each
  clear each
  induction paths with
  | nil => rfl
  | cons head _ ih => rw [List.map_cons, ih, bindAdvisoryFile_path head]

/-- What a scope was made of. -/
theorem BoundScope.made (bound : BoundScope) :
    scopeDigest bound.scope.entries bound.scope.fileBindings = .ok bound.scope.digest ∧
      bound.scope.fileBindings.map (·.path) = bound.scope.allowedFiles := by
  obtain ⟨scope, route, requested, made⟩ := bound
  rw [AdvisoryPathScope.bind] at made
  obtain ⟨_, _, rest⟩ := of_bind_ok made
  obtain ⟨_, _, rest₂⟩ := of_bind_ok rest
  obtain ⟨resolved, _, rest₃⟩ := of_bind_ok rest₂
  obtain ⟨files, _, rest₄⟩ := of_bind_ok rest₃
  obtain ⟨_, _, rest₅⟩ := of_bind_ok rest₄
  obtain ⟨_, _, rest₆⟩ := of_bind_ok rest₅
  obtain ⟨bindings, each, rest₇⟩ := of_bind_ok rest₆
  obtain ⟨digest, hashed, done⟩ := of_bind_ok rest₇
  cases done
  exact ⟨hashed, bindAdvisoryFile_paths each⟩

/-! ## What a valid scope is -/

omit [RawSha256] in
theorem asRepositoryChange_ok {R : Type} {message : String} {ran : Except Exn R} {result : R}
    (passed : asRepositoryChange message ran = .ok result) : ran = .ok result := by
  cases ran with
  | error e => cases passed
  | ok value => exact passed

omit [RawSha256] in
theorem discard_ok {R : Type} {ran : Except Exn R} (passed : discard ran = .ok ()) :
    ∃ value, ran = .ok value := by
  cases ran with
  | error e => cases passed
  | ok value => exact ⟨value, rfl⟩

theorem validate_ok {scope : AdvisoryPathScope} {route : ScopeCalls}
    (valid : scope.validate route = .ok ()) :
    repositoryFilesInEntries route scope.entries = .ok scope.allowedFiles ∧
      ∀ binding ∈ scope.fileBindings, validateFileBinding route binding = .ok () := by
  obtain ⟨_, _, rest⟩ := of_bind_ok valid
  obtain ⟨files, listed, rest₂⟩ := of_bind_ok rest
  obtain ⟨_, unchanged, checked⟩ := of_bind_ok rest₂
  obtain rfl : files = scope.allowedFiles := not_not.mp (raiseIf_ok unchanged)
  exact ⟨asRepositoryChange_ok listed,
    fun _ member => of_forM_ok (asRepositoryChange_ok checked) member⟩

/-- A small file has the bytes that it was bound with. -/
theorem validate_read {scope : AdvisoryPathScope} {route : ScopeCalls}
    (valid : scope.validate route = .ok ()) {binding : AdvisoryFileBinding}
    (member : binding ∈ scope.fileBindings) {digest : String}
    (small : binding.contentDigest = some digest) :
    ∃ payload, readStableRegularFile (route.calls binding.path) binding digest = .ok payload ∧
      Sha256.hexdigest payload = digest := by
  have checked := (validate_ok valid).2 binding member
  rw [validateFileBinding, small] at checked
  obtain ⟨payload, read⟩ := discard_ok checked
  refine ⟨payload, read, ?_⟩
  obtain ⟨⟨_, found⟩, _, rest⟩ := of_bind_ok read
  cases found with
  | none => cases rest
  | some bytes =>
    obtain ⟨_, same, done⟩ := of_bind_ok rest
    cases done
    exact not_not.mp (raiseIf_ok same)

omit [RawSha256] in
theorem inventoryFiles_listed {route : ScopeCalls} {entries : List Bytes} :
    ∀ {names observed files : List Bytes}, inventoryFiles route entries names observed = .ok files →
      ∀ file ∈ files, file ∈ observed ∨ ∃ name ∈ names, normalized name = file
  | [], observed, files, listed, file, member => by
    cases listed
    exact .inl member
  | rawName :: names, observed, files, listed, file, member => by
    rw [inventoryFiles] at listed
    obtain ⟨_, _, rest⟩ := of_bind_ok listed
    obtain ⟨_, _, rest₂⟩ := of_bind_ok rest
    have later : ∀ {name}, name ∈ names → name ∈ rawName :: names := List.mem_cons_of_mem _
    split at rest₂
    · rcases inventoryFiles_listed rest₂ file member with before | ⟨name, among, same⟩
      · exact .inl before
      · exact .inr ⟨name, later among, same⟩
    · obtain ⟨_, _, rest₃⟩ := of_bind_ok rest₂
      obtain ⟨_, _, rest₄⟩ := of_bind_ok rest₃
      rcases inventoryFiles_listed rest₄ file member with before | ⟨name, among, same⟩
      · rcases List.mem_insert_iff.mp before with rfl | earlier
        · exact .inr ⟨rawName, List.mem_cons_self, rfl⟩
        · exact .inl earlier
      · exact .inr ⟨name, later among, same⟩

/-- The files of a valid scope are listed by Git. -/
theorem validate_listed {scope : AdvisoryPathScope} {route : ScopeCalls}
    (valid : scope.validate route = .ok ()) {file : Bytes} (allowed : file ∈ scope.allowedFiles) :
    ∃ name ∈ listedLines (route.listing scope.entries), normalized name = file := by
  obtain ⟨raw, ran, rest⟩ := of_bind_ok (validate_ok valid).1
  obtain ⟨names, split, rest₂⟩ := of_bind_ok rest
  obtain ⟨observed, listed, done⟩ := of_bind_ok rest₂
  have output : route.listing scope.entries = some raw := by
    cases answered : runGit (route.listing scope.entries) MAX_UNTRACKED_LIST_BYTES with
    | error e =>
      rw [answered] at ran
      cases ran
    | ok bytes =>
      rw [answered] at ran
      cases ran
      exact runGit_ok answered
  rw [← Except.ok.inj done, sortPaths] at allowed
  have member := (List.perm_insertionSort _ observed).mem_iff.mp allowed
  rw [output, ← splitListing_ok split]
  exact (inventoryFiles_listed listed file member).resolve_left List.not_mem_nil

end MasterAgent.Advisory
