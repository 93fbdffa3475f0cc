import MasterAgent.Advisory.GitTree
import MasterAgent.Advisory.Search

/-!
# Work trees

The state of a repository that an advisory task is bound to: the commit, the index and the raw bytes
of the files, read without any conversion by Git. Two snapshots that agree are hashed to one digest.
What the calls to Git and to the file system answer is given; a file that changes between two of the
calls is refused.

Results:

1. `observe_ok`: what a snapshot has seen of every name that Git lists;
2. `seen_of_material`: the hashed bytes determine what was seen;
3. `repositoryStateBinding_inj`: so does the digest.
-/

namespace MasterAgent.Advisory
open Base Base.GitObjects Credentials

def MAX_GIT_HEAD_BYTES : Nat := 4096
def MAX_GIT_INDEX_BYTES : Nat := 4 * 1024 * 1024
def MAX_TRACKED_FILES : Nat := 8192
def MAX_TRACKED_FILE_BYTES : Nat := 8 * 1024 * 1024
def MAX_TRACKED_TOTAL_BYTES : Nat := 64 * 1024 * 1024
def MAX_UNTRACKED_LIST_BYTES : Nat := 2 * 1024 * 1024
def MAX_UNTRACKED_FILES : Nat := 2048
def MAX_UNTRACKED_PATH_BYTES : Nat := 4096
def MAX_UNTRACKED_FILE_BYTES : Nat := 2 * 1024 * 1024
def MAX_UNTRACKED_TOTAL_BYTES : Nat := 16 * 1024 * 1024

def copilotRepositoryChanged (message : String) : Exn :=
  ⟨.runtime, "CopilotRepositoryChanged", message⟩

/-! ## Digests and fields -/

/-- `hashlib.sha256(bytes).digest()` -/
class RawSha256 where
  digest : Bytes → Bytes

/-- No two byte strings share a digest. -/
structure RawSha256.CollisionFree [RawSha256] : Prop where
  inj : ∀ a b, digest a = digest b → a = b

/-- `hexdigest` is the digest in hexadecimal. -/
instance [RawSha256] : Sha256 := ⟨fun bytes => hexText (RawSha256.digest bytes)⟩

theorem RawSha256.CollisionFree.hex [RawSha256] (ideal : RawSha256.CollisionFree) :
    Sha256.CollisionFree :=
  ⟨fun _ _ same => ideal.inj _ _ (hexText_inj same)⟩

/-- `_extend_field` for one field after another. -/
def extendFields (fields : List Bytes) : Except Exn Bytes :=
  if ∃ field ∈ fields, 256 ^ 8 ≤ field.length then
    .error ⟨.overflow, "OverflowError", "int too big to convert"⟩
  else .ok (frames 8 fields)

/-- Fields are read back from what was written after a common beginning. -/
theorem extendFields_inj {xs ys : List Bytes} {material : Bytes} (hx : extendFields xs = .ok material)
    (hy : extendFields ys = .ok material) : xs = ys := by
  have short : ∀ {fields : List Bytes}, extendFields fields = .ok material →
      (∀ field ∈ fields, field.length < 256 ^ 8) ∧ frames 8 fields = material := by
    intro fields made
    rw [extendFields] at made
    split at made
    · cases made
    · rename_i within
      push Not at within
      exact ⟨within, Except.ok.inj made⟩
  obtain ⟨shortX, framesX⟩ := short hx
  obtain ⟨shortY, framesY⟩ := short hy
  exact frames_inj (by decide) shortX shortY (framesX.trans framesY.symm)

/-! ## Files -/

inductive FileKind where
  | regular | directory | symlink | other
deriving DecidableEq, Repr

/-- The fields of `os.stat_result` that are compared. `st_mode` is the kind with the permission bits,
`stat.S_IMODE(st_mode)`. -/
structure FileStat where
  device : Nat
  inode : Nat
  kind : FileKind
  permissions : Fin 4096
  links : Nat
  size : Nat
  modifiedNs : Int
  changedNs : Int
deriving DecidableEq

/-- `_is_single_link_regular` -/
def isSingleLinkRegular (value : FileStat) : Bool := value.kind = .regular && value.links = 1

/-- `_same_file_snapshot`, which compares every field. -/
def sameFileSnapshot (left right : FileStat) : Bool := right.kind = .regular && left = right

/-- What `path.lstat()` answers. -/
inductive Lstat where
  | found (value : FileStat)
  | notFound
  | failed

/-- How the walk to a missing file ends, which opens one component after another and follows no link. -/
inductive MissingWalk where
  | absent | rootUnopened | unsafeComponent | uninspectable | appeared
deriving DecidableEq

/-- What the calls on one path answer, in their order: `path.lstat()`, the walk where nothing is found,
`os.fstat` of the opened descriptor if it is opened, all that can be read from it, `os.fstat` again and
`path.lstat()` again. -/
structure FileCalls where
  before : Lstat
  missing : MissingWalk
  opened : Option FileStat
  content : Bytes
  after : FileStat
  visible : Option FileStat

/-- `_validate_missing_tracked_path` -/
def validateMissingTrackedPath : MissingWalk → Except Exn Unit
  | .absent => .ok ()
  | .rootUnopened =>
    .error (copilotRepositoryScanRejected "tracked repository root could not be opened safely")
  | .unsafeComponent =>
    .error (copilotRepositoryScanRejected "missing tracked path traverses an unsafe component")
  | .uninspectable =>
    .error (copilotRepositoryScanRejected "missing tracked path could not be inspected safely")
  | .appeared =>
    .error (copilotRepositoryChanged "tracked repository path appeared while its deletion was bound")

/-- `_read_descriptor` -/
def readDescriptor (content : Bytes) (maxBytes : Nat) : Except Exn Bytes :=
  if content.length > maxBytes then
    .error (copilotRepositoryScanRejected "untracked repository file exceeds its byte limit")
  else .ok content

/-- The part that `_tracked_file_state` and `_read_stable_untracked_file` share, from the size on. -/
def stableContent (file : String) (maxBytes : Nat) (before : FileStat) (calls : FileCalls) :
    Except Exn Bytes := do
  raiseIf (before.size > maxBytes)
    (copilotRepositoryScanRejected (file ++ " exceeds its byte limit"))
  match calls.opened with
  | none => .error (copilotRepositoryScanRejected (file ++ " could not be opened safely"))
  | some opened =>
    raiseIf (sameFileSnapshot before opened = false)
      (copilotRepositoryChanged (file ++ " changed before hashing"))
    let payload ← readDescriptor calls.content maxBytes
    match calls.visible with
    | none => .error (copilotRepositoryChanged (file ++ " changed after hashing"))
    | some visible =>
      raiseIf (sameFileSnapshot before calls.after = false ∨ sameFileSnapshot before visible = false)
        (copilotRepositoryChanged (file ++ " changed while hashing"))
      .ok payload

/-- What is seen of a tracked file. -/
inductive TrackedFile where
  | missing
  | regular (permissions : Fin 4096) (payload : Bytes)
deriving DecidableEq

def TrackedFile.byteCount : TrackedFile → Nat
  | missing => 0
  | regular _ payload => payload.length

/-- The checks of `_tracked_file_state`. -/
def trackedFile (calls : FileCalls) : Except Exn TrackedFile :=
  match calls.before with
  | .notFound => do
    validateMissingTrackedPath calls.missing
    .ok .missing
  | .failed => .error (copilotRepositoryScanRejected "tracked repository file is unreadable")
  | .found before => do
    raiseIf (isSingleLinkRegular before = false)
      (copilotRepositoryScanRejected
        "tracked repository entries must be single-link regular files")
    let payload ← stableContent "tracked repository file" MAX_TRACKED_FILE_BYTES before calls
    .ok (.regular before.permissions payload)

/-- `_read_stable_untracked_file` -/
def untrackedFile (calls : FileCalls) : Except Exn Bytes :=
  match calls.before with
  | .found before => do
    raiseIf (before.kind ≠ .regular)
      (copilotRepositoryScanRejected "untracked repository entry is not a regular file")
    stableContent "untracked repository file" MAX_UNTRACKED_FILE_BYTES before calls
  | _ => .error (copilotRepositoryScanRejected "untracked repository file is unreadable")

section
variable [RawSha256]

/-- The state of a tracked file that is hashed. -/
def TrackedFile.state : TrackedFile → Except Exn Bytes
  | missing => .ok (ascii "missing".toList)
  | regular permissions payload => do
    let fields ← extendFields [bigEndian 4 permissions, RawSha256.digest payload]
    .ok (ascii "regular".toList ++ fields)

theorem TrackedFile.state_inj (ideal : RawSha256.CollisionFree) {a b : TrackedFile} {state : Bytes}
    (ha : a.state = .ok state) (hb : b.state = .ok state) : a = b := by
  -- The two words differ in their first byte.
  have apart : ∀ fields, ascii "missing".toList ≠ ascii "regular".toList ++ fields := by
    intro fields same
    have heads : some (109 : UInt8) = some 114 := congrArg List.head? same
    exact absurd heads (by decide)
  cases a with
  | missing =>
    cases ha
    cases b with
    | missing => rfl
    | regular permissions payload =>
      obtain ⟨fields, -, done⟩ := of_bind_ok hb
      exact absurd (Except.ok.inj done).symm (apart fields)
  | regular permissions payload =>
    obtain ⟨fields, framed, done⟩ := of_bind_ok ha
    cases b with
    | missing =>
      cases hb
      exact absurd (Except.ok.inj done).symm (apart fields)
    | regular permissions' payload' =>
      obtain ⟨fields', framed', done'⟩ := of_bind_ok hb
      obtain rfl : fields = fields' :=
        List.append_cancel_left ((Except.ok.inj done).trans (Except.ok.inj done').symm)
      have parts := extendFields_inj framed framed'
      simp only [List.cons.injEq, and_true] at parts
      have bits := @bigEndian_inj 4 _ _ (permissions.2.trans (by decide))
        (permissions'.2.trans (by decide)) parts.1
      rw [Fin.ext bits, ideal.inj _ _ parts.2]

end

/-! ## Listings -/

/-- The lines of a listing under `-z`, each of which ends with a zero byte. -/
def splitListing (incomplete : Exn) (raw : Bytes) : Except Exn (List Bytes) :=
  if raw = [] then .ok []
  else if raw.getLast? = some NUL then .ok (raw.dropLast.splitOn NUL)
  else .error incomplete

/-- `Path(os.fsdecode(raw)).parts` of a relative path. -/
def components (raw : Bytes) : List Bytes :=
  (raw.splitOn SLASH).filter fun part => part ≠ [] ∧ part ≠ [46]

/-- `Path(os.fsdecode(raw)).as_posix()` of a relative path. -/
def normalized (raw : Bytes) : Bytes := List.intercalate [SLASH] (components raw)

/-- The path is absolute or leaves the root. -/
def leavesRoot (raw : Bytes) : Prop := raw.head? = some SLASH ∨ [46, 46] ∈ components raw

instance (raw : Bytes) : Decidable (leavesRoot raw) :=
  inferInstanceAs (Decidable (_ ∨ _))

def TAB : UInt8 := 9

/-- The name of a record of the index. -/
def recordName (record : Bytes) : Bytes := (record.dropWhile (· ≠ TAB)).tail

/-- The mode, the object and the stage of a record are in order. -/
def isRegularEntry (metadata : Bytes) : Bool :=
  match metadata.splitOn SPACE with
  | [mode, objectId, stage] =>
    (mode = ascii "100644".toList || mode = ascii "100755".toList) &&
      (objectId.length = 40 || objectId.length = 64) && objectId.all objectIdDigits.contains &&
      stage = ascii "0".toList
  | _ => false

/-- What `_tracked_worktree_state` accepts as a record, but for the names before it. -/
def isIndexRecord (record : Bytes) : Bool :=
  record.contains TAB && isRegularEntry (record.takeWhile (· ≠ TAB)) &&
    recordName record ≠ [] && (recordName record).length ≤ MAX_UNTRACKED_PATH_BYTES

/-- The loop of `_tracked_worktree_state`, with the names and the number of bytes so far. -/
def trackedWorktree (calls : Bytes → FileCalls) :
    List Bytes → List Bytes → Nat → Except Exn (List (Bytes × TrackedFile))
  | [], _, _ => .ok []
  | record :: records, observed, totalBytes => do
    raiseIf (isIndexRecord record = false ∨ recordName record ∈ observed)
      (copilotRepositoryScanRejected
        "repository index contains an unsupported or malformed entry")
    raiseIf (leavesRoot (recordName record))
      (copilotRepositoryScanRejected "tracked repository path is unsafe")
    let file ← trackedFile (calls (normalized (recordName record)))
    raiseIf (totalBytes + file.byteCount > MAX_TRACKED_TOTAL_BYTES)
      (copilotRepositoryScanRejected "tracked repository content exceeds its total byte limit")
    let files ← trackedWorktree calls records (recordName record :: observed)
      (totalBytes + file.byteCount)
    .ok ((recordName record, file) :: files)

/-- The loop of `_untracked_state`. The walk that opens a file follows no link, so that a file that is
opened is below the root. -/
def untrackedFiles (calls : Bytes → FileCalls) :
    List Bytes → List Bytes → Nat → Except Exn (List (Bytes × Bytes))
  | [], _, _ => .ok []
  | name :: names, observed, totalBytes => do
    raiseIf (name = [] ∨ name.length > MAX_UNTRACKED_PATH_BYTES ∨ name ∈ observed)
      (copilotRepositoryScanRejected "untracked repository path listing is malformed")
    raiseIf (leavesRoot name)
      (copilotRepositoryScanRejected "untracked repository path is unsafe")
    let payload ← untrackedFile (calls (normalized name))
    raiseIf (totalBytes + payload.length > MAX_UNTRACKED_TOTAL_BYTES)
      (copilotRepositoryScanRejected "untracked repository content exceeds its total byte limit")
    let files ← untrackedFiles calls names (name :: observed) (totalBytes + payload.length)
    .ok ((name, payload) :: files)

/-! ## Snapshots -/

/-- What Git answers to `rev-parse`, `ls-files --stage` and `ls-files --others` and what the file
system answers for a path, while one snapshot is taken. -/
structure Snapshot where
  head : Option Bytes
  index : Option Bytes
  others : Option Bytes
  calls : Bytes → FileCalls

/-- What a snapshot has seen. -/
structure Observed where
  headRevision : String
  indexState : Bytes
  tracked : List (Bytes × TrackedFile)
  untracked : List (Bytes × Bytes)
deriving DecidableEq

/-- `_parse_head_revision` -/
def parseHeadRevision (raw : Bytes) : Except Exn String :=
  let value := if raw.getLast? = some NEWLINE then raw.dropLast else raw
  if (value.length = 40 ∨ value.length = 64) ∧ value.all objectIdDigits.contains then
    .ok (decodeAscii value)
  else
    .error (copilotRepositoryScanRejected "repository HEAD is not one exact immutable object ID")

/-- What `_repository_state_snapshot` reads. -/
def Snapshot.observe (s : Snapshot) : Except Exn Observed := do
  let headOutput ← runGit s.head MAX_GIT_HEAD_BYTES
  let headRevision ← parseHeadRevision headOutput
  let indexState ← runGit s.index MAX_GIT_INDEX_BYTES
  let records ← splitListing
    (copilotRepositoryScanRejected "repository index listing is incomplete") indexState
  raiseIf (records.length > MAX_TRACKED_FILES)
    (copilotRepositoryScanRejected "tracked repository file count exceeds its limit")
  let tracked ← trackedWorktree s.calls records [] 0
  let others ← runGit s.others MAX_UNTRACKED_LIST_BYTES
  let names ← splitListing
    (copilotRepositoryScanRejected "untracked repository listing is incomplete") others
  raiseIf (names.length > MAX_UNTRACKED_FILES)
    (copilotRepositoryScanRejected "untracked repository file count exceeds its limit")
  let untracked ← untrackedFiles s.calls names [] 0
  .ok ⟨headRevision, indexState, tracked, untracked⟩

section
variable [RawSha256]

/-- The fields of the tracked files: each name before the file's state. -/
def trackedFields : List (Bytes × TrackedFile) → Except Exn (List Bytes)
  | [] => .ok []
  | (name, file) :: files => do
    let state ← file.state
    let fields ← trackedFields files
    .ok (name :: state :: fields)

/-- The fields of the untracked files: each name before the digest of the bytes. -/
def untrackedFields (files : List (Bytes × Bytes)) : List Bytes :=
  files.flatMap fun file => [file.1, RawSha256.digest file.2]

/-- The bytes that are hashed. -/
def Observed.material (seen : Observed) : Except Exn Bytes := do
  let fields ← trackedFields seen.tracked
  let tracked ← extendFields fields
  let untracked ← extendFields (untrackedFields seen.untracked)
  extendFields [utf8 seen.headRevision, seen.indexState, tracked, untracked]

/-- `_repository_state_snapshot` -/
def Snapshot.state (s : Snapshot) : Except Exn (Bytes × String) := do
  let seen ← s.observe
  let material ← seen.material
  .ok (material, seen.headRevision)

structure AdvisoryRepositoryState where
  digest : String
  headRevision : String
deriving DecidableEq

/-- `repository_state_binding`, over the two snapshots that it takes. -/
def repositoryStateBinding (first second : Snapshot) : Except Exn AdvisoryRepositoryState := do
  let one ← first.state
  let two ← second.state
  raiseIf (one ≠ two)
    (copilotRepositoryChanged "repository changed while advisory state was being bound")
  .ok ⟨Sha256.hexdigest one.1, one.2⟩

/-! ## What the digest determines -/

theorem trackedFields_inj (ideal : RawSha256.CollisionFree) :
    ∀ {a b : List (Bytes × TrackedFile)} {fields : List Bytes}, trackedFields a = .ok fields →
      trackedFields b = .ok fields → a = b
  | [], [], _, _, _ => rfl
  | [], (_, _) :: _, _, made, made' => by
    cases made
    obtain ⟨_, _, rest⟩ := of_bind_ok made'
    obtain ⟨_, _, done⟩ := of_bind_ok rest
    cases done
  | (_, _) :: _, [], _, made, made' => by
    cases made'
    obtain ⟨_, _, rest⟩ := of_bind_ok made
    obtain ⟨_, _, done⟩ := of_bind_ok rest
    cases done
  | (name, file) :: a, (name', file') :: b, fields, made, made' => by
    obtain ⟨state, here, rest⟩ := of_bind_ok made
    obtain ⟨others, below, done⟩ := of_bind_ok rest
    obtain ⟨state', here', rest'⟩ := of_bind_ok made'
    obtain ⟨others', below', done'⟩ := of_bind_ok rest'
    cases done
    simp only [Except.ok.injEq, List.cons.injEq] at done'
    obtain ⟨rfl, rfl, rfl⟩ := done'
    rw [file.state_inj ideal here here', trackedFields_inj ideal below below']

theorem untrackedFields_inj (ideal : RawSha256.CollisionFree) :
    ∀ {a b : List (Bytes × Bytes)}, untrackedFields a = untrackedFields b → a = b
  | [], [], _ => rfl
  | [], _ :: _, same => nomatch same
  | _ :: _, [], same => nomatch same
  | (name, payload) :: a, (name', payload') :: b, same => by
    simp only [untrackedFields, List.flatMap_cons, List.cons_append, List.nil_append,
      List.cons.injEq] at same
    obtain ⟨rfl, digests, rest⟩ := same
    rw [ideal.inj _ _ digests, untrackedFields_inj ideal rest]

/-- The hashed bytes determine what was seen. -/
theorem seen_of_material (ideal : RawSha256.CollisionFree) {a b : Observed} {material : Bytes}
    (ha : a.material = .ok material) (hb : b.material = .ok material) : a = b := by
  obtain ⟨fields, trackedA, restA⟩ := of_bind_ok ha
  obtain ⟨files, filesA, restA'⟩ := of_bind_ok restA
  obtain ⟨others, othersA, framedA⟩ := of_bind_ok restA'
  obtain ⟨fields', trackedB, restB⟩ := of_bind_ok hb
  obtain ⟨files', filesB, restB'⟩ := of_bind_ok restB
  obtain ⟨others', othersB, framedB⟩ := of_bind_ok restB'
  have parts := extendFields_inj framedA framedB
  simp only [List.cons.injEq, and_true] at parts
  obtain ⟨head, index, rfl, rfl⟩ := parts
  obtain rfl := extendFields_inj filesA filesB
  have untracked := untrackedFields_inj ideal (extendFields_inj othersA othersB)
  have tracked := trackedFields_inj ideal trackedA trackedB
  obtain ⟨_, _, _, _⟩ := a
  obtain ⟨_, _, _, _⟩ := b
  rw [Observed.mk.injEq]
  exact ⟨utf8_inj head, index, tracked, untracked⟩

/-- What a digest is of: both snapshots have seen the same. -/
theorem repositoryStateBinding_ok (ideal : RawSha256.CollisionFree) {first second : Snapshot}
    {state : AdvisoryRepositoryState} (bound : repositoryStateBinding first second = .ok state) :
    ∃ seen material, first.observe = .ok seen ∧ second.observe = .ok seen ∧
      seen.material = .ok material ∧ state = ⟨Sha256.hexdigest material, seen.headRevision⟩ := by
  obtain ⟨one, stateOne, rest⟩ := of_bind_ok bound
  obtain ⟨two, stateTwo, rest'⟩ := of_bind_ok rest
  obtain ⟨⟨⟩, agree, done⟩ := of_bind_ok rest'
  cases done
  obtain rfl : one = two := not_not.mp (raiseIf_ok agree)
  obtain ⟨seen, observed, more⟩ := of_bind_ok stateOne
  obtain ⟨material, made, done⟩ := of_bind_ok more
  cases done
  obtain ⟨seen', observed', more'⟩ := of_bind_ok stateTwo
  obtain ⟨material', made', done'⟩ := of_bind_ok more'
  obtain ⟨rfl, -⟩ := Prod.mk.inj (Except.ok.inj done')
  exact ⟨seen, _, observed, seen_of_material ideal made made' ▸ observed', made, rfl⟩

/-- Two bindings with one digest have seen the same. -/
theorem repositoryStateBinding_inj (ideal : RawSha256.CollisionFree)
    {first second first' second' : Snapshot} {state state' : AdvisoryRepositoryState}
    (bound : repositoryStateBinding first second = .ok state)
    (bound' : repositoryStateBinding first' second' = .ok state') (same : state.digest = state'.digest) :
    ∃ seen, first.observe = .ok seen ∧ second.observe = .ok seen ∧ first'.observe = .ok seen ∧
      second'.observe = .ok seen ∧ state = state' := by
  obtain ⟨seen, material, one, two, made, rfl⟩ := repositoryStateBinding_ok ideal bound
  obtain ⟨seen', material', one', two', made', rfl⟩ := repositoryStateBinding_ok ideal bound'
  obtain rfl := ideal.hex.inj _ _ same
  obtain rfl := seen_of_material ideal made made'
  exact ⟨seen, one, two, one', two', rfl⟩

end

/-! ## What a snapshot has seen -/

theorem trackedWorktree_ok {calls : Bytes → FileCalls} :
    ∀ {records observed : List Bytes} {totalBytes : Nat} {files : List (Bytes × TrackedFile)},
      trackedWorktree calls records observed totalBytes = .ok files →
      files.map Prod.fst = records.map recordName ∧
        ∀ file ∈ files, trackedFile (calls (normalized file.1)) = .ok file.2
  | [], _, _, files, seen => by
    cases seen
    exact ⟨rfl, nofun⟩
  | record :: records, observed, totalBytes, files, seen => by
    rw [trackedWorktree] at seen
    obtain ⟨_, _, rest⟩ := of_bind_ok seen
    obtain ⟨_, _, rest₂⟩ := of_bind_ok rest
    obtain ⟨file, here, rest₃⟩ := of_bind_ok rest₂
    obtain ⟨_, _, rest₄⟩ := of_bind_ok rest₃
    obtain ⟨others, below, done⟩ := of_bind_ok rest₄
    cases done
    obtain ⟨names, each⟩ := trackedWorktree_ok below
    exact ⟨by rw [List.map_cons, List.map_cons, names], List.forall_mem_cons.mpr ⟨here, each⟩⟩

theorem untrackedFiles_ok {calls : Bytes → FileCalls} :
    ∀ {names observed : List Bytes} {totalBytes : Nat} {files : List (Bytes × Bytes)},
      untrackedFiles calls names observed totalBytes = .ok files →
      files.map Prod.fst = names ∧
        ∀ file ∈ files, untrackedFile (calls (normalized file.1)) = .ok file.2
  | [], _, _, files, seen => by
    cases seen
    exact ⟨rfl, nofun⟩
  | name :: names, observed, totalBytes, files, seen => by
    rw [untrackedFiles] at seen
    obtain ⟨_, _, rest⟩ := of_bind_ok seen
    obtain ⟨_, _, rest₂⟩ := of_bind_ok rest
    obtain ⟨payload, here, rest₃⟩ := of_bind_ok rest₂
    obtain ⟨_, _, rest₄⟩ := of_bind_ok rest₃
    obtain ⟨others, below, done⟩ := of_bind_ok rest₄
    cases done
    obtain ⟨all, each⟩ := untrackedFiles_ok below
    exact ⟨by rw [List.map_cons, all], List.forall_mem_cons.mpr ⟨here, each⟩⟩

/-- The lines of a listing that is complete. -/
def listedLines (output : Option Bytes) : List Bytes :=
  if output.getD [] = [] then [] else (output.getD []).dropLast.splitOn NUL

/-- What a snapshot that is accepted has seen: the commit, the whole listing of the index, every file
that is in the index and every file that is not and that Git does not ignore. -/
structure Snapshot.Sees (s : Snapshot) (seen : Observed) : Prop where
  head : ∃ raw, s.head = some raw ∧ parseHeadRevision raw = .ok seen.headRevision
  index : s.index = some seen.indexState
  trackedNames : seen.tracked.map Prod.fst = (listedLines s.index).map recordName
  tracked : ∀ file ∈ seen.tracked, trackedFile (s.calls (normalized file.1)) = .ok file.2
  untrackedNames : seen.untracked.map Prod.fst = listedLines s.others
  untracked : ∀ file ∈ seen.untracked, untrackedFile (s.calls (normalized file.1)) = .ok file.2

theorem runGit_ok {output : Option Bytes} {maxBytes : Nat} {raw : Bytes}
    (ran : runGit output maxBytes = .ok raw) : output = some raw := by
  unfold runGit at ran
  split at ran
  · cases ran
  · split at ran
    · cases ran
    · rw [Except.ok.inj ran]

theorem splitListing_ok {incomplete : Exn} {raw : Bytes} {lines : List Bytes}
    (split : splitListing incomplete raw = .ok lines) : lines = listedLines (some raw) := by
  rw [splitListing] at split
  rw [listedLines, Option.getD_some]
  split_ifs at split with empty complete
  · rw [if_pos empty, Except.ok.inj split]
  · rw [if_neg empty, Except.ok.inj split]

theorem observe_ok {s : Snapshot} {seen : Observed} (observed : s.observe = .ok seen) :
    s.Sees seen := by
  rw [Snapshot.observe] at observed
  obtain ⟨headOutput, head, rest⟩ := of_bind_ok observed
  obtain ⟨headRevision, parsed, rest₂⟩ := of_bind_ok rest
  obtain ⟨indexState, index, rest₃⟩ := of_bind_ok rest₂
  obtain ⟨records, lines, rest₄⟩ := of_bind_ok rest₃
  obtain ⟨_, _, rest₅⟩ := of_bind_ok rest₄
  obtain ⟨tracked, files, rest₆⟩ := of_bind_ok rest₅
  obtain ⟨others, listed, rest₇⟩ := of_bind_ok rest₆
  obtain ⟨names, lines', rest₈⟩ := of_bind_ok rest₇
  obtain ⟨_, _, rest₉⟩ := of_bind_ok rest₈
  obtain ⟨untracked, files', done⟩ := of_bind_ok rest₉
  cases done
  obtain ⟨trackedNames, eachTracked⟩ := trackedWorktree_ok files
  obtain ⟨untrackedNames, eachUntracked⟩ := untrackedFiles_ok files'
  refine ⟨⟨headOutput, runGit_ok head, parsed⟩, runGit_ok index, ?_, eachTracked, ?_, eachUntracked⟩
  · rw [runGit_ok index, ← splitListing_ok lines]
    exact trackedNames
  · rw [runGit_ok listed, ← splitListing_ok lines']
    exact untrackedNames

end MasterAgent.Advisory
