import MasterAgent.Connectors.Utils
import MasterAgent.Retention.Manifest

/-!
# Publication of a new branch

`GitBranchPushConnector` pushes the checked-out branch to a remote where it does not exist yet, and
may delete it again. The existence test, the push and the read-back are requests of their own, and
other clients use the remote at the same time. The repository itself does not change meanwhile.
-/

namespace MasterAgent.GitRemote
open Base Client Connectors

/-! ## Commits and refs -/

/-- The name of a commit, one word. -/
structure CommitId where
  text : String
  nonempty : text.toList ≠ []
  word : ∀ c ∈ text.toList, isSpace c = false
deriving DecidableEq

/-- The commits with their ancestry, in which each is its own ancestor. -/
class CommitGraph where
  ancestor : CommitId → CommitId → Bool
  refl : ∀ commit, ancestor commit commit = true

/-- A ref as one client found it and left it. -/
structure Change where
  own : Bool
  branch : String
  found : Option CommitId
  left : Option CommitId
deriving DecidableEq

/-- The refs of a remote: those it began with, and what became of them, the newest change first. -/
structure Remote where
  initial : String → Option CommitId
  log : List Change

/-- The ref after some changes. -/
def refAfter (initial : String → Option CommitId) (log : List Change) (branch : String) :
    Option CommitId :=
  match log with
  | [] => initial branch
  | change :: rest =>
    if change.branch = branch then change.left else refAfter initial rest branch

def Remote.ref (remote : Remote) (branch : String) : Option CommitId :=
  refAfter remote.initial remote.log branch

def Remote.record (remote : Remote) (own : Bool) (branch : String) (left : Option CommitId) :
    Remote :=
  { remote with log := ⟨own, branch, remote.ref branch, left⟩ :: remote.log }

/-- The repository, as its commands show it. -/
structure Repository where
  checkedOut : String
  head : CommitId
  /-- `git status --porcelain` -/
  status : String
  remoteUrl : String → String

/-- The worktree has no change. -/
def Repository.Clean (repository : Repository) : Prop := strip repository.status = ""

/-! ## Requests -/

inductive Request where
  | repository (parameters : Json)
  | validateConfig
  | lockConfig
  | guardConfig
  | releaseConfig
  | showCurrentBranch
  | revParseHead
  | status
  | remoteGetUrl (remote : String)
  | lsRemote (url branch : String)
  | push (url branch commit : String)
  | pushDelete (url branch expected : String)

/-- The path of the repository, the output of a command, or nothing. -/
abbrev Request.Answer : Request → Type
  | .repository _ | .showCurrentBranch | .revParseHead | .status | .remoteGetUrl _ | .lsRemote .. =>
    String
  | _ => Unit

abbrev GitClient (A : Type) := Client Request Request.Answer Exn A

def request (c : Request) : GitClient c.Answer := ask c

/-- The output of `git ls-remote` for one branch. -/
def listing (branch : String) : Option CommitId → String
  | none => ""
  | some commit => commit.text ++ "\t" ++ "refs/heads/" ++ branch ++ "\n"

/-- What a request that reads may answer. -/
def Reads (repository : Repository) (remote : Remote) : (c : Request) → c.Answer → Prop
  | .showCurrentBranch, out => strip out = repository.checkedOut
  | .revParseHead, out => strip out = repository.head.text
  | .status, out => out = repository.status
  | .remoteGetUrl name, out => out = repository.remoteUrl name
  | .lsRemote _ branch, out => out = listing branch (remote.ref branch)
  | _, _ => True

section
variable [CommitGraph]

/-- What a request that writes may do to the remote, whatever is answered. -/
def Writes (remote : Remote) : Request → Remote → Prop
  | .push _ branch commit, after => ∃ pushed : CommitId, pushed.text = commit ∧
      (∀ found, remote.ref branch = some found → CommitGraph.ancestor found pushed = true) ∧
      after = remote.record true branch (some pushed)
  | .pushDelete _ branch expected, after => ∃ found : CommitId, found.text = expected ∧
      remote.ref branch = some found ∧ after = remote.record true branch none
  | _, _ => False

def Request.isWrite : Request → Bool
  | .push .. | .pushDelete .. => true
  | _ => false

/-- A push without force creates a ref or moves it to a descendant, and a deletion with a lease
compares the ref first. Any request may be refused, and the answer of a write may be lost. -/
def serve (repository : Repository) (c : Request) (remote : Remote) (r : Except Exn c.Answer)
    (after : Remote) : Prop :=
  (after = remote ∧ match r with
    | .ok out => c.isWrite = false ∧ Reads repository remote c out
    | .error _ => True) ∨ Writes remote c after

/-- Another client creates, moves or deletes a ref. -/
def others (remote after : Remote) : Prop :=
  ∃ branch left, after = remote.record false branch left

def hosting (repository : Repository) :
    Shared Request (fun c => Except Exn c.Answer) Remote :=
  ⟨serve repository, others⟩

end

/-! ## The connector -/

structure GitBranchPushConnector where
  branchPrefix : String
  allowedRemotes : List String
  allowFileRemotes : Bool

section
variable [Host]

def hasText (text part : String) : Bool := decide (part.toList <:+: text.toList)

def isAsciiAlnum (c : Char) : Bool :=
  ('a' ≤ c && c ≤ 'z') || ('A' ≤ c && c ≤ 'Z') || ('0' ≤ c && c ≤ '9')

/-- `_BRANCH_RE` in full. -/
def isBranchName (branch : String) : Bool :=
  branch.toList.head?.any isAsciiAlnum && branch.length ≤ 200 &&
    branch.toList.all fun c => isAsciiAlnum c || c == '.' || c == '_' || c == '/' || c == '-'

/-- `_validate_branch` -/
def validateBranch (connector : GitBranchPushConnector) (branch : String) : Except Exn Unit :=
  if !isBranchName branch || !startsWith branch connector.branchPrefix ||
      Retention.endsWith branch "/" || Retention.endsWith branch ".lock" ||
      startsWith branch "-" || hasText branch ".." || hasText branch "//" ||
      hasText branch "@\x7b" then
    .error (connectorError "branch is outside the approved branch namespace")
  else .ok ()

/-- `[A-Za-z0-9._-]+@[A-Za-z0-9.-]+:[^\s]+` in full. -/
def isScpUrl (url : String) : Bool :=
  let isUser := fun c => isAsciiAlnum c || c == '.' || c == '_' || c == '-'
  let isHost := fun c => isAsciiAlnum c || c == '.' || c == '-'
  let user := url.toList.takeWhile isUser
  let host := (url.toList.dropWhile isUser).tail.takeWhile isHost
  let path := ((url.toList.dropWhile isUser).tail.dropWhile isHost)
  user != [] && (url.toList.dropWhile isUser).head? == some '@' && host != [] &&
    path.head? == some ':' && path.tail != [] && path.tail.all fun c => !isSpace c

/-- `validate_remote_url` -/
def validateRemoteUrl (value : String) (allowFile : Bool) : Except Exn String := do
  let rendered := strip value
  if rendered.isEmpty || rendered.toList.any (fun c => c.toNat == 10 || c.toNat == 13 ||
      c.toNat == 0) then
    .error (connectorError "Git remote URL is invalid")
  else if Host.isAbsolute rendered && allowFile then .ok rendered
  else
    let parsed ← Host.urlsplit rendered
    if parsed.scheme == "file" && allowFile then
      if parsed.username.any (!·.isEmpty) || parsed.password.any (!·.isEmpty) ||
          !Host.isAbsolute parsed.path then
        .error (connectorError "Git file remote URL is invalid")
      else .ok rendered
    else if parsed.scheme == "https" || parsed.scheme == "ssh" then
      if !parsed.hostname.any (!·.isEmpty) || parsed.password.isSome ||
          (parsed.scheme == "https" && parsed.username.isSome) || !parsed.query.isEmpty ||
          !parsed.fragment.isEmpty then
        .error (connectorError "Git network remote URL is invalid")
      else .ok rendered
    else if isScpUrl rendered then .ok rendered
    else .error (connectorError "Git remote URL scheme is not approved")

/-- `result.split()[0] if result else None` of the stripped output. -/
def firstWord (out : String) : Option String :=
  let stripped := strip out
  if stripped.isEmpty then none
  else some (String.ofList (stripped.toList.takeWhile fun c => !isSpace c))

/-- `_remote_hash` -/
def remoteHash (url branch : String) : GitClient (Option String) := do
  return firstWord (← request (.lsRemote url branch))

/-- `with self._sandbox.lock_repository_config(repository): …` -/
def withConfigLock {A : Type} (body : GitClient A) : GitClient A := do
  request .lockConfig
  let result ← tryCatch body fun raised => do
    request .releaseConfig
    lift (.error raised)
  request .releaseConfig
  return result

variable (connector : GitBranchPushConnector)

/-- `_validate` -/
def validateAction (action : AgentAction) : Except Exn Unit :=
  if action.target.system ≠ "bitbucket" then
    .error (connectorError "Git publication connector received another system")
  else if action.capability ≠ "bitbucket.branch.push" then
    .error (connectorError
      ("unsupported Git publication capability: " ++ action.capability))
  else if action.risk ≠ .reversibleWrite then
    .error (connectorError "branch publication must use reversible_write risk")
  else if !action.requiresApproval then
    .error (connectorError "branch publication requires explicit approval")
  else .ok ()

/-- `str(data.get(key, default)).strip()` -/
def trimmedText (data : Fields) (key default : String) : String := strip (getStr (.obj data) key default)

/-- `_branch` -/
def branchOf (parameters : Fields) : Except Exn String := do
  let branch := trimmedText parameters "branch" ""
  validateBranch connector branch
  return branch

/-- `_approved_remote_url` -/
def approvedRemoteUrl (action : AgentAction) (remote : String) : GitClient String := do
  let approved ← lift (validateRemoteUrl (getStr (.obj action.parameters) "remote_url" "")
    connector.allowFileRemotes)
  let out ← request (.remoteGetUrl remote)
  let observed ← lift (validateRemoteUrl (strip out) connector.allowFileRemotes)
  ensure (observed == approved) (versionConflictError "Git remote URL changed since approval")
  return approved

/-- What the local checks of `execute` establish: the commit and the URL. -/
def checkLocal (action : AgentAction) (branch remote : String) : GitClient (String × String) := do
  request .validateConfig
  let currentBranch ← request .showCurrentBranch
  ensure (strip currentBranch == branch)
    (connectorError "only the current checked-out branch may be pushed")
  let commit ← request .revParseHead
  ensure (action.target.expectedVersion.any fun version => !version.isEmpty)
    (connectorError "branch publication requires an approved commit hash")
  ensure (action.target.expectedVersion == some (strip commit))
    (versionConflictError ("repository HEAD changed since approval: expected " ++
      action.target.expectedVersion.getD "" ++ ", observed " ++ strip commit))
  let status ← request .status
  ensure (strip status == "")
    (connectorError "repository worktree must be clean before publication")
  let url ← approvedRemoteUrl connector action remote
  return (strip commit, url)

/-- The publication: the branch must be absent, and is read back after the push. -/
def publish (url branch commit : String) : GitClient (Option String) := do
  request .guardConfig
  let existing ← remoteHash url branch
  request .guardConfig
  ensure existing.isNone
    (versionConflictError "remote branch already exists; overwrite is prohibited")
  request (.push url branch commit)
  request .guardConfig
  let observed ← remoteHash url branch
  request .guardConfig
  return observed

def deleteExactNewBranch (branch : String) : CompensationDescriptor where
  kind := "delete_exact_new_branch"
  mode := .inProcess
  capability := none
  parameters := []
  expectedVersion := none
  targetResourceId := some branch
  reason := some ("remote deletion requires the originating connector's " ++
    "allowlisted repository boundary")
  schema := "master-agent/compensation@1"
  valid := by
    simp only [CompensationDescriptorFields.checks]
    decide

/-- `execute` -/
def execute (action : AgentAction) : GitClient ExecutionResult := do
  lift (validateAction action)
  let repository ← request (.repository (.obj action.parameters))
  request .validateConfig
  let branch ← lift (branchOf connector action.parameters)
  let remote := trimmedText action.parameters "remote" "origin"
  ensure (connector.allowedRemotes.contains remote) (connectorError "Git remote is not allowlisted")
  let (commit, url, observed) ← withConfigLock do
    let (commit, url) ← checkLocal connector action branch remote
    let observed ← publish url branch commit
    return (commit, url, observed)
  ensure (observed == some commit)
    (connectorError "remote branch does not point to the approved commit")
  let after := [("repository_path", .str repository), ("remote", .str remote),
    ("remote_url", .str url), ("branch", .str branch), ("commit", .str commit),
    ("created_new_ref", .bool true)]
  return succeeded action [("remote_commit", .null)] after ("git:" ++ remote ++ "/" ++ branch)
    "new review branch pushed without force" (some (deleteExactNewBranch branch))

/-- The fields of `result.after` that a rollback uses. -/
structure Published where
  remote : String
  url : String
  branch : String
  commit : String

/-- What `compensate` and `verify_compensation` read of a result. -/
def readPublished (data : Fields) : Except Exn Published := do
  let remote := getStr (.obj data) "remote" ""
  let url ← validateRemoteUrl (getStr (.obj data) "remote_url" "") connector.allowFileRemotes
  return ⟨remote, url, getStr (.obj data) "branch" "", getStr (.obj data) "commit" ""⟩

/-- The deletion with a lease, and what is raised where it was refused. -/
def deleteLeased (published : Published) : GitClient Unit :=
  tryCatch (request (.pushDelete published.url published.branch published.commit)) fun raised =>
    if raised.kind.isConnectorError then do
      request .guardConfig
      let raced ← remoteHash published.url published.branch
      request .guardConfig
      ensure (raced == some published.commit) (versionConflictError
        "remote branch changed during compensation; atomic deletion was refused")
      lift (.error raised)
    else lift (.error raised)

/-- The body of `compensate` under the lock: the branch as it is read afterwards. -/
def deleteExact (published : Published) : GitClient (Option String) := do
  request .validateConfig
  request .guardConfig
  let observed ← remoteHash published.url published.branch
  request .guardConfig
  ensure (observed.any fun hash => !hash.isEmpty)
    (versionConflictError "remote branch is already absent")
  ensure (observed == some published.commit) (versionConflictError
    "remote branch advanced after publication; automatic deletion is prohibited")
  deleteLeased published
  request .guardConfig
  let remaining ← remoteHash published.url published.branch
  request .guardConfig
  return remaining

/-- `compensate` -/
def compensate (action : AgentAction) (result : ExecutionResult) : GitClient ExecutionResult := do
  let data := result.after.getD []
  let repository ← request (.repository (.obj data))
  request .validateConfig
  let published ← lift (readPublished connector data)
  ensure (connector.allowedRemotes.contains published.remote)
    (connectorError "rollback remote is not allowlisted")
  lift (validateBranch connector published.branch)
  let remaining ← withConfigLock (deleteExact published)
  let after := [("repository_path", .str repository), ("remote", .str published.remote),
    ("remote_url", .str published.url), ("branch", .str published.branch),
    ("commit", optStr remaining), ("deleted", .bool remaining.isNone)]
  return succeeded action data after ("git:" ++ published.remote ++ "/" ++ published.branch)
    "exact new remote branch deleted" none

/-- `verify_compensation` -/
def verifyCompensation (action : AgentAction) (compensation : ExecutionResult) :
    GitClient VerificationResult := do
  let data := compensation.after.getD []
  let _ ← request (.repository (.obj data))
  request .validateConfig
  let published ← lift (readPublished connector data)
  let observed ← withConfigLock do
    request .validateConfig
    request .guardConfig
    let observed ← remoteHash published.url published.branch
    request .guardConfig
    return observed
  return ⟨action.actionId, observed.isNone, some [("remote", .str published.remote),
    ("branch", .str published.branch), ("commit", optStr observed)],
    if observed.isNone then "verified remote branch deletion"
    else "remote branch still exists after compensation"⟩

end

end MasterAgent.GitRemote
