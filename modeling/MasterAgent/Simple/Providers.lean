import MasterAgent.Simple.Pages

/-!
# Writes of the simple providers

`Providers.create_pull_request` and `Providers.comment_issue`: both look through all pages for what
an earlier call may have written, and write when they have not found it.

Results:

1. `writes_once`: what such a call has sent, and what it raises after a write;
2. `discovery_before_write`: traversals are bounded and complete, and come before a write.
-/

namespace MasterAgent.Simple
open Base Base.Effect

section
variable [ProviderLibrary]
open ProviderLibrary

/-! ## Values -/

/-- `data.get(key, default)` -/
def getMember (data : Json) (key : String) (default : Json) : Except Raised Json :=
  match data with
  | .obj _ => .ok (member data key default)
  | _ => .error .attributeError

/-- `text.removeprefix(…)` -/
def removePrefix (start : String) : Json → Except Raised Json
  | .str s =>
      .ok (.str (if start.toList <+: s.toList then String.ofList (s.toList.drop start.length) else s))
  | _ => .error .attributeError

/-- `text.isdigit()` -/
def isDigits (text : String) : Bool := text != "" && text.toList.all isDigit

/-- `text.rstrip()` -/
def rstrip (text : String) : String :=
  String.ofList (text.toList.reverse.dropWhile isSpace).reverse

def emptyObject : Json := Json.mkObj []

namespace Providers

/-! ## Pull requests -/

def repositoryChar (c : Char) : Bool := c.isAlphanum || c == '_' || c == '~' || c == '.' || c == '-'

def repositoryPart (part : List Char) : Bool :=
  part != [] && part.all repositoryChar && part != ['.'] && part != ['.', '.']

/-- `_repository` -/
def repositoryOf (repository : String) : Except Raised (String × String) :=
  match repository.toList.splitOn '/' with
  | [owner, repo] =>
      if repositoryPart owner ∧ repositoryPart repo then
        .ok (String.ofList owner, String.ofList repo)
      else .error (providerError "Use workspace/repository or PROJECT/repository.")
  | _ => .error (providerError "Use workspace/repository or PROJECT/repository.")

/-- `_pr_path` -/
def prPath (self : Providers) (repository : String) : Except Raised String := do
  let (owner, repo) ← repositoryOf repository
  let cloud ← self.cloud "bitbucket"
  .ok (if cloud then "repositories/" ++ owner ++ "/" ++ repo ++ "/pullrequests"
    else "rest/api/1.0/projects/" ++ owner ++ "/repos/" ++ repo ++ "/pull-requests")

/-- `upper()` of a text of ASCII characters. -/
def upper (text : String) : String := String.ofList (text.toList.map Char.toUpper)

/-- `_same_repository` -/
def sameRepository (self : Providers) (actual : Json) (requested : String) :
    Except Raised Bool := do
  let cloud ← self.cloud "bitbucket"
  if cloud then .ok (actual = .str requested)
  else match actual with
    | .str actual => do
        let (actualOwner, actualRepo) ← repositoryOf actual
        let (requestedOwner, requestedRepo) ← repositoryOf requested
        .ok (upper actualOwner == upper requestedOwner && actualRepo == requestedRepo)
    | _ => .error .attributeError

/-- A normalized pull request. -/
structure PullRequest where
  id : Json
  url : String
  title : Json
  state : Json
  sourceBranch : Json
  targetBranch : Json
  commit : Json
  repository : String
  sourceRepository : Json
  draft : Option Bool
  draftRequested : Bool

/-- The members of a pull request of the two kinds of server: the branches, the commit, the
repository of the source and the address. -/
structure Ends where
  sourceBranch : Json
  targetBranch : Json
  commit : Json
  sourceRepository : Json
  url : String

def cloudEnds (self : Providers) (data number : Json) (repository owner repo : String) :
    Except Raised Ends := do
  let source ← getMember data "source" emptyObject
  let target ← getMember data "destination" emptyObject
  let sourceBranch ← getMember (← getMember source "branch" emptyObject) "name" (.str "")
  let targetBranch ← getMember (← getMember target "branch" emptyObject) "name" (.str "")
  let commit ← getMember (← getMember source "commit" emptyObject) "hash" (.str "")
  let sourceRepository ←
    getMember (← getMember source "repository" emptyObject) "full_name" (.str repository)
  let base ← self.base "bitbucket"
  .ok ⟨sourceBranch, targetBranch, commit, sourceRepository,
    base ++ "/" ++ owner ++ "/" ++ repo ++ "/pull-requests/" ++ str number⟩

def serverEnds (self : Providers) (data number : Json) (owner repo : String) :
    Except Raised Ends := do
  let source ← getMember data "fromRef" emptyObject
  let target ← getMember data "toRef" emptyObject
  let sourceBranch ← removePrefix "refs/heads/" (← getMember source "id" (.str ""))
  let targetBranch ← removePrefix "refs/heads/" (← getMember target "id" (.str ""))
  let commit ← getMember source "latestCommit" (.str "")
  let sourceRepo ← getMember source "repository" emptyObject
  let project ← getMember (← getMember sourceRepo "project" emptyObject) "key" (.str owner)
  let slug ← getMember sourceRepo "slug" (.str repo)
  let base ← self.base "bitbucket"
  .ok ⟨sourceBranch, targetBranch, commit, .str (str project ++ "/" ++ str slug),
    base ++ "/projects/" ++ owner ++ "/repos/" ++ repo ++ "/pull-requests/" ++ str number⟩

def endsOf (self : Providers) (data number : Json) (repository owner repo : String) :
    Except Raised Ends := do
  let cloud ← self.cloud "bitbucket"
  if cloud then self.cloudEnds data number repository owner repo
  else self.serverEnds data number owner repo

/-- `_normalize_pr` -/
def normalizePr (self : Providers) (data : Json) (repository : String) :
    Except Raised PullRequest := do
  let (owner, repo) ← repositoryOf repository
  let number ← getMember data "id" .null
  if isDigits (str number) = false then
    .error (providerError "Provider returned a pull request without a numeric ID.")
  else do
    let ends ← self.endsOf data number repository owner repo
    .ok
      { id := number
        url := ends.url
        title := member data "title" (.str "")
        state := member data "state" (.str "UNKNOWN")
        sourceBranch := ends.sourceBranch
        targetBranch := ends.targetBranch
        commit := ends.commit
        repository := repository
        sourceRepository := ends.sourceRepository
        draft := match member data "draft" .null with
          | .bool draft => some draft
          | _ => none
        draftRequested := false }

/-- The pull request is for these branches. -/
def matchesPair (self : Providers) (repository source target : String) (pr : PullRequest) :
    Except Raised Bool :=
  if pr.sourceBranch = .str source ∧ pr.targetBranch = .str target then
    self.sameRepository pr.sourceRepository repository
  else .ok false

/-- The parameters of the listing. -/
def prQuery (cloud : Bool) (source target : String) : String :=
  if cloud then urlencode [("state", ["OPEN"]), ("pagelen", ["100"]),
    ("q", ["source.branch.name = " ++ quoted source ++ " AND destination.branch.name = " ++
      quoted target])]
  else urlencode [("state", ["OPEN"]), ("limit", ["100"]), ("at", ["refs/heads/" ++ source]),
    ("direction", ["OUTGOING"])]

def prPayload (cloud : Bool) (owner repo source target title description : String) : Json :=
  if cloud then Json.mkObj [("title", .str title), ("description", .str description),
    ("source", Json.mkObj [("branch", Json.mkObj [("name", .str source)])]),
    ("destination", Json.mkObj [("branch", Json.mkObj [("name", .str target)])]),
    ("close_source_branch", .bool false), ("draft", .bool true)]
  else
    let repositoryData :=
      Json.mkObj [("slug", .str repo), ("project", Json.mkObj [("key", .str owner)])]
    Json.mkObj [("title", .str title), ("description", .str description),
      ("fromRef", Json.mkObj [("id", .str ("refs/heads/" ++ source)),
        ("repository", repositoryData)]),
      ("toRef", Json.mkObj [("id", .str ("refs/heads/" ++ target)),
        ("repository", repositoryData)]), ("draft", .bool true)]

/-! ## Writing once -/

/-- A search through all pages, and a write when it has found nothing. -/
structure Write (R : Type) where
  name : String
  listing : String
  field : String
  /-- What an item is taken for. -/
  found : Json → Except Raised (Option R)
  path : String
  payload : Json
  /-- What the response is taken for. -/
  accept : Json → Except Raised R
  incomplete : String

variable {R : Type}

def Write.consumer (write : Write R) : Consumer Unit R := fun _ item => do
  match ← write.found item with
  | some result => .ok (.inr result)
  | none => .ok (.inl ())

/-- `except (ProviderError, AttributeError, TypeError)` -/
def Write.received (write : Write R) (response : Json) : Except Raised R :=
  match write.accept response with
  | .ok result => .ok result
  | .error .valueError => .error .valueError
  | .error _ => .error (.providerError write.incomplete true)

def Write.send (write : Write R) (self : Providers) (network : Network) : Session R := do
  let response ← self.request network write.name .post write.path (some write.payload)
  liftExcept (write.received response)

def Write.finish (write : Write R) (self : Providers) (network : Network) :
    Unit ⊕ R → Session R
  | .inr result => pure result
  | .inl _ => write.send self network

def Write.run (write : Write R) (self : Providers) (network : Network) : Session R := do
  let searched ← pages self network write.name write.listing write.field write.consumer ()
  write.finish self network searched

def foundPr (self : Providers) (repository source target : String) (existing : Json) :
    Except Raised (Option PullRequest) := do
  let normalized ← self.normalizePr existing repository
  let same ← self.matchesPair repository source target normalized
  .ok (if same then some normalized else none)

def acceptPr (self : Providers) (repository source target : String) (data : Json) :
    Except Raised PullRequest := do
  let normalized ← self.normalizePr data repository
  let same ← self.matchesPair repository source target normalized
  if same = false then
    .error (providerError "Created pull request did not match the requested branch pair.")
  else .ok { normalized with draftRequested := true }

/-- What `create_pull_request` searches and writes. -/
def prWrite (self : Providers) (repository source target title description : String) :
    Except Raised (Write PullRequest) := do
  let (owner, repo) ← repositoryOf repository
  if source = "" ∨ target = "" ∨ source = target ∨ isBlank title then
    .error (providerError "Provide a title and distinct source and target branches.")
  else do
    let path ← self.prPath repository
    let cloud ← self.cloud "bitbucket"
    .ok
      { name := "bitbucket"
        listing := path ++ "?" ++ prQuery cloud source target
        field := "values"
        found := self.foundPr repository source target
        path := path
        payload := prPayload cloud owner repo source target title description
        accept := self.acceptPr repository source target
        incomplete := "Pull request creation returned an incomplete result; inspect Bitbucket before retrying." }

/-- `create_pull_request` -/
def createPullRequest (self : Providers) (network : Network)
    (repository source target title description : String) : Session PullRequest := do
  let write ← liftExcept (self.prWrite repository source target title description)
  write.run self network

/-! ## Comments -/

def letter (c : Char) : Bool := c.isAlpha

/-- `_issue_path` -/
def issuePath (self : Providers) (key : String) : Except Raised String :=
  match key.toList.splitOn '-' with
  | [project, number] =>
      if project.head?.any letter ∧ project.all (fun c => c.isAlphanum || c == '_') ∧
          number ≠ [] ∧ number.all isDecimal then do
        let cloud ← self.cloud "jira"
        .ok ("rest/api/" ++ (if cloud then "3" else "2") ++ "/issue/" ++ key)
      else .error (providerError "Use a Jira issue key such as PROJ-123.")
  | _ => .error (providerError "Use a Jira issue key such as PROJ-123.")

/-- `value.get("type") in {…}`; a list or dictionary cannot be looked up. -/
def endsLine (fields : Fields) : Except Raised Bool :=
  match member (.obj fields) "type" .null with
  | .str kind => .ok (kind ∈ ["paragraph", "heading", "listItem", "hardBreak"])
  | .arr _ | .obj _ => .error .typeError
  | _ => .ok false

mutual
/-- `_text` -/
def text : Json → Except Raised String
  | .str s => .ok s
  | .arr items => textItems items
  | .obj fields => do
      let content ← textContent fields
      let line ← endsLine fields
      .ok (str (member (.obj fields) "text" (.str "")) ++ content ++ (if line then "\n" else ""))
  | _ => .ok ""
def textItems : List Json → Except Raised String
  | [] => .ok ""
  | item :: rest => do
      let first ← text item
      let others ← textItems rest
      .ok (first ++ others)
/-- `_text(value.get("content", []))` -/
def textContent : Fields → Except Raised String
  | [] => .ok ""
  | (key, value) :: rest => if key = "content" then text value else textContent rest
end

/-- A comment with a link to it. -/
structure Comment where
  id : String
  url : String

/-- `_comment_result` -/
def commentResult (self : Providers) (key : String) (data : Json) : Except Raised Comment := do
  let id ← getMember data "id" (.str "")
  let number := str id
  if isDigits number = false then
    .error (providerError "Provider returned a comment without a numeric ID.")
  else do
    let base ← self.base "jira"
    .ok ⟨number, base ++ "/browse/" ++ key ++ "?focusedCommentId=" ++ number ++ "#comment-" ++ number⟩

def markerChar (c : Char) : Bool :=
  c.isAlphanum || c == '_' || c == '.' || c == ':' || c == '-'

def stampOf (marker : String) : String := "[masteragent:" ++ marker ++ "]"

def foundComment (self : Providers) (key marker : String) (comment : Json) :
    Except Raised (Option Comment) := do
  let body ← getMember comment "body" .null
  let written ← text body
  if (stampOf marker).toList <:+: written.toList then do
    let result ← self.commentResult key comment
    .ok (some result)
  else .ok none

/-- The lines of a comment as a document. -/
def commentBody (cloud : Bool) (content : String) : Json :=
  if cloud then
    let line (text : List Char) : Json :=
      Json.mkObj [("type", .str "paragraph"), ("content", .arr (if text = [] then []
        else [Json.mkObj [("type", .str "text"), ("text", .str (String.ofList text))]]))]
    Json.mkObj [("type", .str "doc"), ("version", .int 1),
      ("content", .arr ((content.toList.splitOn '\n').map line))]
  else .str content

/-- What `comment_issue` searches and writes. -/
def commentWrite (self : Providers) (key body marker : String) : Except Raised (Write Comment) :=
  if marker = "" ∨ 120 < marker.length ∨ marker.toList.all markerChar = false then
    .error (providerError
      "Use a nonempty task marker with letters, digits, dots, dashes, colons or underscores.")
  else if isBlank body then .error (providerError "Comment body must not be empty.")
  else do
    let issue ← self.issuePath key
    let cloud ← self.cloud "jira"
    .ok
      { name := "jira"
        listing := issue ++ "/comment?maxResults=100"
        field := "comments"
        found := self.foundComment key marker
        path := issue ++ "/comment"
        payload :=
          Json.mkObj [("body", commentBody cloud (rstrip body ++ "\n\n" ++ stampOf marker))]
        accept := self.commentResult key
        incomplete := "Comment delivery returned an incomplete result; inspect Jira before retrying." }

/-- `comment_issue` -/
def commentIssue (self : Providers) (network : Network) (key body marker : String) :
    Session Comment := do
  let write ← liftExcept (self.commentWrite key body marker)
  write.run self network

/-! ## Exceptions that are caught -/

/-- What it raises is caught after a write. -/
def Caught {A : Type} (result : Except Raised A) : Prop := result ≠ .error .valueError

section
variable {A B : Type} {self : Providers}

omit [ProviderLibrary] in
theorem caught_bind {result : Except Raised A} {next_ : A → Except Raised B}
    (first : Caught result) (rest : ∀ a, Caught (next_ a)) : Caught (result >>= next_) := by
  cases result with
  | ok a => exact rest a
  | error raised => exact fun same => first (Except.error.inj same ▸ rfl)

omit [ProviderLibrary] in
theorem caught_ok {a : A} : Caught (.ok a) := nofun

omit [ProviderLibrary] in
theorem caught_provider {message : String} :
    Caught (.error (providerError message) : Except Raised A) := nofun

omit [ProviderLibrary] in
theorem caught_getMember {data default : Json} {key : String} :
    Caught (getMember data key default) := by
  cases data <;> nofun

omit [ProviderLibrary] in
theorem caught_removePrefix {start : String} {value : Json} :
    Caught (removePrefix start value) := by
  cases value <;> nofun

omit [ProviderLibrary] in
theorem caught_repositoryOf {repository : String} : Caught (repositoryOf repository) := by
  unfold repositoryOf
  split
  · split <;> nofun
  · nofun

omit [ProviderLibrary] in
theorem caught_settings {name : String} : Caught (self.settings name) := by
  unfold settings
  split
  · nofun
  · split
    · nofun
    · split <;> nofun

omit [ProviderLibrary] in
theorem caught_cloud {name : String} : Caught (self.cloud name) :=
  caught_bind caught_settings fun _ => caught_ok

theorem caught_base {name : String} (other : name ≠ "confluence") : Caught (self.base name) := by
  refine caught_bind caught_settings fun section_ => caught_bind ?_ fun _ => ?_
  · unfold validateUrl
    split <;> nofun
  · refine caught_bind caught_cloud fun cloud => ?_
    split
    · nofun
    · rw [if_neg fun both => other both.1]
      exact caught_ok

omit [ProviderLibrary] in
theorem caught_sameRepository {actual : Json} {requested : String} :
    Caught (self.sameRepository actual requested) := by
  refine caught_bind caught_cloud fun cloud => ?_
  split
  · exact caught_ok
  · cases actual with
    | str actual =>
        exact caught_bind caught_repositoryOf fun _ =>
          caught_bind caught_repositoryOf fun _ => caught_ok
    | _ => nofun

theorem caught_endsOf {data number : Json} {repository owner repo : String} :
    Caught (self.endsOf data number repository owner repo) := by
  have base : Caught (self.base "bitbucket") := caught_base (by decide)
  refine caught_bind caught_cloud fun cloud => ?_
  split
  · unfold cloudEnds
    iterate 10 refine caught_bind caught_getMember fun _ => ?_
    exact caught_bind base fun _ => caught_ok
  · unfold serverEnds
    iterate 2 refine caught_bind caught_getMember fun _ => ?_
    iterate 2
      refine caught_bind caught_getMember fun _ => ?_
      refine caught_bind caught_removePrefix fun _ => ?_
    iterate 5 refine caught_bind caught_getMember fun _ => ?_
    exact caught_bind base fun _ => caught_ok

theorem caught_normalizePr {data : Json} {repository : String} :
    Caught (self.normalizePr data repository) := by
  refine caught_bind caught_repositoryOf fun (owner, repo) => ?_
  refine caught_bind caught_getMember fun number => ?_
  split
  · exact caught_provider
  · exact caught_bind caught_endsOf fun _ => caught_ok

theorem caught_acceptPr {repository source target : String} {data : Json} :
    Caught (self.acceptPr repository source target data) := by
  refine caught_bind caught_normalizePr fun pr => caught_bind ?_ fun same => ?_
  · unfold matchesPair
    split
    · exact caught_sameRepository
    · exact caught_ok
  · split
    · exact caught_provider
    · exact caught_ok

theorem caught_commentResult {key : String} {data : Json} :
    Caught (self.commentResult key data) := by
  refine caught_bind caught_getMember fun id => ?_
  dsimp only
  split
  · exact caught_provider
  · exact caught_bind (caught_base (by decide)) fun _ => caught_ok

end

/-! ## What a write has sent -/

section
variable {self : Providers} {network : Network} {R : Type} {write : Write R} {history : History}

/-- The search that the call has made has gone through all pages, from the same attempts, and found
nothing. -/
def Searched (self : Providers) (network : Network) (write : Write R) (history h : History) : Prop :=
  ∃ items, pages self network write.name write.listing write.field collect [] history =
      (h, .ok (.inl items)) ∧ ∀ item ∈ items, write.found item = .ok none

def Write.attempt (write : Write R) : Attempt := ⟨.post, write.path, some write.payload, 0⟩

/-- The call has only read, or it has searched and sent its one write last. -/
def Sent (self : Providers) (network : Network) (write : Write R) (history h : History)
    (cause : Prop) : Prop :=
  Reads MAX_PAGES history h ∨ ∃ searched, Reads MAX_PAGES history searched ∧
    Searched self network write history searched ∧ h = searched ++ [write.attempt] ∧ cause

omit [ProviderLibrary] in
theorem received_error {response : Json} {raised : Raised} (caught : Caught (write.accept response))
    (failed : write.received response = .error raised) : raised.uncertain = true := by
  unfold Write.received at failed
  split at failed
  · cases failed
  · next value => exact absurd value caught
  · cases failed
    rfl

theorem wp_send (caught : ∀ response, Caught (write.accept response)) :
    wp (write.send self network) (fun _ h => h = history ++ [write.attempt])
      (fun raised h => h = history ∨ (h = history ++ [write.attempt] ∧
        (raised.uncertain = true ∨ Refused network h))) (fun _ => False) history := by
  unfold Write.send Providers.request
  refine wp_bind.mpr (wp_bind.mpr (wp_liftExcept.mpr ⟨fun _ _ => ?_, fun _ _ => .inl rfl⟩))
  refine wp_bind.mpr (wp_liftExcept.mpr ⟨fun _ _ => ?_, fun _ _ => .inl rfl⟩)
  refine wp_bind.mpr (wp_liftExcept.mpr ⟨fun _ _ => ?_, fun _ _ => .inl rfl⟩)
  refine wp_bind.mpr (wp_liftExcept.mpr ⟨fun _ _ => ?_, fun _ _ => .inl rfl⟩)
  refine wp_mono wp_request_post ?_ (fun _ _ => id) fun _ => id
  rintro response _ rfl
  exact wp_liftExcept.mpr ⟨fun _ _ => rfl,
    fun raised failed => .inr ⟨rfl, .inl (received_error (caught response) failed)⟩⟩

omit [ProviderLibrary] in
theorem found_none {item : Json} (went : write.consumer () item = .ok (.inl ())) :
    write.found item = .ok none := by
  obtain ⟨result, found, rest⟩ := of_bind_ok went
  cases result with
  | some result => cases rest
  | none => exact found

theorem writes_once (caught : ∀ response, Caught (write.accept response)) :
    wp (write.run self network) (fun _ h => Sent self network write history h True)
      (fun raised h => Sent self network write history h
        (raised.uncertain = true ∨ Refused network h)) (fun _ => False) history := by
  have traversed : wp (pages self network write.name write.listing write.field write.consumer ())
    _ _ _ history := wp_pages
  unfold Write.run
  refine wp_bind.mpr ?_
  unfold wp at traversed ⊢
  rcases ended : pages self network write.name write.listing write.field write.consumer () history
    with ⟨h, searched | raised | _⟩
  all_goals rw [ended] at traversed
  · cases searched with
    | inr found => exact .inl traversed
    | inl u =>
        obtain ⟨items, all, nothing⟩ := pages_discovered ended
        have searched : Searched self network write history h :=
          ⟨items, all, fun item listed => found_none (nothing item listed)⟩
        refine wp_mono (wp_send caught) ?_ ?_ fun _ => id
        · rintro _ _ rfl
          exact .inr ⟨h, traversed, searched, rfl, trivial⟩
        · rintro raised _ (rfl | ⟨rfl, cause⟩)
          · exact .inl traversed
          · exact .inr ⟨h, traversed, searched, rfl, cause⟩
  · exact .inl traversed
  · exact traversed

theorem accept_prWrite {repository source target title description : String}
    {write : Write PullRequest}
    (asked : self.prWrite repository source target title description = .ok write) :
    write.accept = self.acceptPr repository source target := by
  obtain ⟨⟨owner, repo⟩, -, asked⟩ := of_bind_ok asked
  dsimp only at asked
  split at asked
  · cases asked
  · obtain ⟨path, -, asked⟩ := of_bind_ok asked
    obtain ⟨cloud, -, asked⟩ := of_bind_ok asked
    cases asked
    rfl

theorem accept_commentWrite {key body marker : String} {write : Write Comment}
    (asked : self.commentWrite key body marker = .ok write) :
    write.accept = self.commentResult key := by
  unfold commentWrite at asked
  split at asked
  · cases asked
  split at asked
  · cases asked
  · obtain ⟨issue, -, asked⟩ := of_bind_ok asked
    obtain ⟨cloud, -, asked⟩ := of_bind_ok asked
    cases asked
    rfl

/-- The call refuses its arguments before it sends anything, or it searches and writes. -/
def WritesOnce (self : Providers) (network : Network) (history : History)
    (asked : Except Raised (Write R)) (call : Session R) : Prop :=
  wp call (fun _ h => ∃ write, asked = .ok write ∧ Sent self network write history h True)
    (fun raised h => (asked = .error raised ∧ h = history) ∨ ∃ write, asked = .ok write ∧
      Sent self network write history h (raised.uncertain = true ∨ Refused network h))
    (fun _ => False) history

theorem writesOnce_of {asked : Except Raised (Write R)}
    (caught : ∀ write, asked = .ok write → ∀ response, Caught (write.accept response)) :
    WritesOnce self network history asked
      (liftExcept asked >>= fun write => write.run self network) := by
  refine wp_bind.mpr (wp_liftExcept.mpr ⟨fun write accepted => ?_, fun _ failed => ?_⟩)
  · refine wp_mono (writes_once (caught write accepted)) ?_ ?_ fun _ => id
    · exact fun _ _ sent => ⟨write, accepted, sent⟩
    · exact fun _ _ sent => .inr ⟨write, accepted, sent⟩
  · exact .inl ⟨failed, rfl⟩

end

/-! ## Discovery and writes -/

/-- A traversal that returns has yielded these items in their order. -/
def Yields (self : Providers) (network : Network) (name path field : String) (items : List Json)
    (history : History) : Prop :=
  wp (pages self network name path field collect []) (fun r _ => r = .inl items)
    (fun _ _ => True) (fun _ => False) history

/-- Traversals are bounded, complete against a server that pages in one of the three ways, where
`startAt` and `total` count for comments only, and come before the one write of a call. -/
theorem discovery_before_write (self : Providers) (network : Network) (history : History) :
    (∀ name path field (A R : Type) (body : Consumer A R) a,
      Reads MAX_PAGES history (pages self network name path field body a history).1 ∧
        (pages self network name path field body a history).2 ≠ .crashed) ∧
    (∀ name path field page, Serves network page →
      (∀ remaining, LinkServer page field remaining →
        Yields self network name path field (remaining path) history) ∧
      (∀ remaining reads, OffsetServer page path field remaining reads →
        Yields self network name path field (remaining 0) history) ∧
      ∀ items reads, TotalServer page path field items reads → field = "comments" →
        Yields self network name path field items history) ∧
    (∀ repository source target title description, WritesOnce self network history
      (self.prWrite repository source target title description)
      (self.createPullRequest network repository source target title description)) ∧
    ∀ key body marker, WritesOnce self network history (self.commentWrite key body marker)
      (self.commentIssue network key body marker) := by
  refine ⟨fun name path field A R body a => ?_, fun name path field page serves => ⟨?_, ?_, ?_⟩,
    fun repository source target title description => ?_, fun key body marker => ?_⟩
  · have traversed : wp (pages self network name path field body a) _ _ _ history := wp_pages
    unfold wp at traversed
    rcases ended : pages self network name path field body a history with ⟨h, _ | _ | _⟩
    all_goals rw [ended] at traversed
    · exact ⟨traversed, nofun⟩
    · exact ⟨traversed, nofun⟩
    · exact traversed.elim
  · exact fun remaining server => pages_complete serves server.continues trivial
  · intro remaining reads server
    have complete : wp (pages self network name path field collect []) _ _ _ history :=
      pages_complete serves server.continues trivial
    rwa [server.first] at complete
  · intro items reads server comments
    have complete : wp (pages self network name path field collect []) _ _ _ history :=
      pages_complete serves (server.continues comments) (by rw [server.first]; exact Nat.zero_le _)
    rwa [server.first, List.drop_zero] at complete
  · refine writesOnce_of fun write asked response => ?_
    rw [accept_prWrite asked]
    exact caught_acceptPr
  · refine writesOnce_of fun write asked response => ?_
    rw [accept_commentWrite asked]
    exact caught_commentResult

end Providers

end

/-! ## A list that ends after its first page -/

namespace Samples

def firstItem : Json := .obj [("id", .int 1)]
def secondItem : Json := .obj [("id", .int 2)]

def countedItems : List Json := [firstItem, secondItem]

/-- One item a page. -/
def countedPage (startAt : Nat) : Json :=
  .obj [("startAt", .int startAt), ("total", .int 2),
    ("values", .arr ((countedItems.drop startAt).take 1))]

def bytesOf (text : String) : List UInt8 := text.toList.map fun c => c.toNat.toUInt8

def countedBytes (startAt : Nat) : List UInt8 := bytesOf (Json.dumps (countedPage startAt))

/-- The library on the addresses of the sample: `builds`, its continuations and their URLs. -/
@[reducible] def sampleLibrary : ProviderLibrary where
  urlsplit url :=
    if url = "https://bitbucket.example" then
      some ⟨"https", some "bitbucket.example", none, none, some none, "", "", ""⟩
    else if url = "https://bitbucket.example/builds" then
      some ⟨"https", some "bitbucket.example", none, none, some none, "/builds", "", ""⟩
    else some ⟨"", none, none, none, some none, "builds", "", ""⟩
  unquote := id
  urljoin base path := base ++ path
  parse_qs _ := []
  urlencode query := String.intercalate "&" (query.map fun entry =>
    entry.1 ++ "=" ++ String.intercalate "" entry.2)
  urlunsplit path query := path ++ "?" ++ query
  loads raw :=
    if raw = countedBytes 0 then some (countedPage 0)
    else if raw = countedBytes 1 then some (countedPage 1)
    else if raw = countedBytes 2 then some (countedPage 2) else none
  quoted := id
  repr _ := ""
  int _ := .error .typeError
  isDigit := Char.isDigit
  isDecimal := Char.isDigit

/-- The `startAt` of an address. -/
def startOf (url : String) : Nat :=
  if url = "builds?startAt=1" then 1 else if url = "builds?startAt=2" then 2 else 0

def countedNetwork : Network := fun history =>
  match history.getLast? with
  | some attempt => .body (countedBytes (startOf attempt.path))
  | none => .failed

def sampleProviders : Providers where
  config name := if name = "bitbucket" then some ⟨"https://bitbucket.example", "server"⟩ else none
  connect _ := .ok ()

theorem startOf_le (url : String) : startOf url ≤ 2 := by
  unfold startOf
  split_ifs <;> decide

theorem decode_counted : ∀ startAt ≤ 2,
    @decode sampleLibrary true (countedBytes startAt) = .ok (countedPage startAt) := by
  decide +kernel

theorem counted_serves :
    @Serves sampleLibrary countedNetwork fun url => countedPage (startOf url) := by
  rintro path value _ ⟨before, attempt, rfl, -, rfl, raw, answered, decoded⟩
  unfold countedNetwork at answered
  rw [List.getLast?_concat] at answered
  cases answered
  rw [decode_counted _ (startOf_le _)] at decoded
  exact (Except.ok.inj decoded).symm

theorem counted_server : @TotalServer sampleLibrary (fun url => countedPage (startOf url)) "builds"
    "values" countedItems startOf := by
  refine @TotalServer.mk sampleLibrary _ _ _ _ _ (by decide) ?_ fun url => ?_
  · intro offset url within continued
    have few : offset ≤ 2 := within
    have known : ∀ offset : Nat, offset ≤ 2 → ∃ url, @withParameter sampleLibrary "builds" "startAt"
        (toString (offset : Int)) = .ok url ∧ startOf url = offset := by
      intro offset few
      interval_cases offset
      · exact ⟨"builds?startAt=0", by decide +kernel, by decide +kernel⟩
      · exact ⟨"builds?startAt=1", by decide +kernel, by decide +kernel⟩
      · exact ⟨"builds?startAt=2", by decide +kernel, by decide +kernel⟩
    obtain ⟨url', same, reads⟩ := known offset few
    rw [continued] at same
    cases same
    exact reads
  · refine ⟨_, rfl, rfl, rfl, rfl, rfl, List.take_prefix _ _, fun more => ?_⟩
    intro none_
    have := congrArg List.length none_
    rw [List.length_take, List.length_drop] at this
    have : startOf url < countedItems.length := more
    simp only [List.length_nil] at *
    omega

end Samples

theorem counted_builds_incomplete :
    ¬∀ (_library : ProviderLibrary) (self : Providers) (network : Network) (history : History)
      (name path field : String) (page : String → Json) (items : List Json) (reads : String → Nat),
      Serves network page → TotalServer page path field items reads →
        self.Yields network name path field items history := by
  intro claimed
  have yields := claimed Samples.sampleLibrary Samples.sampleProviders Samples.countedNetwork []
    "bitbucket" "builds" "values" _ _ _ Samples.counted_serves Samples.counted_server
  unfold Providers.Yields wp at yields
  have stopped : (@pages Samples.sampleLibrary _ _ Samples.sampleProviders Samples.countedNetwork
      "bitbucket" "builds" "values" collect [] []).2 = .ok (.inl [Samples.firstItem]) := by
    decide +kernel
  rcases ended : @pages Samples.sampleLibrary _ _ Samples.sampleProviders Samples.countedNetwork
    "bitbucket" "builds" "values" collect [] [] with ⟨h, r | _ | _⟩
  all_goals rw [ended] at yields stopped
  · cases stopped
    have all : (.inl [Samples.firstItem] : List Json ⊕ Empty) = .inl Samples.countedItems := yields
    exact absurd all (by decide)
  · cases stopped
  · cases stopped

end MasterAgent.Simple
