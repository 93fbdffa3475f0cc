import Mathlib.Data.List.TakeWhile
import MasterAgent.Connectors.GitRemote

/-!
# Publication creates, and its rollback deletes what it created

Other clients act between any two requests. As long as none of them points the branch at the
approved commit or at one of its ancestors, a publication only creates a ref, and the rollback only
deletes the ref that the publication created.

Results:

1. `firstWord_listing`: the output of `git ls-remote` is read as what it says;
2. `execute_spec`, `compensate_spec`, `verifyCompensation_spec`: each call on its own;
3. `publication_exact`: the three calls in one life;
4. `ancestor_moved`: a branch that appears at an ancestor is moved.
-/

namespace MasterAgent.GitRemote
open Base Client Connectors

/-! ## Reading a listing -/

theorem strip_word {word rest : List Char} (nonempty : word ≠ [])
    (plain : ∀ c ∈ word, isSpace c = false) {tab mark : Char} (marked : mark ∈ rest)
    (visible : isSpace mark = false) :
    ∃ kept, strip (String.ofList (word ++ tab :: rest)) = String.ofList (word ++ tab :: kept) := by
  have front : (word ++ tab :: rest).dropWhile isSpace = word ++ tab :: rest := by
    cases word with
    | nil => exact absurd rfl nonempty
    | cons c cs =>
      rw [List.cons_append, List.dropWhile_cons_of_neg]
      rw [plain c List.mem_cons_self]
      exact Bool.false_ne_true
  have left : (rest.reverse.dropWhile isSpace).isEmpty = false := by
    by_contra empty
    rw [Bool.not_eq_false, List.isEmpty_iff, List.dropWhile_eq_nil_iff] at empty
    exact Bool.false_ne_true (visible.symm.trans (empty mark (List.mem_reverse.mpr marked)))
  refine ⟨(rest.reverse.dropWhile isSpace).reverse, ?_⟩
  unfold strip
  rw [String.toList_ofList, front, List.reverse_append, List.reverse_cons, List.append_assoc,
    List.dropWhile_append, left]
  simp

/-- The output of `git ls-remote` is read as what it says. -/
theorem firstWord_listing (branch : String) (ref : Option CommitId) :
    firstWord (listing branch ref) = ref.map CommitId.text := by
  cases ref with
  | none => rfl
  | some commit =>
    have whole : listing branch (some commit) = String.ofList (commit.text.toList ++
        Char.ofNat 9 :: ("refs/heads/".toList ++ branch.toList ++ [Char.ofNat 10])) := by
      apply String.toList_injective
      simp [listing]
    obtain ⟨kept, stripped⟩ := strip_word commit.nonempty commit.word
      (List.mem_append_left _ (List.mem_append_left _ (by decide : '/' ∈ "refs/heads/".toList)))
      (by decide)
    have first : (commit.text.toList ++ Char.ofNat 9 :: kept).takeWhile (fun c => !isSpace c) =
        commit.text.toList := by
      rw [List.takeWhile_append_of_pos]
      · simp [(by decide : isSpace (Char.ofNat 9) = true)]
      · intro c listed
        rw [commit.word c listed]
        rfl
    have nonempty : (String.ofList (commit.text.toList ++ Char.ofNat 9 :: kept)).isEmpty = false := by
      rw [String.isEmpty_eq_false_iff]
      intro empty
      have nothing := congrArg String.toList empty
      simp at nothing
    unfold firstWord
    dsimp only
    rw [whole, stripped, nonempty, if_neg Bool.false_ne_true, String.toList_ofList, first,
      String.ofList_toList]
    rfl

/-! ## What lasts -/

section
variable [CommitGraph]

/-- The changes since a world are as `I` asks. -/
def Since (start : Remote) (I : List Change → Prop) (remote : Remote) : Prop :=
  ∃ changes, remote.initial = start.initial ∧ remote.log = changes ++ start.log ∧ I changes

/-- What the changes of other clients do not touch. -/
def Stable (I : List Change → Prop) : Prop :=
  ∀ change changes, change.own = false → I changes → I (change :: changes)

variable {start remote after : Remote} {I : List Change → Prop} {repository : Repository}

omit [CommitGraph] in
theorem Since.mono {J : List Change → Prop} (since : Since start I remote)
    (wider : ∀ changes, I changes → J changes) : Since start J remote := by
  obtain ⟨changes, initial, log, holds⟩ := since
  exact ⟨changes, initial, log, wider changes holds⟩

omit [CommitGraph] in
theorem Since.record {J : List Change → Prop} {own : Bool} {branch : String}
    {left : Option CommitId} (since : Since start I remote)
    (next : ∀ changes, remote.initial = start.initial → remote.log = changes ++ start.log →
      I changes → J (⟨own, branch, remote.ref branch, left⟩ :: changes)) :
    Since start J (remote.record own branch left) := by
  obtain ⟨changes, initial, log, holds⟩ := since
  refine ⟨_, initial, ?_, next changes initial log holds⟩
  show _ :: remote.log = _
  rw [log]
  rfl

theorem Since.elapses (stable : Stable I) (elapsed : (hosting repository).Elapses remote after)
    (since : Since start I remote) : Since start I after := by
  refine Shared.Elapses.invariant ?_ elapsed since
  rintro w _ holds ⟨branch, left, rfl⟩
  exact holds.record fun changes _ _ => stable _ changes rfl

theorem isWrite_of_writes {c : Request} (writes : Writes remote c after) : c.isWrite = true := by
  cases c
  case push | pushDelete => rfl
  all_goals exact writes.elim

variable {c : Request} {Q : c.Answer → Remote → Prop} {X : Exn → Remote → Prop}

/-- A request that reads leaves the remote as the others left it. -/
theorem wp_read (reads : c.isWrite = false) (stable : Stable I) (since : Since start I remote)
    (returns : ∀ out w, Since start I w → Reads repository w c out → Q out w)
    (raises : ∀ e w, Since start I w → X e w) :
    wp (hosting repository) (request c) Q X remote := by
  refine wp_ask.mpr fun w elapsed r after served => ?_
  have now := since.elapses stable elapsed
  rcases served with ⟨rfl, answered⟩ | writes
  · cases r with
    | ok out => exact returns out after now answered.2
    | error e => exact raises e after now
  · exact absurd (isWrite_of_writes writes) (reads ▸ Bool.false_ne_true)

/-- A request that writes is refused, or writes. -/
theorem wp_write {J : List Change → Prop} (isWrite : c.isWrite = true) (stable : Stable I)
    (since : Since start I remote) (refused : ∀ e w, Since start I w → X e w)
    (writes : ∀ w after, Since start I w → Writes w c after → Since start J after)
    (returns : ∀ out w, Since start J w → Q out w) (raises : ∀ e w, Since start J w → X e w) :
    wp (hosting repository) (request c) Q X remote := by
  refine wp_ask.mpr fun w elapsed r after served => ?_
  have now := since.elapses stable elapsed
  rcases served with ⟨rfl, answered⟩ | written
  · cases r with
    | ok out => exact absurd (answered.1.symm.trans isWrite) Bool.false_ne_true
    | error e => exact refused e after now
  · have done := writes w after now written
    cases r with
    | ok out => exact returns out after done
    | error e => exact raises e after done

end

section
variable [CommitGraph] {repository : Repository} {start remote : Remote} {A : Type}

/-- The lock does not change what its body ends with. -/
theorem wp_withConfigLock {body : GitClient A} {I K : List Change → Prop}
    {J : A → List Change → Prop} (stableI : Stable I) (stableJ : ∀ a, Stable (J a))
    (stableK : Stable K) (initial : ∀ changes, I changes → K changes)
    (weaker : ∀ a changes, J a changes → K changes) (since : Since start I remote)
    (pre : ∀ w, Since start I w →
      wp (hosting repository) body (fun a => Since start (J a)) (fun _ => Since start K) w) :
    wp (hosting repository) (withConfigLock body) (fun a => Since start (J a))
      (fun _ => Since start K) remote := by
  refine wp_bind.mpr (wp_read rfl stableI since ?_ fun _ w now => now.mono initial)
  intro _ w now _
  refine wp_bind.mpr (wp_tryCatch.mpr (wp_mono (pre w now) ?_ ?_))
  · intro a w done
    refine wp_bind.mpr (wp_read rfl (stableJ a) done ?_ fun _ w now => now.mono (weaker a))
    exact fun _ w now _ => wp_pure.mpr now
  · intro e w failed
    refine wp_bind.mpr (wp_read rfl stableK failed ?_ fun _ w now => now)
    exact fun _ w now _ => wp_lift.mpr now

/-- The branch is read as it is. -/
theorem wp_remoteHash {url branch : String} {I : List Change → Prop}
    {Q : Option String → Remote → Prop} {X : Exn → Remote → Prop} (stable : Stable I)
    (since : Since start I remote)
    (returns : ∀ w, Since start I w → Q ((w.ref branch).map CommitId.text) w)
    (raises : ∀ e w, Since start I w → X e w) :
    wp (hosting repository) (remoteHash url branch) Q X remote := by
  refine wp_bind.mpr (wp_read rfl stable since ?_ raises)
  intro out w now read
  have shown : out = listing branch (w.ref branch) := read
  rw [shown, firstWord_listing]
  exact wp_pure.mpr (returns w now)

end

/-! ## The changes of a publication -/

section
variable [CommitGraph]

def Others (changes : List Change) : Prop := ∀ change ∈ changes, change.own = false

/-- No other client points the branch at the commit or at one of its ancestors. -/
def Tame (branch : String) (commit : CommitId) (changes : List Change) : Prop :=
  ∀ change ∈ changes, change.own = false → change.branch = branch →
    ∀ left, change.left = some left → CommitGraph.ancestor left commit = false

/-- The branch does not point at the commit or at one of its ancestors. -/
def Clear (start : Remote) (branch : String) (commit : CommitId) (changes : List Change) : Prop :=
  Others changes ∧ (Tame branch commit changes → ∀ found,
    refAfter start.initial (changes ++ start.log) branch = some found →
      CommitGraph.ancestor found commit = false)

/-- Every change of the connector creates the branch. -/
def OnlyCreates (branch : String) (commit : CommitId) (changes : List Change) : Prop :=
  Tame branch commit changes → ∀ change ∈ changes, change.own = true →
    change = ⟨true, branch, none, some commit⟩

/-- … and there is one. -/
def Creates (branch : String) (commit : CommitId) (changes : List Change) : Prop :=
  OnlyCreates branch commit changes ∧ ∃ change ∈ changes, change.own = true

variable {start : Remote} {branch : String} {commit : CommitId} {changes : List Change}

theorem Tame.of_cons {change : Change} (tame : Tame branch commit (change :: changes)) :
    Tame branch commit changes := fun other listed => tame other (List.mem_cons_of_mem _ listed)

omit [CommitGraph] in
theorem stable_others : Stable Others := fun _ _ other all =>
  List.forall_mem_cons.mpr ⟨other, all⟩

theorem stable_clear : Stable (Clear start branch commit) := by
  rintro change changes other ⟨all, ahead⟩
  refine ⟨stable_others change changes other all, fun tame found held => ?_⟩
  rw [List.cons_append, refAfter] at held
  split at held
  · next here => exact tame change List.mem_cons_self other here found held
  · exact ahead tame.of_cons found held

theorem stable_onlyCreates : Stable (OnlyCreates branch commit) := by
  intro _ changes other creates tame
  refine List.forall_mem_cons.mpr ⟨fun own => ?_, creates tame.of_cons⟩
  exact absurd (own.symm.trans other) Bool.noConfusion

theorem stable_creates : Stable (Creates branch commit) := by
  rintro change changes other ⟨creates, own, listed, isOwn⟩
  exact ⟨stable_onlyCreates change changes other creates, own, List.mem_cons_of_mem _ listed, isOwn⟩

theorem onlyCreates_of_others (others : Others changes) : OnlyCreates branch commit changes :=
  fun _ change listed own => absurd (own.symm.trans (others change listed)) Bool.noConfusion

omit [CommitGraph] in
theorem CommitId.ext_text {a b : CommitId} (same : a.text = b.text) : a = b := by
  cases a
  cases b
  cases same
  rfl

/-- A push creates the branch where it does not point at an ancestor. -/
theorem push_creates {w after : Remote} {url : String} (clear : Since start (Clear start branch commit) w)
    (pushed : Writes w (.push url branch commit.text) after) :
    Since start (Creates branch commit) after := by
  obtain ⟨target, same, fits, rfl⟩ := pushed
  obtain rfl := CommitId.ext_text same
  refine clear.record fun changes initial log holds => ⟨fun tame => ?_, _, List.mem_cons_self, rfl⟩
  refine List.forall_mem_cons.mpr ⟨fun _ => ?_, onlyCreates_of_others holds.1 tame.of_cons⟩
  have absent : w.ref branch = none := by
    cases held : w.ref branch with
    | none => rfl
    | some found =>
      have apart := holds.2 tame.of_cons found (by rw [← log, ← initial]; exact held)
      exact absurd ((fits found held).symm.trans apart) Bool.noConfusion
  rw [absent]

end

/-! ## Publication -/

section
variable [Host] [CommitGraph] {repository : Repository} {start remote : Remote}
  {connector : GitBranchPushConnector} {branch : String}

/-- What the local checks establish. -/
structure LocallyChecked (repository : Repository) (action : AgentAction) (branch : String)
    (commit : String) : Prop where
  head : commit = repository.head.text
  approved : action.target.expectedVersion = some commit
  checkedOut : repository.checkedOut = branch
  clean : repository.Clean

theorem wp_approvedRemoteUrl {action : AgentAction} {name : String}
    (since : Since start Others remote) :
    wp (hosting repository) (approvedRemoteUrl connector action name)
      (fun _ => Since start Others) (fun _ => Since start Others) remote := by
  unfold approvedRemoteUrl
  generalize validateRemoteUrl (getStr (.obj action.parameters) "remote_url" "")
    connector.allowFileRemotes = first
  refine wp_bind.mpr (wp_lift.mpr ?_)
  cases first with
  | error e => exact since
  | ok approved =>
    refine wp_bind.mpr (wp_read rfl stable_others since (fun out w now _ => ?_) fun _ _ now => now)
    generalize validateRemoteUrl (strip out) connector.allowFileRemotes = second
    refine wp_bind.mpr (wp_lift.mpr ?_)
    cases second with
    | error e => exact now
    | ok observed =>
      exact wp_bind.mpr (wp_ensure (fun _ => wp_pure.mpr now) fun _ => now)

theorem wp_checkLocal {action : AgentAction} {name : String} (since : Since start Others remote) :
    wp (hosting repository) (checkLocal connector action branch name)
      (fun out => Since start fun changes => LocallyChecked repository action branch out.1 ∧
        Others changes) (fun _ => Since start Others) remote := by
  have raises : ∀ (e : Exn) w, Since start Others w → Since start Others w := fun _ _ now => now
  unfold checkLocal
  refine wp_bind.mpr (wp_read rfl stable_others since (fun _ w now _ => ?_) raises)
  refine wp_bind.mpr (wp_read rfl stable_others now (fun currentBranch w now shown => ?_) raises)
  refine wp_bind.mpr (wp_ensure (fun onBranch => ?_) fun _ => now)
  refine wp_bind.mpr (wp_read rfl stable_others now (fun head w now parsed => ?_) raises)
  refine wp_bind.mpr (wp_ensure (fun _ => ?_) fun _ => now)
  refine wp_bind.mpr (wp_ensure (fun approved => ?_) fun _ => now)
  refine wp_bind.mpr (wp_read rfl stable_others now (fun status w now same => ?_) raises)
  refine wp_bind.mpr (wp_ensure (fun clean => ?_) fun _ => now)
  have checked : LocallyChecked repository action branch (strip head) := by
    refine ⟨parsed, beq_iff_eq.mp approved, ?_, ?_⟩
    · exact (show strip currentBranch = repository.checkedOut from shown).symm.trans
        (beq_iff_eq.mp onBranch)
    · obtain rfl : status = repository.status := same
      exact beq_iff_eq.mp clean
  refine wp_bind.mpr (wp_mono (wp_approvedRemoteUrl now) (fun url w now => ?_) raises)
  exact wp_pure.mpr (now.mono fun _ others => ⟨checked, others⟩)

omit [Host] in
theorem wp_publish {url : String} {commit : CommitId} (since : Since start Others remote) :
    wp (hosting repository) (publish url branch commit.text)
      (fun _ => Since start (Creates branch commit)) (fun _ => Since start (OnlyCreates branch commit))
      remote := by
  have early : ∀ (e : Exn) w, Since start Others w → Since start (OnlyCreates branch commit) w :=
    fun _ _ now => now.mono fun _ => onlyCreates_of_others
  have middle : ∀ (e : Exn) w, Since start (Clear start branch commit) w →
      Since start (OnlyCreates branch commit) w :=
    fun _ _ now => now.mono fun _ clear => onlyCreates_of_others clear.1
  have late : ∀ (e : Exn) w, Since start (Creates branch commit) w →
      Since start (OnlyCreates branch commit) w := fun _ _ now => now.mono fun _ => And.left
  refine wp_bind.mpr (wp_read rfl stable_others since (fun _ w now _ => ?_) early)
  refine wp_bind.mpr (wp_remoteHash stable_others now
    (fun w now => ?_) early)
  -- the branch is read; nothing is known of it unless it was absent
  cases absent : w.ref branch with
  | some found =>
    refine wp_bind.mpr (wp_read rfl stable_others now (fun _ w now _ => ?_) early)
    exact wp_bind.mpr (wp_ensure (fun none => nomatch none) fun _ => now.mono fun _ => onlyCreates_of_others)
  | none =>
    have clear : Since start (Clear start branch commit) w := by
      obtain ⟨changes, initial, log, others⟩ := now
      refine ⟨changes, initial, log, others, fun _ found held => ?_⟩
      rw [← log, ← initial] at held
      cases absent.symm.trans held
    refine wp_bind.mpr (wp_read rfl stable_clear clear (fun _ w now _ => ?_) middle)
    refine wp_bind.mpr (wp_ensure (fun _ => ?_) fun none => nomatch none)
    refine wp_bind.mpr (wp_write rfl stable_clear now middle (fun _ _ => push_creates)
      (fun _ w now => ?_) late)
    refine wp_bind.mpr (wp_read rfl stable_creates now (fun _ w now _ => ?_) late)
    refine wp_bind.mpr (wp_remoteHash stable_creates now (fun w now => ?_) late)
    refine wp_bind.mpr (wp_read rfl stable_creates now (fun _ w now _ => ?_) late)
    exact wp_pure.mpr now

/-- What `execute` returns of a publication. -/
structure Published.Of (published : Published) (result : ExecutionResult) : Prop where
  after : ∃ path, result.after = some [("repository_path", .str path),
    ("remote", .str published.remote), ("remote_url", .str published.url),
    ("branch", .str published.branch), ("commit", .str published.commit),
    ("created_new_ref", .bool true)]

/-- What a returned publication has done. -/
def Publishes (repository : Repository) (action : AgentAction) (branch : String)
    (result : ExecutionResult) (changes : List Change) : Prop :=
  LocallyChecked repository action branch repository.head.text ∧
    (∃ published : Published, published.Of result ∧ published.branch = branch ∧
      published.commit = repository.head.text) ∧ Creates branch repository.head changes

theorem execute_spec {action : AgentAction} (since : Since start Others remote) :
    wp (hosting repository) (execute connector action)
      (fun result => Since start
        (Publishes repository action (trimmedText action.parameters "branch" "") result))
      (fun _ => Since start
        (OnlyCreates (trimmedText action.parameters "branch" "") repository.head)) remote := by
  have early : ∀ (e : Exn) w, Since start Others w → Since start
      (OnlyCreates (trimmedText action.parameters "branch" "") repository.head) w :=
    fun _ _ now => now.mono fun _ => onlyCreates_of_others
  refine wp_bind.mpr (wp_lift.mpr ?_)
  cases validateAction action with
  | error e => exact early e remote since
  | ok _ =>
    refine wp_bind.mpr (wp_read rfl stable_others since (fun path w now _ => ?_) early)
    refine wp_bind.mpr (wp_read rfl stable_others now (fun _ w now _ => ?_) early)
    refine wp_bind.mpr (wp_lift.mpr ?_)
    cases branched : branchOf connector action.parameters with
    | error e => exact early e w now
    | ok branch =>
      obtain ⟨_, -, same⟩ := of_bind_ok branched
      obtain rfl : trimmedText action.parameters "branch" "" = branch := Except.ok.inj same
      generalize trimmedText action.parameters "branch" "" = branch at early ⊢
      refine wp_bind.mpr (wp_ensure (fun _ => ?_) fun _ => early (connectorError "") w now)
      refine wp_bind.mpr (wp_mono (wp_withConfigLock (J := fun out changes =>
        LocallyChecked repository action branch out.1 ∧ Creates branch repository.head changes)
        stable_others ?_ stable_onlyCreates (fun _ => onlyCreates_of_others)
        (fun _ _ done => done.2.1) now ?_) ?_ fun _ _ failed => failed)
      · exact fun out change changes other done =>
          ⟨done.1, stable_creates change changes other done.2⟩
      · intro w now
        refine wp_bind.mpr (wp_mono (wp_checkLocal now) ?_ early)
        rintro ⟨commit, url⟩ w ⟨changes, initial, log, checked, others⟩
        obtain rfl := checked.head
        refine wp_bind.mpr (wp_mono (wp_publish ⟨changes, initial, log, others⟩) ?_
          fun _ _ failed => failed)
        exact fun observed w done => wp_pure.mpr (done.mono fun _ created => ⟨checked, created⟩)
      · rintro ⟨commit, url, observed⟩ w done
        refine wp_bind.mpr (wp_ensure (fun _ => ?_) fun _ => done.mono fun _ both => both.2.1)
        refine wp_pure.mpr (done.mono fun changes both => ?_)
        obtain ⟨checked, created⟩ := both
        obtain rfl := checked.head
        exact ⟨checked, ⟨⟨_, url, branch, repository.head.text⟩, ⟨path, rfl⟩, rfl, rfl⟩, created⟩

end

/-! ## Rollback -/

section
variable [CommitGraph]

def created (branch : String) (commit : CommitId) : Change := ⟨true, branch, none, some commit⟩

def deleted (branch : String) (commit : CommitId) : Change := ⟨true, branch, some commit, none⟩

/-- The last change of a branch. -/
def latest (branch : String) (changes : List Change) : Option Change :=
  changes.find? fun change => change.branch == branch

/-- The connector creates the branch, or deletes it as it created it. -/
def Accounted (branch : String) (commit : CommitId) : List Change → Prop
  | [] => True
  | change :: older => (change.own = true → change = created branch commit ∨
      change = deleted branch commit ∧ latest branch older = some (created branch commit)) ∧
    Accounted branch commit older

/-- All of this, and the branch was changed, as long as the others are tame. -/
def Ledger (branch : String) (commit : CommitId) (changes : List Change) : Prop :=
  Tame branch commit changes → Accounted branch commit changes ∧
    ∃ change ∈ changes, change.branch = branch

variable {start : Remote} {branch : String} {commit : CommitId} {changes : List Change}

omit [CommitGraph] in
theorem Accounted.of_mem {change : Change} (accounted : Accounted branch commit changes)
    (listed : change ∈ changes) (own : change.own = true) :
    change = created branch commit ∨ change = deleted branch commit := by
  induction changes with
  | nil => cases listed
  | cons newest older ih =>
    rcases List.mem_cons.mp listed with rfl | before
    · exact (accounted.1 own).imp_right And.left
    · exact ih accounted.2 before

omit [CommitGraph] in
theorem accounted_of_created
    (all : ∀ change ∈ changes, change.own = true → change = created branch commit) :
    Accounted branch commit changes := by
  induction changes with
  | nil => trivial
  | cons newest older ih =>
    have ⟨first, rest⟩ := List.forall_mem_cons.mp all
    exact ⟨fun own => .inl (first own), ih rest⟩

theorem ledger_of_creates (creates : Creates branch commit changes) :
    Ledger branch commit changes := by
  intro tame
  obtain ⟨only, change, listed, own⟩ := creates
  refine ⟨accounted_of_created (only tame), change, listed, ?_⟩
  rw [only tame change listed own]

theorem stable_ledger : Stable (Ledger branch commit) := by
  intro change changes other holds tame
  obtain ⟨accounted, touched, listed, here⟩ := holds tame.of_cons
  refine ⟨⟨fun own => ?_, accounted⟩, touched, List.mem_cons_of_mem _ listed, here⟩
  exact absurd (own.symm.trans other) Bool.noConfusion

omit [CommitGraph] in
theorem refAfter_latest {initial : String → Option CommitId} {before : List Change}
    (touched : ∃ change ∈ changes, change.branch = branch) :
    ∃ change ∈ changes, change.branch = branch ∧ latest branch changes = some change ∧
      refAfter initial (changes ++ before) branch = change.left := by
  induction changes with
  | nil => simp at touched
  | cons newest older ih =>
    by_cases here : newest.branch = branch
    · refine ⟨newest, List.mem_cons_self, here, ?_, ?_⟩
      · exact List.find?_cons_of_pos (beq_iff_eq.mpr here)
      · rw [List.cons_append, refAfter, if_pos here]
    · obtain ⟨change, listed, named⟩ := touched
      obtain ⟨last, inOlder, same, found, left⟩ := ih
        ⟨change, (List.mem_cons.mp listed).resolve_left (by rintro rfl; exact here named), named⟩
      refine ⟨last, List.mem_cons_of_mem _ inOlder, same, ?_, ?_⟩
      · exact (List.find?_cons_of_neg (by rwa [beq_iff_eq])).trans found
      · rw [List.cons_append, refAfter, if_neg here, left]

/-- A deletion with a lease deletes what the connector created. -/
theorem pushDelete_ledger {w after : Remote} {url : String}
    (ledger : Since start (Ledger branch commit) w)
    (removed : Writes w (.pushDelete url branch commit.text) after) :
    Since start (Ledger branch commit) after := by
  obtain ⟨found, same, held, rfl⟩ := removed
  obtain rfl := CommitId.ext_text same
  refine ledger.record fun changes initial log holds tame => ?_
  obtain ⟨accounted, touched⟩ := holds tame.of_cons
  obtain ⟨last, listed, named, isLatest, left⟩ :=
    @refAfter_latest branch changes start.initial start.log touched
  rw [← log, ← initial] at left
  have lastLeft : last.left = some found := left.symm.trans held
  have isOwn : last.own = true := by
    by_contra other
    rw [Bool.not_eq_true] at other
    have apart := tame.of_cons last listed other named found lastLeft
    exact absurd ((CommitGraph.refl found).symm.trans apart) Bool.noConfusion
  have isCreation : last = created branch found := by
    rcases accounted.of_mem listed isOwn with created | deleted
    · exact created
    · rw [deleted] at lastLeft
      cases lastLeft
  refine ⟨⟨fun _ => .inr ⟨?_, isLatest.trans (congrArg some isCreation)⟩, accounted⟩, _,
    List.mem_cons_self, rfl⟩
  rw [held]
  rfl

end

section
variable [Host] [CommitGraph] {repository : Repository} {start remote : Remote}
  {connector : GitBranchPushConnector} {commit : CommitId}

omit [Host] in
theorem wp_deleteLeased {published : Published} (same : published.commit = commit.text)
    (ledger : Since start (Ledger published.branch commit) remote) :
    wp (hosting repository) (deleteLeased published)
      (fun _ => Since start (Ledger published.branch commit))
      (fun _ => Since start (Ledger published.branch commit)) remote := by
  have raises : ∀ (e : Exn) w, Since start (Ledger published.branch commit) w →
      Since start (Ledger published.branch commit) w := fun _ _ now => now
  unfold deleteLeased
  refine wp_tryCatch.mpr (wp_mono (wp_write (J := Ledger published.branch commit) rfl stable_ledger
    ledger raises (fun w after now written => ?_) (fun _ _ => id) raises) (fun _ _ => id) ?_)
  · rw [same] at written
    exact pushDelete_ledger now written
  · intro raised w now
    cases raised.kind.isConnectorError with
    | false => exact wp_lift.mpr now
    | true =>
      rw [if_pos rfl]
      refine wp_bind.mpr (wp_read rfl stable_ledger now (fun _ w now _ => ?_) raises)
      refine wp_bind.mpr (wp_remoteHash stable_ledger now (fun w now => ?_) raises)
      refine wp_bind.mpr (wp_read rfl stable_ledger now (fun _ w now _ => ?_) raises)
      exact wp_bind.mpr (wp_ensure (fun _ => wp_lift.mpr now) fun _ => now)

omit [Host] in
theorem wp_deleteExact {published : Published} (same : published.commit = commit.text)
    (ledger : Since start (Ledger published.branch commit) remote) :
    wp (hosting repository) (deleteExact published)
      (fun _ => Since start (Ledger published.branch commit))
      (fun _ => Since start (Ledger published.branch commit)) remote := by
  have raises : ∀ (e : Exn) w, Since start (Ledger published.branch commit) w →
      Since start (Ledger published.branch commit) w := fun _ _ now => now
  unfold deleteExact
  refine wp_bind.mpr (wp_read rfl stable_ledger ledger (fun _ w now _ => ?_) raises)
  refine wp_bind.mpr (wp_read rfl stable_ledger now (fun _ w now _ => ?_) raises)
  refine wp_bind.mpr (wp_remoteHash stable_ledger now (fun w now => ?_) raises)
  refine wp_bind.mpr (wp_read rfl stable_ledger now (fun _ w now _ => ?_) raises)
  refine wp_bind.mpr (wp_ensure (fun _ => ?_) fun _ => now)
  refine wp_bind.mpr (wp_ensure (fun _ => ?_) fun _ => now)
  refine wp_bind.mpr (wp_mono (wp_deleteLeased same now) (fun _ w now => ?_) raises)
  refine wp_bind.mpr (wp_read rfl stable_ledger now (fun _ w now _ => ?_) raises)
  refine wp_bind.mpr (wp_remoteHash stable_ledger now (fun w now => ?_) raises)
  refine wp_bind.mpr (wp_read rfl stable_ledger now (fun _ w now _ => ?_) raises)
  exact wp_pure.mpr now

/-- What a rollback returns names the branch of its publication. -/
def NamesBranch (branch : String) (result : ExecutionResult) : Prop :=
  getStr (.obj (result.after.getD [])) "branch" "" = branch

theorem compensate_spec {action : AgentAction} {result : ExecutionResult} {published : Published}
    (of : published.Of result) (same : published.commit = commit.text)
    (ledger : Since start (Ledger published.branch commit) remote) :
    wp (hosting repository) (compensate connector action result)
      (fun compensation => Since start fun changes =>
        NamesBranch published.branch compensation ∧ Ledger published.branch commit changes)
      (fun _ => Since start (Ledger published.branch commit)) remote := by
  have raises : ∀ (e : Exn) w, Since start (Ledger published.branch commit) w →
      Since start (Ledger published.branch commit) w := fun _ _ now => now
  obtain ⟨path, recorded⟩ := of.after
  unfold compensate
  refine wp_bind.mpr (wp_read rfl stable_ledger ledger (fun _ w now _ => ?_) raises)
  refine wp_bind.mpr (wp_read rfl stable_ledger now (fun _ w now _ => ?_) raises)
  refine wp_bind.mpr (wp_lift.mpr ?_)
  cases read : readPublished connector (result.after.getD []) with
  | error e => exact now
  | ok shown =>
    have ⟨sameBranch, sameCommit⟩ : shown.branch = published.branch ∧
        shown.commit = published.commit := by
      obtain ⟨url, -, rest⟩ := of_bind_ok read
      obtain rfl := Except.ok.inj rest
      rw [recorded]
      exact ⟨rfl, rfl⟩
    refine wp_bind.mpr (wp_ensure (fun _ => ?_) fun _ => now)
    refine wp_bind.mpr (wp_lift.mpr ?_)
    cases validateBranch connector shown.branch with
    | error e => exact now
    | ok _ =>
      rw [← sameBranch] at now ⊢
      refine wp_bind.mpr (wp_mono (wp_withConfigLock stable_ledger (fun _ => stable_ledger)
        stable_ledger (fun _ => id) (fun _ _ => id) now fun w now =>
          wp_deleteExact (sameCommit.trans same) now) (fun _ w now => ?_) fun _ _ now => now)
      exact wp_pure.mpr (now.mono fun _ ledger => ⟨rfl, ledger⟩)

/-- The branch was absent at some instant since then. -/
def WasAbsent (start : Remote) (branch : String) (changes : List Change) : Prop :=
  ∃ newer older, changes = newer ++ older ∧
    refAfter start.initial (older ++ start.log) branch = none

omit [CommitGraph] [Host] in
theorem stable_wasAbsent {branch : String} : Stable (WasAbsent start branch) := by
  rintro change _ _ ⟨newer, older, rfl, absent⟩
  exact ⟨change :: newer, older, rfl, absent⟩

/-- A verified rollback has seen the branch absent. -/
theorem verifyCompensation_spec {action : AgentAction} {compensation : ExecutionResult}
    {branch : String} (names : NamesBranch branch compensation) :
    wp (hosting repository) (verifyCompensation connector action compensation)
      (fun verification => Since start fun changes =>
        verification.verified = true → WasAbsent start branch changes)
      (fun _ => Since start fun _ => True) start := by
  let I : List Change → Prop := fun _ => True
  let J : Option String → List Change → Prop := fun observed changes =>
    observed = none → WasAbsent start branch changes
  have stableI : Stable I := fun _ _ _ _ => trivial
  have stableJ : ∀ observed, Stable (J observed) := fun observed change changes other seen absent =>
    stable_wasAbsent change changes other (seen absent)
  have raises : ∀ (e : Exn) w, Since start I w → Since start I w := fun _ _ now => now
  have late : ∀ observed (e : Exn) w, Since start (J observed) w → Since start I w :=
    fun _ _ _ now => now.mono fun _ _ => trivial
  unfold verifyCompensation
  refine wp_bind.mpr (wp_read rfl stableI ⟨[], rfl, rfl, trivial⟩ (fun _ w now _ => ?_) raises)
  refine wp_bind.mpr (wp_read rfl stableI now (fun _ w now _ => ?_) raises)
  refine wp_bind.mpr (wp_lift.mpr ?_)
  cases read : readPublished connector (compensation.after.getD []) with
  | error e => exact now
  | ok shown =>
    have sameBranch : shown.branch = branch := by
      obtain ⟨url, -, rest⟩ := of_bind_ok read
      obtain rfl := Except.ok.inj rest
      exact names
    refine wp_bind.mpr (wp_mono (wp_withConfigLock (J := J) stableI stableJ stableI (fun _ => id)
      (fun _ _ _ => trivial) now fun w now => ?_) (fun observed w now => ?_) raises)
    · refine wp_bind.mpr (wp_read rfl stableI now (fun _ w now _ => ?_) raises)
      refine wp_bind.mpr (wp_read rfl stableI now (fun _ w now _ => ?_) raises)
      refine wp_bind.mpr (wp_remoteHash stableI now (fun w now => ?_) raises)
      have read : Since start (J ((w.ref shown.branch).map CommitId.text)) w := by
        obtain ⟨changes, initial, log, -⟩ := now
        refine ⟨changes, initial, log, fun absent => ⟨[], changes, rfl, ?_⟩⟩
        rw [← log, ← initial, ← sameBranch]
        exact Option.map_eq_none_iff.mp absent
      refine wp_bind.mpr (wp_read rfl (stableJ _) read (fun _ w now _ => ?_) (late _))
      exact wp_pure.mpr now
    · exact wp_pure.mpr (now.mono fun _ seen verified => seen (Option.isNone_iff_eq_none.mp verified))

end

/-! ## One publication and its rollbacks -/

section
variable [Host] [CommitGraph]

/-- A publication that returned, and the rollbacks of it, with the others between them. The
repository may be another one each time. -/
inductive Life (connector : GitBranchPushConnector) (repository : Repository) (action : AgentAction)
    (start : Remote) : ExecutionResult → Remote → Prop
  | executed {result : ExecutionResult} {remote : Remote} :
      (hosting repository).Runs (execute connector action) start (.ok result) remote →
      Life connector repository action start result remote
  | elapsed {result : ExecutionResult} {remote after : Remote} :
      Life connector repository action start result remote →
      (hosting repository).Elapses remote after →
      Life connector repository action start result after
  | compensated {result : ExecutionResult} {remote after : Remote} {checkout : Repository}
      {out : Except Exn ExecutionResult} :
      Life connector repository action start result remote →
      (hosting checkout).Runs (compensate connector action result) remote out after →
      Life connector repository action start result after

variable {connector : GitBranchPushConnector} {repository : Repository} {action : AgentAction}
  {start remote : Remote} {result : ExecutionResult}

theorem Life.ledger (life : Life connector repository action start result remote) :
    ∃ published : Published, published.Of result ∧
      published.branch = trimmedText action.parameters "branch" "" ∧
      published.commit = repository.head.text ∧
      Since start (Ledger published.branch repository.head) remote := by
  induction life with
  | executed run =>
    have post : Since start (Publishes repository action
        (trimmedText action.parameters "branch" "") _) _ :=
      wp_runs run (execute_spec ⟨[], rfl, rfl, fun _ listed => nomatch listed⟩)
    obtain ⟨changes, initial, log, -, ⟨published, of, branch, commit⟩, creates⟩ := post
    refine ⟨published, of, branch, commit, changes, initial, log, ?_⟩
    rw [branch]
    exact ledger_of_creates creates
  | elapsed _ elapsed ih =>
    obtain ⟨published, of, branch, commit, ledger⟩ := ih
    exact ⟨published, of, branch, commit, ledger.elapses stable_ledger elapsed⟩
  | @compensated remote after checkout out _ run ih =>
    obtain ⟨published, of, branch, commit, ledger⟩ := ih
    have post := wp_runs run (compensate_spec of commit ledger)
    refine ⟨published, of, branch, commit, ?_⟩
    cases out with
    | ok compensation => exact Since.mono post fun _ => And.right
    | error e => exact post

/-- While no other client points the branch at the approved commit or at one of its ancestors, a
publication only creates the branch, a returned one has created it at the commit that was checked
out, a rollback only deletes what the publication created, and a verified one saw it gone. -/
theorem publication_exact (connector : GitBranchPushConnector) (repository : Repository)
    (action : AgentAction) (start : Remote) :
    let branch := trimmedText action.parameters "branch" ""
    let commit := repository.head
    (∀ out remote, (hosting repository).Runs (execute connector action) start out remote →
      Since start (fun changes =>
        (Tame branch commit changes → ∀ change ∈ changes, change.own = true →
          change = created branch commit) ∧
        ∀ result, out = .ok result → LocallyChecked repository action branch commit.text ∧
          (Tame branch commit changes → created branch commit ∈ changes)) remote) ∧
    ∀ result remote, Life connector repository action start result remote →
      Since start (fun changes => Tame branch commit changes → Accounted branch commit changes)
        remote ∧
      ∀ checkout compensation after verification final,
        (hosting checkout).Runs (compensate connector action result) remote (.ok compensation)
          after →
        (hosting checkout).Runs (verifyCompensation connector action compensation) after
          (.ok verification) final →
        verification.verified = true → Since after (WasAbsent after branch) final := by
  intro branch commit
  refine ⟨fun out remote run => ?_, fun result remote life => ?_⟩
  · have post := wp_runs run (execute_spec ⟨[], rfl, rfl, fun _ listed => nomatch listed⟩)
    cases out with
    | error e =>
      have creates : Since start (OnlyCreates branch commit) remote := post
      exact creates.mono fun _ only => ⟨only, fun _ returned => nomatch returned⟩
    | ok result =>
      have publishes : Since start (Publishes repository action branch result) remote := post
      refine publishes.mono fun changes ⟨checked, _, only, change, listed, own⟩ =>
        ⟨only, fun _ _ => ⟨checked, fun tame => ?_⟩⟩
      have same := only tame change listed own
      rwa [same] at listed
  · obtain ⟨published, of, sameBranch, sameCommit, ledger⟩ := life.ledger
    rw [sameBranch] at ledger
    refine ⟨ledger.mono fun _ holds tame => (holds tame).1, ?_⟩
    intro checkout compensation after verification final compensated verified isVerified
    rw [← sameBranch] at ledger
    obtain ⟨_, -, -, names, -⟩ : Since start _ after :=
      wp_runs compensated (compensate_spec of sameCommit ledger)
    have seen : Since after _ final := wp_runs verified (verifyCompensation_spec names)
    refine seen.mono fun changes absent => ?_
    rw [show branch = published.branch from sameBranch.symm]
    exact absent isVerified

end

/-! ### A branch that appears at an ancestor -/

namespace Samples

def base : CommitId := ⟨"b", by decide, forall_chars (by decide)⟩

def head : CommitId := ⟨"a", by decide, forall_chars (by decide)⟩

/-- Every commit comes before `head`. -/
@[reducible]
def linear : CommitGraph := ⟨fun older newer => older == newer || newer == head, by simp⟩

def url : String := "git@host:r"

def checkout : Repository := ⟨"agent/x", head, "", fun _ => url⟩

def connector : GitBranchPushConnector := ⟨"agent/", ["origin"], false⟩

def pushBranch : AgentAction where
  capability := "bitbucket.branch.push"
  target := ⟨"bitbucket", "branch", "r", some "a", by decide⟩
  parameters := [("branch", .str "agent/x"), ("remote", .str "origin"), ("remote_url", .str url)]
  risk := .reversibleWrite
  authoritySource := .directUser
  requiresApproval := true
  idempotencyKey := "k"
  justification := "review"
  dataClassification := .internal
  dependencies := []
  actionId := numbered 1
  valid := by decide

def start : Remote := ⟨fun _ => none, []⟩

/-- What the publication returns. -/
def pushed : ExecutionResult :=
  let := plainHost
  succeeded pushBranch [("remote_commit", .null)]
    [("repository_path", .str "/w"), ("remote", .str "origin"), ("remote_url", .str url),
      ("branch", .str "agent/x"), ("commit", .str "a"), ("created_new_ref", .bool true)]
    "git:origin/agent/x" "new review branch pushed without force"
    (some (deleteExactNewBranch "agent/x"))

end Samples

attribute [local instance] plainHost Samples.linear

theorem runs_read {repository : Repository} {remote : Remote} (c : Request) (out : c.Answer)
    (reads : c.isWrite = false ∧ Reads repository remote c out) :
    (hosting repository).Runs (request c) remote (.ok out) remote :=
  runs_ask .refl (.inl ⟨rfl, reads⟩)

theorem runs_withConfigLock {A : Type} {repository : Repository} {remote after : Remote} {a : A}
    {body : GitClient A} (run : (hosting repository).Runs body remote (.ok a) after) :
    (hosting repository).Runs (withConfigLock body) remote (.ok a) after := by
  refine runs_bind (runs_read .lockConfig () ⟨rfl, trivial⟩) ?_
  refine runs_bind (runs_tryCatch run) ?_
  exact runs_bind (runs_read .releaseConfig () ⟨rfl, trivial⟩) runs_pure

theorem runs_remoteHash {repository : Repository} {remote : Remote} {url branch : String} :
    (hosting repository).Runs (remoteHash url branch) remote
      (.ok ((remote.ref branch).map CommitId.text)) remote := by
  refine runs_bind (runs_read (.lsRemote url branch) _ ⟨rfl, rfl⟩) ?_
  rw [firstWord_listing]
  exact runs_pure

theorem sample_checkLocal : (hosting Samples.checkout).Runs
    (checkLocal Samples.connector Samples.pushBranch "agent/x" "origin") Samples.start
    (.ok ("a", Samples.url)) Samples.start := by
  refine runs_bind (runs_read .validateConfig () ⟨rfl, trivial⟩) ?_
  refine runs_bind (runs_read .showCurrentBranch "agent/x" ⟨rfl, rfl⟩) ?_
  refine runs_bind (runs_ensure rfl) ?_
  refine runs_bind (runs_read .revParseHead "a" ⟨rfl, rfl⟩) ?_
  refine runs_bind (runs_ensure rfl) ?_
  refine runs_bind (runs_ensure rfl) ?_
  refine runs_bind (runs_read .status "" ⟨rfl, rfl⟩) ?_
  refine runs_bind (runs_ensure rfl) ?_
  refine runs_bind (b := Samples.url) ?_ runs_pure
  refine runs_bind (runs_lift rfl) ?_
  refine runs_bind (runs_read (.remoteGetUrl "origin") Samples.url ⟨rfl, rfl⟩) ?_
  refine runs_bind (runs_lift rfl) ?_
  exact runs_bind (runs_ensure rfl) runs_pure

/-- The publication returns, whatever becomes of the branch between its test and the push. -/
theorem sample_runs (moved : Remote)
    (elapsed : (hosting Samples.checkout).Elapses Samples.start moved) :
    (hosting Samples.checkout).Runs (execute Samples.connector Samples.pushBranch) Samples.start
      (.ok Samples.pushed) (moved.record true "agent/x" (some Samples.head)) := by
  refine runs_bind (runs_lift rfl) ?_
  refine runs_bind (runs_read (.repository _) "/w" ⟨rfl, trivial⟩) ?_
  refine runs_bind (runs_read .validateConfig () ⟨rfl, trivial⟩) ?_
  refine runs_bind (runs_lift rfl) ?_
  refine runs_bind (runs_ensure rfl) ?_
  refine runs_bind (runs_withConfigLock (a := ("a", Samples.url, some "a")) ?_)
    (runs_bind (runs_ensure rfl) runs_pure)
  refine runs_bind sample_checkLocal (runs_bind (b := some "a") ?_ runs_pure)
  refine runs_bind (runs_read .guardConfig () ⟨rfl, trivial⟩) ?_
  refine runs_bind runs_remoteHash ?_
  refine runs_bind (runs_read .guardConfig () ⟨rfl, trivial⟩) ?_
  refine runs_bind (runs_ensure rfl) ?_
  refine runs_bind (runs_ask (r := .ok ()) elapsed
    (.inr ⟨Samples.head, rfl, fun _ _ => Bool.or_true _, rfl⟩)) ?_
  refine runs_bind (runs_read .guardConfig () ⟨rfl, trivial⟩) ?_
  refine runs_bind runs_remoteHash ?_
  exact runs_bind (runs_read .guardConfig () ⟨rfl, trivial⟩) runs_pure

theorem sample_publication :
    Since Samples.start (fun changes => Tame "agent/x" Samples.head changes →
      Accounted "agent/x" Samples.head changes)
      (Samples.start.record true "agent/x" (some Samples.head)) :=
  ((publication_exact Samples.connector Samples.checkout Samples.pushBranch Samples.start).2 _ _
    (.executed (sample_runs Samples.start .refl))).1

/-- Another client creates the branch at an ancestor after the test, and the push moves it. -/
theorem ancestor_moved : ∃ result remote,
    (hosting Samples.checkout).Runs (execute Samples.connector Samples.pushBranch) Samples.start
      (.ok result) remote ∧
    ⟨true, "agent/x", some Samples.base, some Samples.head⟩ ∈ remote.log :=
  ⟨_, _, sample_runs (Samples.start.record false "agent/x" (some Samples.base))
    (.single ⟨_, _, rfl⟩), List.mem_cons_self⟩

end MasterAgent.GitRemote
