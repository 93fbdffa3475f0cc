import MasterAgent.Advisory.Delegation
import MasterAgent.Advisory.Scope

/-!
# State bindings

Before and after its run, the Copilot worker binds the task, the profile, the scope and the state of
the repository by five digests, and gives its report out only if both bindings are equal.

Results:

1. `taskDigest_inj`, `profileDigest_inj`: what the digests of the task and of the profile determine;
2. `binding_agree`: two captures with one binding agree;
3. `binding_injective`: and so do both ends of a delegation that completes.
-/

namespace MasterAgent.Advisory
open Base Base.GitObjects Credentials

def copilotAdvisoryError (message : String) : Exn := ⟨.runtime, "CopilotAdvisoryError", message⟩

variable [Host] [CharTables]

/-! ## Digests -/

/-- `role.value` -/
def AdvisoryRole.value : AdvisoryRole → String
  | .research => "research"
  | .planReview => "plan_review"

/-- `SemanticRouteSlice.to_payload`, its keys sorted. -/
def SemanticRouteSliceFields.toPayload (x : SemanticRouteSliceFields) : Json :=
  .obj [("authority", .arr (x.authority.map .str)),
    ("configuration", .arr (x.configuration.map .str)),
    ("dependencies", .arr (x.dependencies.map .str)),
    ("implementation", .arr (x.implementation.map .str)),
    ("lifecycle", .str x.lifecycle), ("release_gates", .arr (x.releaseGates.map .str)),
    ("route", .str x.route), ("summary", .str x.summary), ("tests", .arr (x.tests.map .str)),
    ("title", .str x.title)]

/-- What `_task_digest` is of, its keys sorted. -/
def AdvisoryEnvelope.document (envelope : AdvisoryEnvelope) : Json :=
  .obj [("depth", .int envelope.depth), ("payload", Json.sortKeys envelope.payload),
    ("profile_name", .str envelope.profileName), ("role", .str envelope.role.value),
    ("semantic_route", envelope.semanticRoute.fields.toPayload), ("task_id", .str envelope.taskId)]

/-- What `_profile_digest` is of, its keys sorted. -/
def AgentProfile.document (profile : AgentProfile) : Json :=
  .obj [("body", .str profile.body), ("description", .str profile.description),
    ("disable_model_invocation", .bool profile.disableModelInvocation), ("name", .str profile.name),
    ("tools", .arr (profile.tools.map .str)), ("user_invocable", .bool profile.userInvocable)]

structure AdvisoryStateBinding where
  taskDigest : String
  repositoryDigest : String
  profileDigest : String
  scopeDigest : String
  routeDigest : String
deriving DecidableEq

section
variable [RawSha256]

/-- `_profile_digest`, of `json.dumps` with `ensure_ascii`. -/
def profileDigest (profile : AgentProfile) : String :=
  sha256Text (String.ofList (Json.render Json.compactAscii 0 profile.document))

/-- `_task_digest` -/
def taskDigest (envelope : AdvisoryEnvelope) : String := sha256Text envelope.document.dumps

def routeDigest (repositoryDigest : String) (route : SemanticRouteSlice) : String :=
  sha256Text (Json.dumps (.obj [("repository_digest", .str repositoryDigest),
    ("semantic_route", route.fields.toPayload)]))

/-- What one capture meets: the answers while the scope is validated, and the two snapshots. -/
structure Capture where
  route : ScopeCalls
  first : Snapshot
  second : Snapshot

/-- `_binding` -/
def Capture.binding (capture : Capture) (envelope : AdvisoryEnvelope) (profile : AgentProfile)
    (bound : BoundScope) (expectedRepositoryDigest : String) : Except Exn AdvisoryStateBinding := do
  bound.scope.validate capture.route
  let state ← repositoryStateBinding capture.first capture.second
  raiseIf (state.digest ≠ expectedRepositoryDigest)
    (copilotRepositoryChanged "semantic route authorization does not match repository state")
  .ok ⟨taskDigest envelope, state.digest, profileDigest profile, bound.scope.digest,
    routeDigest expectedRepositoryDigest envelope.semanticRoute⟩

/-! ## The worker -/

/-- The texts of a sequence of texts. -/
def textsOf : List Json → Option (List String)
  | [] => some []
  | .str text :: rest => (textsOf rest).map (text :: ·)
  | _ :: _ => none

/-- `_scope_from_envelope` -/
def scopeFromEnvelope (route : ScopeCalls) (envelope : AdvisoryEnvelope) : Except Exn BoundScope :=
  match envelope.payload.get? "paths" with
  | some (.arr items) =>
    match textsOf items with
    | some requested =>
      match bound : AdvisoryPathScope.bind route requested with
      | .ok scope => .ok ⟨scope, route, requested, bound⟩
      | .error e => .error e
    | none => .error (copilotScopeRejected "advisory payload has no valid technical path scope")
  | _ => .error (copilotScopeRejected "advisory payload has no valid technical path scope")

structure CopilotSdkAdvisoryWorker where
  scope : Option BoundScope
  expectedRepositoryDigest : String
  profileInventory : AgentInventory

/-- What the calls of one run of the worker meet: the repository while a scope is bound, before the
session and after it, and the session itself, which the SDK runs. -/
structure Surroundings where
  route : ScopeCalls
  before : Capture
  after : Capture
  runSync : AdvisoryEnvelope → AgentProfile → BoundScope → AdvisoryStateBinding →
    Except Exn AdvisoryReport

def CopilotSdkAdvisoryWorker.scopeFor (worker : CopilotSdkAdvisoryWorker) (s : Surroundings)
    (envelope : AdvisoryEnvelope) : Except Exn BoundScope :=
  match worker.scope with
  | some scope => .ok scope
  | none => scopeFromEnvelope s.route envelope

/-- `CopilotSdkAdvisoryWorker.__call__` -/
def CopilotSdkAdvisoryWorker.call (worker : CopilotSdkAdvisoryWorker) (s : Surroundings) :
    AdvisoryWorker := fun envelope dispatcher => do
  raiseIf (envelope.depth ≠ 0) (copilotAdvisoryError "nested Copilot advisory delegation is denied")
  raiseIf (¬ (dispatcher.profile.tools ⊆ ["read", "search"] ∧
      ["read", "search"] ⊆ dispatcher.profile.tools))
    (copilotAdvisoryError "advisory profile widened beyond read/search")
  let profile := worker.profileInventory.child envelope.role
  raiseIf (profile.name ≠ envelope.profileName)
    (copilotAdvisoryError "advisory envelope/profile mismatch")
  let scope ← worker.scopeFor s envelope
  let before ← s.before.binding envelope profile scope worker.expectedRepositoryDigest
  let report ← s.runSync envelope profile scope before
  let after ← s.after.binding envelope profile scope worker.expectedRepositoryDigest
  raiseIf (after ≠ before)
    (copilotRepositoryChanged
      "repository, task, or specialist profile changed during delegation")
  .ok report

end

/-! ## What the digests determine -/

/-- The same task: a payload is a mapping, so that the order of its keys does not count. -/
structure AdvisoryEnvelope.Same (envelope envelope' : AdvisoryEnvelope) : Prop where
  taskId : envelope.taskId = envelope'.taskId
  role : envelope.role = envelope'.role
  profileName : envelope.profileName = envelope'.profileName
  depth : envelope.depth = envelope'.depth
  semanticRoute : envelope.semanticRoute = envelope'.semanticRoute
  payload : Json.sortKeys envelope.payload = Json.sortKeys envelope'.payload

omit [Host] [CharTables] in
theorem strs_inj {a b : List String} (same : a.map Json.str = b.map Json.str) : a = b :=
  List.map_injective_iff.mpr (fun _ _ => Json.str.inj) same

theorem toPayload_inj {a b : SemanticRouteSlice} (same : a.fields.toPayload = b.fields.toPayload) :
    a = b := by
  obtain ⟨⟨_, _, _, _, _, _, _, _, _, _⟩, _⟩ := a
  obtain ⟨⟨_, _, _, _, _, _, _, _, _, _⟩, _⟩ := b
  simp only [SemanticRouteSliceFields.toPayload, Json.obj.injEq, List.cons.injEq, Prod.mk.injEq,
    Json.arr.injEq, Json.str.injEq, true_and, and_true] at same
  obtain ⟨authority, configuration, dependencies, implementation, rfl, gates, rfl, rfl, tests, rfl⟩ :=
    same
  obtain rfl := strs_inj authority
  obtain rfl := strs_inj configuration
  obtain rfl := strs_inj dependencies
  obtain rfl := strs_inj implementation
  obtain rfl := strs_inj gates
  obtain rfl := strs_inj tests
  rfl

omit [Host] [CharTables] in
theorem role_value_inj {a b : AdvisoryRole} (same : a.value = b.value) : a = b := by
  cases a <;> cases b
  · rfl
  · exact absurd same (by decide)
  · exact absurd same (by decide)
  · rfl

variable [RawSha256]

theorem taskDigest_inj (ideal : RawSha256.CollisionFree) {a b : AdvisoryEnvelope}
    (same : taskDigest a = taskDigest b) : a.Same b := by
  have documents := Json.dumps_inj (sha256Text_inj ideal.hex same)
  simp only [AdvisoryEnvelope.document, Json.obj.injEq, List.cons.injEq, Prod.mk.injEq,
    Json.int.injEq, Json.str.injEq, true_and, and_true] at documents
  obtain ⟨depth, payload, profileName, role, route, taskId⟩ := documents
  exact ⟨taskId, role_value_inj role, profileName, depth, toPayload_inj route, payload⟩

omit [Host] [CharTables] [RawSha256] in
theorem canonical_profile (profile : AgentProfile) : Json.Canonical profile.document := by
  have tools : Json.CanonicalItems (profile.tools.map .str) := by
    rw [Json.canonicalItems_iff]
    intro item member
    obtain ⟨text, _, rfl⟩ := List.mem_map.mp member
    exact trivial
  have sorted : ["body", "description", "disable_model_invocation", "name", "tools",
      "user_invocable"].Pairwise (· < ·) := by decide
  exact ⟨sorted, trivial, trivial, trivial, trivial, tools, trivial, trivial⟩

omit [Host] [CharTables] in
/-- The digest determines every field of a profile but its path. -/
theorem profileDigest_inj (ideal : RawSha256.CollisionFree) {a b : AgentProfile}
    (same : profileDigest a = profileDigest b) (path : a.path = b.path) : a = b := by
  have texts := String.ofList_injective (sha256Text_inj ideal.hex same)
  have documents := Json.render_inj (canonical_profile a) (canonical_profile b) texts
  obtain ⟨_, _, _, _, _, _, _⟩ := a
  obtain ⟨_, _, _, _, _, _, _⟩ := b
  simp only [AgentProfile.document, Json.obj.injEq, List.cons.injEq, Prod.mk.injEq, Json.str.injEq,
    Json.bool.injEq, Json.arr.injEq, true_and, and_true] at documents
  obtain ⟨rfl, rfl, rfl, rfl, tools, rfl⟩ := documents
  obtain rfl := strs_inj tools
  cases path
  rfl

omit [Host] [CharTables] [RawSha256] in
/-- The role determines the path of a profile that the worker selects. -/
theorem child_path (inventory inventory' : AgentInventory) (role : AdvisoryRole) :
    (inventory.child role).path = (inventory'.child role).path := by
  cases role with
  | research => exact inventory.researcher_path.trans inventory'.researcher_path.symm
  | planReview => exact inventory.reviewer_path.trans inventory'.reviewer_path.symm

/-! ## What a binding determines -/

/-- The snapshot has seen the file of a path, under a name that Git lists. -/
def Observed.Covers (seen : Observed) (path : Bytes) : Prop :=
  (∃ file ∈ seen.tracked, normalized file.1 = path) ∨
    ∃ file ∈ seen.untracked, normalized file.1 = path

/-- While a capture is taken, `ls-files --cached --others --exclude-standard` lists for some paths
only what `ls-files --stage` and `ls-files --others --exclude-standard` list. -/
def Capture.Consistent (capture : Capture) (entries : List Bytes) : Prop :=
  ∀ name ∈ listedLines (capture.route.listing entries),
    name ∈ (listedLines capture.first.index).map recordName ∨ name ∈ listedLines capture.first.others

/-- Two captures agree: on the task, on the profile, on the commit, the index and the files of all
snapshots, and on the scope with the bytes of its files. A file that is too large for the tools is
not read with the scope, but with the snapshots. -/
structure Agree (capture capture' : Capture) (envelope envelope' : AdvisoryEnvelope)
    (profile profile' : AgentProfile) (scope scope' : AdvisoryPathScope) : Prop where
  task : envelope.Same envelope'
  profile : profile = profile'
  entries : scope.entries = scope'.entries
  allowedFiles : scope.allowedFiles = scope'.allowedFiles
  small : ∀ binding ∈ scope.fileBindings, ∀ digest, binding.contentDigest = some digest →
    ∃ binding' ∈ scope'.fileBindings, ∃ payload, binding'.path = binding.path ∧
      readStableRegularFile (capture.route.calls binding.path) binding digest = .ok payload ∧
      readStableRegularFile (capture'.route.calls binding.path) binding' digest = .ok payload
  repository : ∃ seen, capture.first.Sees seen ∧ capture.second.Sees seen ∧
    capture'.first.Sees seen ∧ capture'.second.Sees seen ∧
    (capture.Consistent scope.entries → ∀ file ∈ scope.allowedFiles, seen.Covers file)

omit [RawSha256] [Host] [CharTables] in
theorem covers_of_listed {s : Snapshot} {seen : Observed} (sees : s.Sees seen) {name : Bytes}
    (listed : name ∈ (listedLines s.index).map recordName ∨ name ∈ listedLines s.others) :
    seen.Covers (normalized name) := by
  rcases listed with tracked | untracked
  · rw [← sees.trackedNames] at tracked
    obtain ⟨file, member, rfl⟩ := List.mem_map.mp tracked
    exact .inl ⟨file, member, rfl⟩
  · rw [← sees.untrackedNames] at untracked
    obtain ⟨file, member, rfl⟩ := List.mem_map.mp untracked
    exact .inr ⟨file, member, rfl⟩

omit [Host] [CharTables] in
/-- Scopes with one digest that are both valid agree on the files. -/
theorem scopes_agree (ideal : RawSha256.CollisionFree) {bound bound' : BoundScope}
    (same : bound.scope.digest = bound'.scope.digest) :
    bound.scope.entries = bound'.scope.entries ∧
      bound.scope.allowedFiles = bound'.scope.allowedFiles ∧
      ∀ binding ∈ bound.scope.fileBindings, ∃ binding' ∈ bound'.scope.fileBindings,
        binding'.fields = binding.fields := by
  obtain ⟨hashed, paths⟩ := bound.made
  obtain ⟨hashed', paths'⟩ := bound'.made
  rw [← same] at hashed'
  obtain ⟨entries, fields⟩ := scopeDigest_inj ideal hashed hashed'
  refine ⟨entries, ?_, fun binding member => ?_⟩
  · have allPaths := congrArg (List.map Prod.fst) fields
    rw [List.map_map, List.map_map] at allPaths
    rw [← paths, ← paths']
    exact allPaths
  · have among : binding.fields ∈ bound'.scope.fileBindings.map AdvisoryFileBinding.fields :=
      fields ▸ List.mem_map_of_mem member
    exact List.mem_map.mp among

omit [Host] [CharTables] in
theorem small_agree (ideal : RawSha256.CollisionFree) {scope scope' : AdvisoryPathScope}
    {route route' : ScopeCalls} (valid : scope.validate route = .ok ())
    (valid' : scope'.validate route' = .ok ()) {binding binding' : AdvisoryFileBinding}
    (member : binding ∈ scope.fileBindings) (member' : binding' ∈ scope'.fileBindings)
    (fields : binding'.fields = binding.fields) {digest : String}
    (small : binding.contentDigest = some digest) :
    binding'.path = binding.path ∧ ∃ payload,
      readStableRegularFile (route.calls binding.path) binding digest = .ok payload ∧
      readStableRegularFile (route'.calls binding.path) binding' digest = .ok payload := by
  simp only [AdvisoryFileBinding.fields, Prod.mk.injEq] at fields
  obtain ⟨path, -, contents⟩ := fields
  obtain ⟨payload, read, hashed⟩ := validate_read valid member small
  obtain ⟨payload', read', hashed'⟩ := validate_read valid' member' (contents.trans small)
  obtain rfl := ideal.hex.inj _ _ (hashed.trans hashed'.symm)
  exact ⟨path, payload, read, path ▸ read'⟩

/-- Two captures with one binding agree. -/
theorem binding_agree (ideal : RawSha256.CollisionFree) {capture capture' : Capture}
    {envelope envelope' : AdvisoryEnvelope} {profile profile' : AgentProfile}
    {bound bound' : BoundScope} {expected expected' : String} {binding : AdvisoryStateBinding}
    (taken : capture.binding envelope profile bound expected = .ok binding)
    (taken' : capture'.binding envelope' profile' bound' expected' = .ok binding)
    (path : envelope.role = envelope'.role → profile.path = profile'.path) :
    Agree capture capture' envelope envelope' profile profile' bound.scope bound'.scope := by
  obtain ⟨_, valid, rest⟩ := of_bind_ok taken
  obtain ⟨state, repository, rest₂⟩ := of_bind_ok rest
  obtain ⟨_, _, done⟩ := of_bind_ok rest₂
  obtain ⟨_, valid', rest'⟩ := of_bind_ok taken'
  obtain ⟨state', repository', rest₂'⟩ := of_bind_ok rest'
  obtain ⟨_, _, done'⟩ := of_bind_ok rest₂'
  cases done
  simp only [Except.ok.injEq, AdvisoryStateBinding.mk.injEq] at done'
  obtain ⟨task, digests, profiles, scopes, -⟩ := done'
  have envelopes := taskDigest_inj ideal task.symm
  obtain ⟨entries, allowed, fields⟩ := scopes_agree ideal scopes.symm
  obtain ⟨seen, first, second, first', second', -⟩ :=
    repositoryStateBinding_inj ideal repository repository' digests.symm
  refine ⟨envelopes, profileDigest_inj ideal profiles.symm (path envelopes.role), entries, allowed,
    fun binding member digest small => ?_,
    ⟨seen, observe_ok first, observe_ok second, observe_ok first', observe_ok second',
      fun consistent file member => ?_⟩⟩
  · obtain ⟨binding', member', same⟩ := fields binding member
    obtain ⟨path, payload, read, read'⟩ := small_agree ideal valid valid' member member' same small
    exact ⟨binding', member', payload, path, read, read'⟩
  · obtain ⟨name, listed, rfl⟩ := validate_listed valid member
    exact covers_of_listed (observe_ok first) (consistent name listed)

/-- A worker that gives its report out has taken two equal bindings. -/
theorem call_ok {worker : CopilotSdkAdvisoryWorker} {s : Surroundings} {envelope : AdvisoryEnvelope}
    {dispatcher : AdvisoryDispatcher} {report : AdvisoryReport}
    (called : worker.call s envelope dispatcher = .ok report) :
    ∃ bound binding,
      s.before.binding envelope (worker.profileInventory.child envelope.role) bound
        worker.expectedRepositoryDigest = .ok binding ∧
      s.after.binding envelope (worker.profileInventory.child envelope.role) bound
        worker.expectedRepositoryDigest = .ok binding := by
  rw [CopilotSdkAdvisoryWorker.call] at called
  obtain ⟨_, _, rest⟩ := of_bind_ok called
  obtain ⟨_, _, rest₂⟩ := of_bind_ok rest
  obtain ⟨_, _, rest₃⟩ := of_bind_ok rest₂
  obtain ⟨bound, _, rest₄⟩ := of_bind_ok rest₃
  obtain ⟨before, taken, rest₅⟩ := of_bind_ok rest₄
  obtain ⟨_, _, rest₆⟩ := of_bind_ok rest₅
  obtain ⟨after, taken', rest₇⟩ := of_bind_ok rest₆
  obtain ⟨_, unchanged, _⟩ := of_bind_ok rest₇
  obtain rfl : after = before := not_not.mp (raiseIf_ok unchanged)
  exact ⟨bound, after, taken, taken'⟩

/-- Two captures with one binding agree, whatever they are captures of. Therefore a delegation that
completes has met the same task, profile, scope and repository before the session and after it. -/
theorem binding_injective (ideal : RawSha256.CollisionFree) :
    (∀ (capture capture' : Capture) (envelope envelope' : AdvisoryEnvelope)
        (inventory inventory' : AgentInventory) (bound bound' : BoundScope)
        (expected expected' : String) (binding : AdvisoryStateBinding),
      capture.binding envelope (inventory.child envelope.role) bound expected = .ok binding →
      capture'.binding envelope' (inventory'.child envelope'.role) bound' expected' = .ok binding →
      Agree capture capture' envelope envelope' (inventory.child envelope.role)
        (inventory'.child envelope'.role) bound.scope bound'.scope) ∧
    ∀ (session : AdvisorySession) (role : AdvisoryRole) (payload : Payload)
        (worker : CopilotSdkAdvisoryWorker) (s : Surroundings) (depth : Int) (run : Delegated),
      session.delegate role payload (some (worker.call s)) depth = .ok run →
      run.outcome.status = .completed →
      ∃ (envelope : AdvisoryEnvelope) (bound : BoundScope), run.handed = some envelope ∧
        Agree s.before s.after envelope envelope (worker.profileInventory.child envelope.role)
          (worker.profileInventory.child envelope.role) bound.scope bound.scope := by
  constructor
  · intro capture capture' envelope envelope' inventory inventory' bound bound' expected expected'
      binding taken taken'
    refine binding_agree ideal taken taken' fun role => ?_
    rw [role]
    exact child_path inventory inventory' envelope'.role
  · intro session role payload worker s depth run delegated completed
    obtain ⟨-, not_completed⟩ | ⟨route, copy, call, -, -, given, handed, outcome⟩ :=
      delegate_cases delegated
    · exact absurd completed not_completed
    · rw [outcome] at completed
      obtain ⟨report, ran, -, -⟩ := outcomeOf_completed completed
      cases given
      obtain ⟨bound, binding, taken, taken'⟩ := call_ok ran
      exact ⟨_, bound, handed, binding_agree ideal taken taken' fun _ => rfl⟩

end MasterAgent.Advisory

/-! ## A task in two orders -/

namespace MasterAgent.Advisory.Binding.Samples
open Base Base.GitObjects

attribute [local instance] spellingHost asciiTables

/-- A digest that is the text itself. -/
@[reducible]
def plainSha256 : RawSha256 := ⟨id⟩

attribute [local instance] plainSha256

theorem ideal : RawSha256.CollisionFree := ⟨fun _ _ same => same⟩

def stat : FileStat := ⟨1, 2, .regular, 420, 1, 2, 0, 0⟩

def note : FileCalls := ⟨.found stat, .absent, some stat, [104, 105], stat, some stat⟩

def listing : Bytes := utf8 "a.md" ++ [NUL]

def route : ScopeCalls :=
  ⟨true, fun _ => some stat, fun _ => some listing, fun _ => note⟩

def snapshot : Snapshot :=
  ⟨some (List.replicate 40 97), some [], some listing, fun _ => note⟩

def scope : AdvisoryPathScope :=
  ⟨[utf8 "a.md"], [utf8 "a.md"], [⟨utf8 "a.md", stat, some "6869"⟩],
    Credentials.Sha256.hexdigest (utf8 (Json.dumps (.obj [("files", .arr [.obj [("content_digest", .str "6869"),
      ("path", .str "a.md"), ("size", .int 2)]]), ("paths", .arr [.str "a.md"])])))⟩

def bound : BoundScope := ⟨scope, route, ["a.md"], by decide +kernel⟩

def capture : Capture := ⟨route, snapshot, snapshot⟩

def overview : SemanticRouteSlice :=
  ⟨⟨"docs", "Docs", "stable", "Guide", ["a.md"], [], [], [], [], []⟩, by decide +kernel⟩

def inventory : AgentInventory :=
  ⟨⟨PARENT_PROFILE_PATH, "P", "parent", [], true, true, "b"⟩,
    ⟨RESEARCHER_PROFILE_PATH, "R", "researcher", ["read"], false, true, "b"⟩,
    ⟨PLAN_REVIEWER_PROFILE_PATH, "V", "reviewer", ["read"], false, true, "b"⟩, rfl, rfl, rfl⟩

/-- A task with two keys. -/
def envelope (payload : Fields) : AdvisoryEnvelope :=
  ⟨"t", .research, "R", 0, overview, .obj payload⟩

def forth : AdvisoryEnvelope := envelope [("q", .str "why"), ("r", .null)]
def back : AdvisoryEnvelope := envelope [("r", .null), ("q", .str "why")]

theorem valid : bound.scope.validate capture.route = .ok () := by decide +kernel

/-- The repository is bound, and the worker is told its digest. -/
theorem bound_repository : ∃ state, repositoryStateBinding snapshot snapshot = .ok state :=
  ok_of_isOk (by decide +kernel)

theorem taken {expected : String} {state : AdvisoryRepositoryState}
    (repository : repositoryStateBinding snapshot snapshot = .ok state)
    (told : state.digest = expected) (envelope : AdvisoryEnvelope) (profile : AgentProfile) :
    capture.binding envelope profile bound expected = .ok ⟨taskDigest envelope, state.digest,
      profileDigest profile, scope.digest, routeDigest expected envelope.semanticRoute⟩ := by
  have passed : raiseIf (state.digest ≠ expected) (copilotRepositoryChanged
      "semantic route authorization does not match repository state") = .ok () :=
    if_neg (not_not.mpr told)
  rw [Capture.binding, valid, ok_bind, show repositoryStateBinding capture.first capture.second = _
    from repository, ok_bind, passed, ok_bind]
  rfl

/-- The two orders of the keys are bound alike, and the captures agree. -/
theorem orders_agree : ∃ expected binding,
    capture.binding forth (inventory.child .research) bound expected = .ok binding ∧
    capture.binding back (inventory.child .research) bound expected = .ok binding ∧
    Agree capture capture forth back (inventory.child .research) (inventory.child .research)
      bound.scope bound.scope := by
  obtain ⟨state, repository⟩ := bound_repository
  have documents : back.document = forth.document := by decide
  have tasks : taskDigest back = taskDigest forth := by rw [taskDigest, taskDigest, documents]
  have takenForth := taken repository rfl forth (inventory.child .research)
  have takenBack := taken repository rfl back (inventory.child .research)
  rw [tasks] at takenBack
  exact ⟨_, _, takenForth, takenBack, (binding_injective ideal).1 capture capture forth back
    inventory inventory bound bound _ _ _ takenForth takenBack⟩

end MasterAgent.Advisory.Binding.Samples
