import MasterAgent.Performance.Snapshot

/-!
# The performance recorder

`PerformanceRecorder`: the calls that record evidence, each with the exception it may raise and
the recorder it leaves, and the snapshot of the current evidence. A call that raises may have
recorded a part of its event already.

Results:

1. `sound_step`: every call keeps the redundant counts in agreement, but for the transport phases;
2. `snapshot_ok_iff`: when the evidence of a recorder can be frozen;
3. `faithful_run_iff`: which runs keep it so.
-/

namespace MasterAgent.Performance
open Base StrEnum

/-! ## State -/

/-- One value of the wall clock and one of the CPU clock. -/
structure Reading where
  wall : ℚ
  cpu : ℚ

/-- One of the clocks has run backwards. -/
def Reading.Before (now started : Reading) : Prop := now.wall < started.wall ∨ now.cpu < started.cpu

instance (now started : Reading) : Decidable (now.Before started) :=
  inferInstanceAs (Decidable (_ ∨ _))

/-- `_StageAccumulator` -/
structure StageAccumulator where
  wallSeconds : ℚ
  cpuSeconds : ℚ
  occurrences : Int

/-- The attributes of the recorder, and the spans whose blocks have been entered. -/
structure Recorder where
  measurementMode : MeasurementMode
  caseId : PerformanceCase
  commitIdentity : String
  platform : String
  runtimeBackend : String
  masterAgentVersion : String
  stages : PerformanceStage → StageAccumulator
  counters : PerformanceCounter → Int
  transportCalls : TransportPhase → Int
  retries : RetryReason → Int
  outcomes : PerformanceOutcome → Int
  providerActivity : KnownSystem → ProviderActivity → Int
  capabilities : List String
  risks : List String
  systems : List String
  implementations : List (String × String)
  credentialResolutionSystems : List String
  totalStarted : Option Reading
  isSealed : Bool
  opened : List (PerformanceStage × Reading)

/-- `_runtime_identity` of `sys.platform`. -/
def runtimeIdentity (sysPlatform : String) : String × String :=
  if sysPlatform = "darwin" then ("macos", "posix-macos")
  else if sysPlatform = "linux" ∨ sysPlatform = "linux2" then ("linux", "posix-linux")
  else if sysPlatform = "win32" then ("windows", "windows-native-partial")
  else ("unsupported", "unsupported")

/-- `PerformanceRecorder(…)` on a platform, with the version that is installed, if any. -/
def Recorder.new [Host] (sysPlatform : String) (installed : Option String)
    (measurementMode : MeasurementMode) (caseId : PerformanceCase) (commitIdentity : String) :
    Recorder where
  measurementMode := measurementMode
  caseId := caseId
  commitIdentity := boundedCommit commitIdentity
  platform := (runtimeIdentity sysPlatform).1
  runtimeBackend := (runtimeIdentity sysPlatform).2
  masterAgentVersion := (installed.map boundedVersion).getD "unbound"
  stages _ := ⟨0, 0, 0⟩
  counters _ := 0
  transportCalls _ := 0
  retries _ := 0
  outcomes _ := 0
  providerActivity _ _ := 0
  capabilities := []
  risks := []
  systems := []
  implementations := []
  credentialResolutionSystems := []
  totalStarted := none
  isSealed := false
  opened := []

/-- How a call ends: with an exception or not, and the recorder it leaves. -/
structure Ended where
  raised : Option Exn
  recorder : Recorder

def Ended.andThen (ended : Ended) (next : Recorder → Ended) : Ended :=
  match ended.raised with
  | none => next ended.recorder
  | some _ => ended

namespace Recorder

/-- A call that begins with `_ensure_mutable`. -/
def mutably (r : Recorder) (body : Ended) : Ended :=
  if r.isSealed then ⟨some (runtimeError "performance recorder is finalized"), r⟩ else body

/-- `_bounded_add`; an amount that is no integer is `none`. -/
def boundedAdd (current : Int) (amount : Option Int) : Except Exn Int :=
  match amount with
  | none => .error (typeError "performance count increments must be integers")
  | some n =>
      if n < 0 ∨ MAX_COUNT < current + n then
        .error (valueError "performance count exceeds its bounded range")
      else .ok (current + n)

/-- An assignment of a new count, when there is one. -/
def assigning (r : Recorder) (count : Except Exn Int) (assign : Int → Recorder) : Ended :=
  match count with
  | .error raised => ⟨some raised, r⟩
  | .ok n => ⟨none, assign n⟩

/-! ## Calls -/

def addSystem (r : Recorder) (system : String) : Recorder :=
  { r with systems := r.systems.insert system }

/-- `increment` -/
def increment (r : Recorder) (counter : PerformanceCounter) (amount : Option Int) : Ended :=
  r.mutably <| r.assigning (boundedAdd (r.counters counter) amount) fun n =>
    { r with counters := Function.update r.counters counter n }

/-- The row of a bounded system. -/
def systemRow (system : String) : KnownSystem := (parse? system).getD .other

/-- `_increment_provider` by one. -/
def incrementProvider (r : Recorder) (system : Option String) (activity : ProviderActivity) :
    Ended :=
  r.mutably <|
    let selected := boundedSystem system
    let r := r.addSystem selected
    let row := r.providerActivity (systemRow selected)
    r.assigning (boundedAdd (row activity) (some 1)) fun n =>
      { r with
        providerActivity := Function.update r.providerActivity (systemRow selected)
          (Function.update row activity n) }

/-- One event of a provider: its counter, then the row of the system. -/
def recordProvider (r : Recorder) (system : Option String) (counter : PerformanceCounter)
    (activity : ProviderActivity) : Ended :=
  let selected := boundedSystem system
  ((r.addSystem selected).increment counter (some 1)).andThen fun r =>
    r.incrementProvider (some selected) activity

/-- What the connector methods require of an implementation, which is `none` when it is no
string. -/
def implementationError (implementation : Option String) : Option Exn :=
  match implementation with
  | none => some (typeError "connector implementation identity must be a string")
  | some text =>
      if text ≠ NATIVE_CONNECTOR_IMPLEMENTATION then
        some (valueError "connector implementation identity is unsupported")
      else none

/-- `record_dimensions` -/
def recordDimensions (r : Recorder) (capabilities riskTiers systems : List (Option String)) :
    Ended :=
  r.mutably ⟨none, { r with
    capabilities := (capabilities.map boundedCapability).foldl (fun known v => known.insert v)
      r.capabilities
    risks := (riskTiers.map boundedRisk).foldl (fun known v => known.insert v) r.risks
    systems := (systems.map boundedSystem).foldl (fun known v => known.insert v) r.systems }⟩

/-- `record_connector_implementation` -/
def recordConnectorImplementation (r : Recorder) (system implementation : Option String) : Ended :=
  r.mutably <|
    let selected := boundedSystem system
    match implementationError implementation with
    | some raised => ⟨some raised, r⟩
    | none =>
        let text := implementation.getD ""
        let r := r.addSystem selected
        match r.implementations.lookup selected with
        | none => ⟨none, { r with implementations := r.implementations ++ [(selected, text)] }⟩
        | some previous =>
            if previous ≠ text then
              ⟨some (valueError "connector implementation identity changed within the run"), r⟩
            -- the same implementation is assigned to a key that has it
            else ⟨none, r⟩

/-- `record_connector_initialization` -/
def recordConnectorInitialization (r : Recorder) (system implementation : Option String) : Ended :=
  r.mutably <|
    match implementationError implementation with
    | some raised => ⟨some raised, r⟩
    | none => r.recordProvider system .connectorInitializations .connectorInitializations

/-- `record_credential_resolution` -/
def recordCredentialResolution (r : Recorder) (system : Option String) : Ended :=
  r.mutably <|
    let selected := boundedSystem system
    if selected ∈ r.credentialResolutionSystems then ⟨none, r.addSystem selected⟩
    else
      { r with
        credentialResolutionSystems := r.credentialResolutionSystems.insert selected
        }.recordProvider system .credentialResolutions .credentialResolutions

/-- `record_principal_attestation` -/
def recordPrincipalAttestation (r : Recorder) (system : Option String) : Ended :=
  r.mutably <| r.recordProvider system .principalAttestations .principalAttestations

/-- `record_verification_call` -/
def recordVerificationCall (r : Recorder) (system : Option String) : Ended :=
  r.mutably <| r.recordProvider system .verificationCalls .verificationCalls

/-- `record_transport_attempt` of a context; a phase that is no `TransportPhase` is `none`. -/
def recordTransportAttempt (r : Recorder) (phase : Option TransportPhase)
    (system : Option String) : Ended :=
  r.mutably <|
    match phase with
    | none => ⟨some (typeError "performance transport phase must be fixed"), r⟩
    | some phase =>
        (r.assigning (boundedAdd (r.transportCalls phase) (some 1)) fun n =>
          { r with transportCalls := Function.update r.transportCalls phase n }).andThen fun r =>
            if phase = .principalAttestation then ⟨none, r⟩
            else (r.increment .providerTransportCalls (some 1)).andThen fun r =>
              r.incrementProvider system .providerTransportCalls

/-- `record_retry` -/
def recordRetry (r : Recorder) (reason : Option RetryReason) : Ended :=
  r.mutably <|
    match reason with
    | none => ⟨some (typeError "performance retry reason must be fixed"), r⟩
    | some reason => (r.increment .retries (some 1)).andThen fun r =>
        r.assigning (boundedAdd (r.retries reason) (some 1)) fun n =>
          { r with retries := Function.update r.retries reason n }

/-- `record_outcome` -/
def recordOutcome (r : Recorder) (outcome : Option PerformanceOutcome) (amount : Option Int) :
    Ended :=
  r.mutably <|
    match outcome with
    | none => ⟨some (typeError "performance outcome must be fixed"), r⟩
    | some outcome => r.assigning (boundedAdd (r.outcomes outcome) amount) fun n =>
        { r with outcomes := Function.update r.outcomes outcome n }

/-- `set_case` -/
def setCase (r : Recorder) (caseId : Option PerformanceCase) : Ended :=
  r.mutably <|
    match caseId with
    | none => ⟨some (typeError "performance case must be fixed"), r⟩
    | some caseId => ⟨none, { r with caseId := caseId }⟩

/-! ### Intervals -/

def clocksMonotonic : Exn := runtimeError "performance clocks must be monotonic"

/-- One occurrence of a stage. Its time is added before its occurrence is counted. -/
def accumulate (r : Recorder) (stage : PerformanceStage) (started now : Reading) : Ended :=
  if now.Before started then ⟨some clocksMonotonic, r⟩
  else
    let spent : StageAccumulator :=
      { r.stages stage with
        wallSeconds := (r.stages stage).wallSeconds + (now.wall - started.wall)
        cpuSeconds := (r.stages stage).cpuSeconds + (now.cpu - started.cpu) }
    { r with stages := Function.update r.stages stage spent }.assigning
      (boundedAdd spent.occurrences (some 1)) fun n =>
        { r with stages := Function.update r.stages stage { spent with occurrences := n } }

/-- The entry of `span`. -/
def spanEnter (r : Recorder) (stage : Option PerformanceStage) (now : Reading) : Ended :=
  match stage with
  | none => ⟨some (typeError "performance stage must be fixed"), r⟩
  | some stage => r.mutably ⟨none, { r with opened := (stage, now) :: r.opened }⟩

/-- The exit of one of the spans that are open. -/
def spanExit (r : Recorder) (index : Nat) (now : Reading) : Ended :=
  match r.opened[index]? with
  | none => ⟨none, r⟩
  | some (stage, started) =>
      let r := { r with opened := r.opened.eraseIdx index }
      r.mutably (r.accumulate stage started now)

/-- `begin_total` -/
def beginTotal (r : Recorder) (now : Reading) : Ended :=
  if r.isSealed then
    ⟨some (runtimeError "performance recorder cannot be reused for another run"), r⟩
  else if r.totalStarted.isSome then
    ⟨some (runtimeError "performance total interval is already active"), r⟩
  else if (r.stages .endToEndTotal).occurrences ≠ 0 then
    ⟨some (runtimeError "performance recorder cannot be reused for another run"), r⟩
  else ⟨none, { r with totalStarted := some now }⟩

/-- `end_total` -/
def endTotal (r : Recorder) (now : Reading) : Ended :=
  match r.totalStarted with
  | none => ⟨some (runtimeError "performance total interval is not active"), r⟩
  | some started => (r.accumulate .endToEndTotal started now).andThen fun r =>
      ⟨none, { r with totalStarted := none, isSealed := true }⟩

/-- `finish_total` -/
def finishTotal (r : Recorder) (now : Reading) : Ended :=
  if r.totalStarted.isSome then r.endTotal now else ⟨none, r⟩

end Recorder

/-! ## Runs -/

/-- The counters that a record method counts. -/
def PerformanceCounter.hasMethod : PerformanceCounter → Bool
  | .connectorInitializations | .credentialResolutions | .principalAttestations
  | .providerTransportCalls | .verificationCalls | .retries => true
  | _ => false

/-- One call, with the values that the clocks return to it. -/
inductive Call where
  | setCase (caseId : Option PerformanceCase)
  | spanEnter (stage : Option PerformanceStage) (now : Reading)
  | spanExit (index : Nat) (now : Reading)
  | beginTotal (now : Reading)
  | endTotal (now : Reading)
  | finishTotal (now : Reading)
  | recordDimensions (capabilities riskTiers systems : List (Option String))
  | recordConnectorImplementation (system implementation : Option String)
  | recordConnectorInitialization (system implementation : Option String)
  | recordCredentialResolution (system : Option String)
  | recordPrincipalAttestation (system : Option String)
  | recordVerificationCall (system : Option String)
  | recordTransportAttempt (phase : Option TransportPhase) (system : Option String)
  | recordRetry (reason : Option RetryReason)
  | recordOutcome (outcome : Option PerformanceOutcome) (amount : Option Int)
  | increment (counter : { c : PerformanceCounter // c.hasMethod = false }) (amount : Option Int)

def Recorder.step (r : Recorder) : Call → Ended
  | .setCase caseId => r.setCase caseId
  | .spanEnter stage now => r.spanEnter stage now
  | .spanExit index now => r.spanExit index now
  | .beginTotal now => r.beginTotal now
  | .endTotal now => r.endTotal now
  | .finishTotal now => r.finishTotal now
  | .recordDimensions capabilities riskTiers systems =>
      r.recordDimensions capabilities riskTiers systems
  | .recordConnectorImplementation system implementation =>
      r.recordConnectorImplementation system implementation
  | .recordConnectorInitialization system implementation =>
      r.recordConnectorInitialization system implementation
  | .recordCredentialResolution system => r.recordCredentialResolution system
  | .recordPrincipalAttestation system => r.recordPrincipalAttestation system
  | .recordVerificationCall system => r.recordVerificationCall system
  | .recordTransportAttempt phase system => r.recordTransportAttempt phase system
  | .recordRetry reason => r.recordRetry reason
  | .recordOutcome outcome amount => r.recordOutcome outcome amount
  | .increment counter amount => r.increment counter amount

/-- The recorder after a sequence of calls, whichever of them raise. -/
def Recorder.run (r : Recorder) (calls : List Call) : Recorder :=
  calls.foldl (fun r call => (r.step call).recorder) r

/-! ## Snapshots -/

section
variable [Durations]

/-- The times and occurrences of a stage, with the active total interval. -/
def Recorder.measured (r : Recorder) (now : Reading) (stage : PerformanceStage) :
    StageAccumulator :=
  match r.totalStarted with
  | some started =>
      if stage = .endToEndTotal then
        ⟨(r.stages stage).wallSeconds + (now.wall - started.wall),
          (r.stages stage).cpuSeconds + (now.cpu - started.cpu), (r.stages stage).occurrences + 1⟩
      else r.stages stage
  | none => r.stages stage

/-- The counters with the numbers of selected systems and implementations. -/
def Recorder.selectedCounters (r : Recorder) : PerformanceCounter → Int :=
  Function.update (Function.update r.counters .selectedSystems r.systems.length)
    .selectedConnectorImplementations r.implementations.length

/-- What `snapshot` hands to the constructor. -/
def Recorder.snapshotFields (r : Recorder) (implementations : List ConnectorImplementationDimension)
    (stages : List StageMeasurement) : SnapshotFields where
  measurementMode := r.measurementMode
  caseId := r.caseId
  platform := r.platform
  runtimeBackend := r.runtimeBackend
  masterAgentVersion := r.masterAgentVersion
  commitIdentity := r.commitIdentity
  capabilities := sortBy id r.capabilities
  riskTiers := sortBy id r.risks
  systems := sortBy id r.systems
  connectorImplementations := implementations
  stages := stages
  counters := r.selectedCounters
  transportCallsByPhase := r.transportCalls
  retriesByReason := r.retries
  outcomes := r.outcomes
  providerActivity := r.providerActivity
  schema := PERFORMANCE_SCHEMA

/-- `snapshot`, with the values that the clocks return to it. -/
def Recorder.snapshot [Host] (r : Recorder) (now : Reading) : Except Exn PerformanceSnapshot :=
  if r.totalStarted.any (fun started => decide (now.Before started)) then
    .error Recorder.clocksMonotonic
  else do
    let implementations ← (sortBy id (r.implementations.map Prod.fst)).mapM fun system =>
      ConnectorImplementationDimension.new system ((r.implementations.lookup system).getD "") true
    let stages ← (members : List PerformanceStage).mapM fun stage =>
      let measured := r.measured now stage
      StageMeasurement.new stage measured.wallSeconds measured.cpuSeconds measured.occurrences
    PerformanceSnapshot.new (r.snapshotFields implementations stages)

end

/-! ## Agreement of the counters -/

def InRange (n : Int) : Prop := 0 ≤ n ∧ n ≤ MAX_COUNT

/-- The counter that counts an activity over all systems. -/
def ProviderActivity.counter : ProviderActivity → PerformanceCounter
  | .credentialResolutions => .credentialResolutions
  | .connectorInitializations => .connectorInitializations
  | .principalAttestations => .principalAttestations
  | .providerTransportCalls => .providerTransportCalls
  | .verificationCalls => .verificationCalls

/-- A set of values that a mapper has bounded. -/
structure BoundedSet (mapper : Option String → String) (values : List String) : Prop where
  distinct : values.Nodup
  bounded : ∀ value ∈ values, mapper (some value) = value

/-- What every call keeps. -/
structure Sound (r : Recorder) : Prop where
  counters : ∀ c, InRange (r.counters c)
  calls : ∀ p, InRange (r.transportCalls p)
  retries : ∀ e, InRange (r.retries e)
  outcomes : ∀ e, InRange (r.outcomes e)
  activity : ∀ system a, InRange (r.providerActivity system a)
  stages : ∀ s, 0 ≤ (r.stages s).wallSeconds ∧ 0 ≤ (r.stages s).cpuSeconds ∧
    InRange (r.stages s).occurrences
  rows : ∀ a : ProviderActivity, r.counters a.counter = activityTotal r.providerActivity a
  retried : r.counters .retries = total r.retries
  capabilities : BoundedSet boundedCapability r.capabilities
  risks : BoundedSet boundedRisk r.risks
  systems : BoundedSet boundedSystem r.systems
  implemented : (r.implementations.map Prod.fst).Nodup
  selected : ∀ p ∈ r.implementations, p.1 ∈ r.systems ∧ p.2 = NATIVE_CONNECTOR_IMPLEMENTATION
  platform : (boundedRuntimeValue r.platform).1 = true
  backend : (boundedRuntimeValue r.runtimeBackend).1 = true
  ended : r.isSealed = true → r.totalStarted = none

/-- A recorder starts with nothing counted. -/
theorem sound_new [Host] (sysPlatform : String) (installed : Option String)
    (measurementMode : MeasurementMode) (caseId : PerformanceCase) (commitIdentity : String) :
    Sound (.new sysPlatform installed measurementMode caseId commitIdentity) := by
  have zero : InRange 0 := ⟨le_refl 0, by decide⟩
  have none (mapper : Option String → String) : BoundedSet mapper [] :=
    ⟨List.nodup_nil, fun _ listed => nomatch listed⟩
  have known : (boundedRuntimeValue (runtimeIdentity sysPlatform).1).1 = true ∧
      (boundedRuntimeValue (runtimeIdentity sysPlatform).2).1 = true := by
    unfold runtimeIdentity
    repeat' split
    all_goals exact ⟨by decide, by decide⟩
  exact
    { counters := fun _ => zero
      calls := fun _ => zero
      retries := fun _ => zero
      outcomes := fun _ => zero
      activity := fun _ _ => zero
      stages := fun _ => ⟨le_refl 0, le_refl 0, zero⟩
      rows := fun _ => rfl
      retried := rfl
      capabilities := none _
      risks := none _
      systems := none _
      implemented := List.nodup_nil
      selected := fun _ listed => nomatch listed
      platform := known.1
      backend := known.2
      ended := fun _ => rfl }

/-! ### Sets -/

theorem BoundedSet.insert {mapper : Option String → String} {values : List String} {value : String}
    (h : BoundedSet mapper values) (bounded : mapper (some value) = value) :
    BoundedSet mapper (values.insert value) :=
  ⟨h.distinct.insert, fun other member => by
    rcases List.mem_insert_iff.mp member with rfl | member
    · exact bounded
    · exact h.bounded other member⟩

theorem BoundedSet.update {mapper : Option String → String}
    (idem : ∀ v, mapper (some (mapper v)) = mapper v) (given : List (Option String))
    {values : List String} (h : BoundedSet mapper values) :
    BoundedSet mapper ((given.map mapper).foldl (fun known v => known.insert v) values) := by
  induction given generalizing values with
  | nil => exact h
  | cons v rest ih => exact ih (h.insert (idem v))

theorem subset_update {value : String} (given : List String) {values : List String}
    (member : value ∈ values) : value ∈ given.foldl (fun known v => known.insert v) values := by
  induction given generalizing values with
  | nil => exact member
  | cons v rest ih => exact ih (List.mem_insert_of_mem member)

theorem Sound.addSystem {r : Recorder} (h : Sound r) (system : Option String) :
    Sound (r.addSystem (boundedSystem system)) :=
  { h with
    systems := h.systems.insert (boundedText_idem knownSystems system)
    selected := fun p listed => ⟨List.mem_insert_of_mem (h.selected p listed).1,
      (h.selected p listed).2⟩ }

/-! ### Counts -/

theorem of_boundedAdd_ok {current n : Int} {amount : Option Int} (range : InRange current)
    (added : Recorder.boundedAdd current amount = .ok n) : InRange n := by
  unfold Recorder.boundedAdd at added
  split at added
  · cases added
  split at added
  · cases added
  · cases added
    unfold InRange at range ⊢
    omega

theorem boundedAdd_one {current : Int} (below : current < MAX_COUNT) :
    Recorder.boundedAdd current (some 1) = .ok (current + 1) :=
  if_neg (by omega)

theorem boundedAdd_full {current : Int} (full : ¬current < MAX_COUNT) : ∃ raised,
    Recorder.boundedAdd current (some 1) = .error raised :=
  ⟨_, if_pos (.inr (by omega))⟩

theorem inRange_update {E : Type} [DecidableEq E] {counts : E → Int} {e : E} {n : Int}
    (h : ∀ d, InRange (counts d)) (range : InRange n) (d : E) :
    InRange (Function.update counts e n d) := by
  by_cases same : d = e
  · rw [same, Function.update_self]
    exact range
  · rw [Function.update_of_ne same]
    exact h d

theorem InRange.succ {n : Int} (h : InRange n) (below : n < MAX_COUNT) : InRange (n + 1) := by
  unfold InRange at h ⊢
  omega

/-! ### Calls -/

theorem mutably_cases {r : Recorder} {body : Ended} {P : Recorder → Prop} (same : P r)
    (open_ : r.isSealed = false → P body.recorder) : P (r.mutably body).recorder := by
  unfold Recorder.mutably
  split
  · exact same
  · next unsealed => exact open_ (Bool.eq_false_iff.mpr unsealed)

theorem assigning_cases {r : Recorder} {count : Except Exn Int} {assign : Int → Recorder}
    {P : Recorder → Prop} (same : P r) (assigned : ∀ n, count = .ok n → P (assign n)) :
    P (r.assigning count assign).recorder := by
  cases count with
  | error raised => exact same
  | ok n => exact assigned n rfl

/-- One event of a provider is recorded: its counter, and the row of the system. -/
def Recorder.counted (r : Recorder) (system : Option String) (a : ProviderActivity) : Recorder :=
  let r := r.addSystem (boundedSystem system)
  let row := r.providerActivity (Recorder.systemRow (boundedSystem system))
  { r with
    counters := Function.update r.counters a.counter (r.counters a.counter + 1)
    providerActivity := Function.update r.providerActivity
      (Recorder.systemRow (boundedSystem system)) (Function.update row a (row a + 1)) }

theorem mutably_unsealed {r : Recorder} {body : Ended} (unsealed : r.isSealed = false) :
    r.mutably body = body := by
  unfold Recorder.mutably
  rw [unsealed]
  rfl

/-- A row is no fuller than the counter of all systems. -/
theorem Sound.row_below {r : Recorder} (h : Sound r) {a : ProviderActivity}
    (below : r.counters a.counter < MAX_COUNT) (system : KnownSystem) :
    r.providerActivity system a < MAX_COUNT := by
  refine lt_of_le_of_lt ?_ below
  rw [h.rows a]
  exact @StrEnum.le_total _ _ (fun s => r.providerActivity s a) (fun s => (h.activity s a).1) system

/-- The counter refuses first: a row is never fuller than the counter of all systems. -/
theorem count_spec {r : Recorder} (h : Sound r) (unsealed : r.isSealed = false)
    (system : Option String) (a : ProviderActivity) :
    ((r.increment a.counter (some 1)).andThen fun r => r.incrementProvider system a).recorder =
      if r.counters a.counter < MAX_COUNT then r.counted system a else r := by
  unfold Recorder.increment
  rw [mutably_unsealed unsealed]
  by_cases below : r.counters a.counter < MAX_COUNT
  · have row := h.row_below below (Recorder.systemRow (boundedSystem system))
    rw [if_pos below, boundedAdd_one below]
    show (Recorder.incrementProvider _ system a).recorder = _
    unfold Recorder.incrementProvider
    rw [mutably_unsealed (by exact unsealed)]
    show (Recorder.assigning _ (Recorder.boundedAdd
      (r.providerActivity (Recorder.systemRow (boundedSystem system)) a) (some 1)) _).recorder = _
    rw [boundedAdd_one row]
    rfl
  · obtain ⟨raised, refused⟩ := boundedAdd_full below
    rw [if_neg below, refused]
    rfl

theorem recordProvider_spec {r : Recorder} (h : Sound r) (unsealed : r.isSealed = false)
    (system : Option String) (a : ProviderActivity) :
    (r.recordProvider system a.counter a).recorder =
      let r := r.addSystem (boundedSystem system)
      if r.counters a.counter < MAX_COUNT then r.counted (some (boundedSystem system)) a else r :=
  count_spec (h.addSystem system) unsealed _ a

theorem counter_injective : Function.Injective ProviderActivity.counter := by
  intro a b same
  cases a <;> cases b <;> first | rfl | cases same

theorem activityTotal_update (rows : KnownSystem → ProviderActivity → Int) (system : KnownSystem)
    (a b : ProviderActivity) :
    activityTotal (Function.update rows system (Function.update (rows system) a (rows system a + 1)))
      b = activityTotal rows b + if b = a then 1 else 0 := by
  unfold activityTotal
  by_cases same : b = a
  · subst same
    rw [if_pos rfl, ← total_update system 1 fun s => rows s b]
    congr 1
    funext s
    by_cases here : s = system
    · subst here
      simp
    · simp [here]
  · rw [if_neg same, Int.add_zero]
    congr 1
    funext s
    by_cases here : s = system
    · subst here
      simp [same]
    · simp [here]

/-- A recorded event keeps the counter and the rows in agreement. -/
theorem Sound.counted {r : Recorder} (h : Sound r) (system : Option String) (a : ProviderActivity)
    (below : r.counters a.counter < MAX_COUNT) : Sound (r.counted system a) := by
  have row := h.row_below below (Recorder.systemRow (boundedSystem system))
  refine { h.addSystem system with
    counters := inRange_update h.counters ((h.counters a.counter).succ below)
    activity := ?_
    rows := ?_
    retried := ?_ }
  · intro s b
    show InRange (Function.update r.providerActivity _ _ s b)
    by_cases here : s = Recorder.systemRow (boundedSystem system)
    · rw [here, Function.update_self]
      exact inRange_update (h.activity _) ((h.activity _ a).succ row) b
    · rw [Function.update_of_ne here]
      exact h.activity s b
  · intro b
    refine Eq.trans ?_ (activityTotal_update r.providerActivity _ a b).symm
    show Function.update r.counters a.counter (r.counters a.counter + 1) b.counter = _
    by_cases same : b = a
    · subst same
      rw [Function.update_self, if_pos rfl, h.rows b]
    · rw [Function.update_of_ne fun eq => same (counter_injective eq), if_neg same, h.rows b,
        Int.add_zero]
  · show Function.update r.counters a.counter _ .retries = _
    rw [Function.update_of_ne (by cases a <;> decide)]
    exact h.retried

/-- The part of a recorder that decides whether its evidence can be frozen. -/
def Recorder.core (r : Recorder) : Int × (TransportPhase → Int) × Option Reading × Int :=
  (r.counters .providerTransportCalls, r.transportCalls, r.totalStarted,
    (r.stages .endToEndTotal).occurrences)

/-- A call that records other evidence. -/
def Keeps (r r' : Recorder) : Prop := Sound r' ∧ r'.core = r.core

theorem Keeps.mutably {r : Recorder} {body : Ended} (h : Sound r)
    (unsealed : r.isSealed = false → Keeps r body.recorder) : Keeps r (r.mutably body).recorder :=
  mutably_cases (P := Keeps r) ⟨h, rfl⟩ unsealed

theorem keeps_recordProvider {r : Recorder} (h : Sound r) (unsealed : r.isSealed = false)
    (system : Option String) {a : ProviderActivity} (other : a ≠ .providerTransportCalls) :
    Keeps r (r.recordProvider system a.counter a).recorder := by
  rw [recordProvider_spec h unsealed]
  dsimp only
  split
  · next below =>
      refine ⟨(h.addSystem system).counted _ a below, ?_⟩
      have apart : PerformanceCounter.providerTransportCalls ≠ a.counter :=
        fun same => other (counter_injective (by exact same.symm))
      unfold Recorder.core
      congr 1
      exact Function.update_of_ne apart _ _
  · exact ⟨h.addSystem system, rfl⟩

theorem keeps_setCase {r : Recorder} (h : Sound r) (caseId : Option PerformanceCase) :
    Keeps r (r.setCase caseId).recorder := by
  refine Keeps.mutably h fun _ => ?_
  cases caseId with
  | none => exact ⟨h, rfl⟩
  | some caseId => exact ⟨{ h with }, rfl⟩

theorem keeps_spanEnter {r : Recorder} (h : Sound r) (stage : Option PerformanceStage)
    (now : Reading) : Keeps r (r.spanEnter stage now).recorder := by
  cases stage with
  | none => exact ⟨h, rfl⟩
  | some stage => exact Keeps.mutably h fun _ => ⟨{ h with }, rfl⟩

theorem keeps_recordDimensions {r : Recorder} (h : Sound r)
    (capabilities riskTiers systems : List (Option String)) :
    Keeps r (r.recordDimensions capabilities riskTiers systems).recorder := by
  refine Keeps.mutably h fun _ => ⟨?_, rfl⟩
  exact
    { h with
      capabilities := h.capabilities.update (boundedText_idem knownCapabilities) capabilities
      risks := h.risks.update (boundedText_idem knownRisks) riskTiers
      systems := h.systems.update (boundedText_idem knownSystems) systems
      selected := fun p listed => ⟨subset_update _ (h.selected p listed).1,
        (h.selected p listed).2⟩ }

theorem native_of_accepted {implementation : Option String}
    (accepted : Recorder.implementationError implementation = none) :
    implementation = some NATIVE_CONNECTOR_IMPLEMENTATION := by
  unfold Recorder.implementationError at accepted
  split at accepted
  · cases accepted
  · split at accepted
    · cases accepted
    · next text same => rw [not_not.mp same]

theorem keeps_recordConnectorImplementation {r : Recorder} (h : Sound r)
    (system implementation : Option String) :
    Keeps r (r.recordConnectorImplementation system implementation).recorder := by
  refine Keeps.mutably h fun _ => ?_
  dsimp only
  split
  · exact ⟨h, rfl⟩
  next accepted =>
    have native := native_of_accepted accepted
    subst native
    split
    · next absent =>
        refine ⟨{ h.addSystem system with
          implemented := ?_
          selected := ?_ }, rfl⟩
        · rw [List.map_append]
          refine h.implemented.append (List.nodup_singleton _) ?_
          intro key listed same
          obtain ⟨p, member, rfl⟩ := List.mem_map.mp listed
          replace same : p.1 = boundedSystem system := List.mem_singleton.mp same
          have found : r.implementations.lookup (boundedSystem system) ≠ none := by
            rw [← same]
            intro missing
            exact bne_iff_ne.mp (List.lookup_eq_none_iff.mp missing p member) rfl
          exact found absent
        · intro p listed
          rcases List.mem_append.mp listed with known | new
          · exact (h.addSystem system).selected p known
          · rw [List.mem_singleton.mp new]
            exact ⟨List.mem_insert_self, rfl⟩
    · split
      · exact ⟨h.addSystem system, rfl⟩
      · exact ⟨h.addSystem system, rfl⟩

theorem keeps_recordConnectorInitialization {r : Recorder} (h : Sound r)
    (system implementation : Option String) :
    Keeps r (r.recordConnectorInitialization system implementation).recorder := by
  refine Keeps.mutably h fun unsealed => ?_
  split
  · exact ⟨h, rfl⟩
  · exact keeps_recordProvider h unsealed system (a := .connectorInitializations) (by decide)

theorem keeps_recordCredentialResolution {r : Recorder} (h : Sound r) (system : Option String) :
    Keeps r (r.recordCredentialResolution system).recorder := by
  refine Keeps.mutably h fun unsealed => ?_
  dsimp only
  split
  · exact ⟨h.addSystem system, rfl⟩
  · have noted : Sound { r with credentialResolutionSystems :=
        r.credentialResolutionSystems.insert (boundedSystem system) } := { h with }
    exact keeps_recordProvider noted unsealed system (a := .credentialResolutions) (by decide)

theorem keeps_recordPrincipalAttestation {r : Recorder} (h : Sound r) (system : Option String) :
    Keeps r (r.recordPrincipalAttestation system).recorder :=
  Keeps.mutably h fun unsealed =>
    keeps_recordProvider h unsealed system (a := .principalAttestations) (by decide)

theorem keeps_recordVerificationCall {r : Recorder} (h : Sound r) (system : Option String) :
    Keeps r (r.recordVerificationCall system).recorder :=
  Keeps.mutably h fun unsealed =>
    keeps_recordProvider h unsealed system (a := .verificationCalls) (by decide)

theorem keeps_recordOutcome {r : Recorder} (h : Sound r) (outcome : Option PerformanceOutcome)
    (amount : Option Int) : Keeps r (r.recordOutcome outcome amount).recorder := by
  refine Keeps.mutably h fun _ => ?_
  split
  · exact ⟨h, rfl⟩
  · next outcome =>
      refine assigning_cases (P := Keeps r) ⟨h, rfl⟩ ?_
      intro n added
      have range := of_boundedAdd_ok (h.outcomes outcome) added
      exact ⟨{ h with outcomes := inRange_update h.outcomes range }, rfl⟩

theorem keeps_recordRetry {r : Recorder} (h : Sound r) (reason : Option RetryReason) :
    Keeps r (r.recordRetry reason).recorder := by
  refine Keeps.mutably h fun unsealed => ?_
  split
  · exact ⟨h, rfl⟩
  next reason =>
    unfold Recorder.increment
    rw [mutably_unsealed unsealed]
    by_cases below : r.counters .retries < MAX_COUNT
    · -- a reason is counted no more often than all retries
      have some_ : r.retries reason < MAX_COUNT := by
        refine lt_of_le_of_lt ?_ below
        rw [h.retried]
        exact StrEnum.le_total (fun e => (h.retries e).1) reason
      rw [boundedAdd_one below]
      show Keeps r (Recorder.assigning _ (Recorder.boundedAdd (r.retries reason) (some 1)) _).recorder
      rw [boundedAdd_one some_]
      refine ⟨{ h with
        counters := inRange_update h.counters ((h.counters .retries).succ below)
        retries := inRange_update h.retries ((h.retries reason).succ some_)
        rows := ?_
        retried := ?_ }, ?_⟩
      · intro a
        refine Eq.trans ?_ (h.rows a)
        exact Function.update_of_ne (by cases a <;> decide) _ _
      · show Function.update r.counters .retries _ .retries = _
        rw [Function.update_self, h.retried]
        exact (total_update reason 1 r.retries).symm
      · unfold Recorder.core
        congr 1
    · obtain ⟨raised, refused⟩ := boundedAdd_full below
      rw [refused]
      exact ⟨h, rfl⟩

theorem keeps_increment {r : Recorder} (h : Sound r) (counter : PerformanceCounter)
    (undedicated : counter.hasMethod = false) (amount : Option Int) :
    Keeps r (r.increment counter amount).recorder := by
  refine Keeps.mutably h fun _ => assigning_cases (P := Keeps r) ⟨h, rfl⟩ ?_
  intro n added
  have apart {c : PerformanceCounter} (method : c.hasMethod = true) :
      Function.update r.counters counter n c = r.counters c :=
    Function.update_of_ne (fun same => by rw [same, undedicated] at method; cases method) _ _
  refine ⟨{ h with
    counters := inRange_update h.counters (of_boundedAdd_ok (h.counters counter) added)
    rows := fun a => (apart (by cases a <;> rfl)).trans (h.rows a)
    retried := (apart rfl).trans h.retried }, ?_⟩
  unfold Recorder.core
  congr 1
  exact apart rfl

/-! ### Intervals -/

/-- What one occurrence of a stage leaves of the recorder. -/
theorem sound_accumulate {r : Recorder} (h : Sound r) (stage : PerformanceStage)
    (started now : Reading) : Sound (r.accumulate stage started now).recorder := by
  unfold Recorder.accumulate
  split
  · exact h
  next forward =>
    unfold Reading.Before at forward
    rw [not_or, not_lt, not_lt] at forward
    obtain ⟨wall, cpu, occurrences⟩ := h.stages stage
    have spent (n : Int) (range : InRange n) (s : PerformanceStage) :
        let accumulated : StageAccumulator :=
          Function.update r.stages stage ⟨(r.stages stage).wallSeconds + (now.wall - started.wall),
            (r.stages stage).cpuSeconds + (now.cpu - started.cpu), n⟩ s
        0 ≤ accumulated.wallSeconds ∧ 0 ≤ accumulated.cpuSeconds ∧
          InRange accumulated.occurrences := by
      by_cases same : s = stage
      · subst same
        rw [Function.update_self]
        exact ⟨add_nonneg wall (sub_nonneg.mpr forward.1), add_nonneg cpu (sub_nonneg.mpr forward.2),
          range⟩
      · rw [Function.update_of_ne same]
        exact h.stages s
    refine assigning_cases (P := Sound) { h with stages := spent _ occurrences } ?_
    intro n added
    exact { h with stages := spent n (of_boundedAdd_ok occurrences added) }

/-- The occurrences after one more of a stage. -/
theorem accumulate_occurrences {r : Recorder} (stage s : PerformanceStage) (started now : Reading) :
    ((r.accumulate stage started now).recorder.stages s).occurrences =
      (r.stages s).occurrences + if s = stage ∧ ¬now.Before started ∧
        (r.stages stage).occurrences < MAX_COUNT then 1 else 0 := by
  unfold Recorder.accumulate
  by_cases back : now.Before started
  · rw [if_pos back, if_neg fun all => all.2.1 back, Int.add_zero]
  · rw [if_neg back]
    by_cases below : (r.stages stage).occurrences < MAX_COUNT
    · show ((Recorder.assigning _ (Recorder.boundedAdd (r.stages stage).occurrences (some 1))
        _).recorder.stages s).occurrences = _
      rw [boundedAdd_one below]
      by_cases same : s = stage
      · subst same
        rw [if_pos ⟨rfl, back, below⟩]
        show (Function.update r.stages s _ s).occurrences = _
        rw [Function.update_self]
      · rw [if_neg fun all => same all.1, Int.add_zero]
        show (Function.update r.stages stage _ s).occurrences = _
        rw [Function.update_of_ne same]
    · obtain ⟨raised, refused⟩ := boundedAdd_full below
      rw [if_neg fun all => below all.2.2, Int.add_zero]
      show ((Recorder.assigning _ (Recorder.boundedAdd (r.stages stage).occurrences (some 1))
        _).recorder.stages s).occurrences = _
      rw [refused]
      show (Function.update r.stages stage _ s).occurrences = _
      by_cases same : s = stage
      · subst same
        rw [Function.update_self]
      · rw [Function.update_of_ne same]

/-- An occurrence changes nothing but the stages. -/
theorem accumulate_frame {r : Recorder} (stage : PerformanceStage) (started now : Reading) :
    (r.accumulate stage started now).recorder =
      { r with stages := (r.accumulate stage started now).recorder.stages } := by
  unfold Recorder.accumulate
  split
  · rfl
  · exact assigning_cases (P := fun r' => r' = { r with stages := r'.stages }) rfl fun _ _ => rfl

/-- An occurrence raises no exception exactly when it is counted. -/
theorem accumulate_raised {r : Recorder} (stage : PerformanceStage) (started now : Reading) :
    (r.accumulate stage started now).raised = none ↔
      ¬now.Before started ∧ (r.stages stage).occurrences < MAX_COUNT := by
  unfold Recorder.accumulate
  by_cases back : now.Before started
  · rw [if_pos back]
    exact ⟨fun quiet => (by cases quiet), fun all => absurd back all.1⟩
  · rw [if_neg back]
    show (Recorder.assigning _ (Recorder.boundedAdd (r.stages stage).occurrences (some 1))
      _).raised = none ↔ _
    by_cases below : (r.stages stage).occurrences < MAX_COUNT
    · rw [boundedAdd_one below]
      exact ⟨fun _ => ⟨back, below⟩, fun _ => rfl⟩
    · obtain ⟨raised, refused⟩ := boundedAdd_full below
      rw [refused]
      exact ⟨fun quiet => (by cases quiet), fun all => absurd all.2 below⟩

/-! ## Faithful recorders -/

/-- The transport phases agree with their counter, and there is room for the occurrence of the
active total interval. -/
def Faithful (r : Recorder) : Prop :=
  phaseProviderCalls r.transportCalls = r.counters .providerTransportCalls ∧
    ¬(r.totalStarted.isSome = true ∧ (r.stages .endToEndTotal).occurrences = MAX_COUNT)

/-- The phases never count fewer calls than their counter. -/
def Covered (r : Recorder) : Prop :=
  r.counters .providerTransportCalls ≤ phaseProviderCalls r.transportCalls

theorem faithful_of_core {r r' : Recorder} (same : r'.core = r.core) : Faithful r' ↔ Faithful r := by
  unfold Recorder.core at same
  simp only [Prod.mk.injEq] at same
  obtain ⟨counter, calls, started, occurrences⟩ := same
  unfold Faithful
  rw [counter, calls, started, occurrences]

theorem covered_of_core {r r' : Recorder} (same : r'.core = r.core) : Covered r' ↔ Covered r := by
  unfold Recorder.core at same
  simp only [Prod.mk.injEq] at same
  unfold Covered
  rw [same.1, same.2.1]

theorem phaseProviderCalls_update (calls : TransportPhase → Int) (phase : TransportPhase) :
    phaseProviderCalls (Function.update calls phase (calls phase + 1)) =
      phaseProviderCalls calls + if phase = .principalAttestation then 0 else 1 := by
  unfold phaseProviderCalls
  rw [sum_update phase 1 calls (members_nodup.filter _)]
  congr 1
  cases phase <;> rfl

/-- What a call needs of the recorder it is made on: a transport attempt, that its phase is refused
wherever the counter of all phases is; the end of a span of the whole run, that it is not the last
one that can be counted during the run. -/
def Recorder.Meets (r : Recorder) : Call → Prop
  | .recordTransportAttempt (some phase) _ =>
      phase ≠ .principalAttestation → r.isSealed = false → r.transportCalls phase < MAX_COUNT →
        r.counters .providerTransportCalls < MAX_COUNT
  | .spanExit index now =>
      ∀ started, r.opened[index]? = some (.endToEndTotal, started) → r.totalStarted.isSome = true →
        ¬now.Before started → (r.stages .endToEndTotal).occurrences + 1 ≠ MAX_COUNT
  | _ => True

/-- Every call of the sequence meets its condition. -/
def Recorder.MeetsAll (r : Recorder) : List Call → Prop
  | [] => True
  | call :: calls => r.Meets call ∧ (r.step call).recorder.MeetsAll calls

/-- One call is counted for its phase. -/
def Recorder.attempted (r : Recorder) (phase : TransportPhase) : Recorder :=
  { r with transportCalls := Function.update r.transportCalls phase (r.transportCalls phase + 1) }

theorem Sound.attempted {r : Recorder} (h : Sound r) {phase : TransportPhase}
    (room : r.transportCalls phase < MAX_COUNT) : Sound (r.attempted phase) :=
  { h with calls := inRange_update h.calls ((h.calls phase).succ room) }

/-- What an attempt leaves of a recorder that takes calls: the phase is counted before the counter
of all phases is asked. -/
theorem transportAttempt_spec {r : Recorder} (h : Sound r) (unsealed : r.isSealed = false)
    (phase : TransportPhase) (system : Option String) :
    (r.recordTransportAttempt (some phase) system).recorder =
      if r.transportCalls phase < MAX_COUNT then
        if phase = .principalAttestation then r.attempted phase
        else if r.counters .providerTransportCalls < MAX_COUNT then
          (r.attempted phase).counted system .providerTransportCalls
        else r.attempted phase
      else r := by
  unfold Recorder.recordTransportAttempt
  rw [mutably_unsealed unsealed]
  dsimp only
  by_cases room : r.transportCalls phase < MAX_COUNT
  · rw [boundedAdd_one room, if_pos room]
    show Ended.recorder (if phase = _ then ⟨none, r.attempted phase⟩
      else ((r.attempted phase).increment _ _).andThen _) = _
    by_cases attestation : phase = .principalAttestation
    · rw [if_pos attestation, if_pos attestation]
    · rw [if_neg attestation, if_neg attestation]
      exact count_spec (h.attempted room) unsealed system .providerTransportCalls
  · obtain ⟨raised, refused⟩ := boundedAdd_full room
    rw [refused, if_neg room]
    rfl

theorem transportAttempt_step {r : Recorder} (h : Sound r) (covered : Covered r)
    (phase : Option TransportPhase) (system : Option String) :
    let r' := (r.recordTransportAttempt phase system).recorder
    Sound r' ∧ Covered r' ∧
      (Faithful r' ↔ Faithful r ∧ r.Meets (.recordTransportAttempt phase system)) := by
  have same {condition : Prop} (meets : condition) :
      Sound r ∧ Covered r ∧ (Faithful r ↔ Faithful r ∧ condition) :=
    ⟨h, covered, (and_iff_left meets).symm⟩
  dsimp only
  cases phase with
  | none =>
      unfold Recorder.recordTransportAttempt
      exact mutably_cases (P := fun r' => Sound r' ∧ Covered r' ∧ (Faithful r' ↔ Faithful r ∧ True))
        (same trivial) fun _ => same trivial
  | some phase =>
  by_cases closed : r.isSealed = true
  · unfold Recorder.recordTransportAttempt Recorder.mutably
    rw [if_pos closed]
    exact same fun _ unsealed => by rw [closed] at unsealed; cases unsealed
  have unsealed := Bool.eq_false_iff.mpr closed
  rw [transportAttempt_spec h unsealed]
  by_cases room : r.transportCalls phase < MAX_COUNT
  swap
  · rw [if_neg room]
    exact same fun _ _ room' => absurd room' room
  have updated : phaseProviderCalls (r.attempted phase).transportCalls = _ :=
    phaseProviderCalls_update r.transportCalls phase
  have counter : (r.attempted phase).counters = r.counters := rfl
  have attempted := h.attempted room
  unfold Covered Faithful at *
  rw [if_pos room]
  by_cases attestation : phase = .principalAttestation
  · rw [if_pos attestation, Int.add_zero] at updated
    rw [if_pos attestation]
    refine ⟨attempted, ?_, ?_⟩
    · rw [updated, counter]
      exact covered
    · refine Iff.trans ?_ (and_iff_left fun other => absurd attestation other).symm
      rw [updated]
      rfl
  rw [if_neg attestation] at updated ⊢
  by_cases below : r.counters .providerTransportCalls < MAX_COUNT
  · have both : ((r.attempted phase).counted system .providerTransportCalls).counters
        .providerTransportCalls = r.counters .providerTransportCalls + 1 := by
      show Function.update r.counters .providerTransportCalls _ .providerTransportCalls = _
      rw [Function.update_self]
      rfl
    rw [if_pos below, both]
    have phases : phaseProviderCalls ((r.attempted phase).counted system
        .providerTransportCalls).transportCalls = _ := updated
    rw [phases]
    refine ⟨attempted.counted system .providerTransportCalls below,
      Int.add_le_add_right covered 1, ?_⟩
    refine Iff.trans ?_ (and_iff_left fun _ _ _ => below).symm
    exact and_congr_left fun _ => Int.add_left_inj 1
  · rw [if_neg below, updated, counter]
    refine ⟨attempted, covered.trans (Int.le_add_of_nonneg_right (by decide)), ?_⟩
    refine iff_of_false ?_ fun all => below (all.2 attestation unsealed room)
    rintro ⟨agreed, -⟩
    omega

theorem covered_of_frame {r r' : Recorder} (calls : r'.transportCalls = r.transportCalls)
    (counters : r'.counters = r.counters) (covered : Covered r) : Covered r' := by
  unfold Covered
  rw [calls, counters]
  exact covered

theorem spanExit_step {r : Recorder} (h : Sound r) (covered : Covered r) (index : Nat)
    (now : Reading) :
    let r' := (r.spanExit index now).recorder
    Sound r' ∧ Covered r' ∧ (Faithful r' ↔ Faithful r ∧ r.Meets (.spanExit index now)) := by
  dsimp only
  unfold Recorder.spanExit Recorder.Meets
  cases entered : r.opened[index]? with
  | none =>
      exact ⟨h, covered, (and_iff_left fun _ span => by rw [entered] at span; cases span).symm⟩
  | some span =>
  obtain ⟨stage, started⟩ := span
  have left : Sound { r with opened := r.opened.eraseIdx index } := { h with }
  dsimp only
  by_cases closed : r.isSealed = true
  · unfold Recorder.mutably
    rw [if_pos (by exact closed)]
    refine ⟨left, covered, (and_iff_left fun _ _ active => ?_).symm⟩
    rw [h.ended closed] at active
    cases active
  rw [mutably_unsealed (by exact Bool.eq_false_iff.mpr closed), accumulate_frame]
  have sound := sound_accumulate left stage started now
  have counted := @accumulate_occurrences { r with opened := r.opened.eraseIdx index } stage
    .endToEndTotal started now
  rw [accumulate_frame] at sound
  refine ⟨sound, covered_of_frame rfl rfl covered, ?_⟩
  unfold Faithful
  dsimp only at counted ⊢
  rw [counted]
  have range := (h.stages .endToEndTotal).2.2
  unfold InRange at range
  constructor
  · rintro ⟨agreed, room⟩
    refine ⟨⟨agreed, fun full => room ⟨full.1, ?_⟩⟩, ?_⟩
    · rw [if_neg fun all => ?_, Int.add_zero]
      · exact full.2
      · obtain ⟨same, -, below⟩ := all
        rw [← same] at below
        omega
    · rintro other span active forward last
      obtain ⟨rfl, rfl⟩ := Prod.mk.inj (Option.some.inj (entered.symm.trans span))
      refine room ⟨active, ?_⟩
      rw [if_pos ⟨rfl, forward, by omega⟩]
      exact last
  · rintro ⟨⟨agreed, room⟩, meets⟩
    refine ⟨agreed, fun full => ?_⟩
    obtain ⟨active, last⟩ := full
    split at last
    · next all =>
        obtain ⟨same, forward, -⟩ := all
        subst same
        exact meets started entered active forward last
    · exact room ⟨active, by omega⟩

theorem beginTotal_step {r : Recorder} (h : Sound r) (covered : Covered r) (now : Reading) :
    let r' := (r.beginTotal now).recorder
    Sound r' ∧ Covered r' ∧ (Faithful r' ↔ Faithful r) := by
  dsimp only
  unfold Recorder.beginTotal
  by_cases closed : r.isSealed = true
  · rw [if_pos closed]
    exact ⟨h, covered, Iff.rfl⟩
  rw [if_neg closed]
  by_cases active : r.totalStarted.isSome = true
  · rw [if_pos active]
    exact ⟨h, covered, Iff.rfl⟩
  rw [if_neg active]
  by_cases used : (r.stages .endToEndTotal).occurrences ≠ 0
  · rw [if_pos used]
    exact ⟨h, covered, Iff.rfl⟩
  rw [if_neg used]
  refine ⟨{ h with ended := fun sealed_ => absurd sealed_ closed }, covered, ?_⟩
  refine and_congr_right fun _ => iff_of_true ?_ fun full => active full.1
  intro full
  exact absurd ((not_not.mp used).symm.trans full.2) (by decide)

theorem endTotal_step {r : Recorder} (h : Sound r) (covered : Covered r) (now : Reading) :
    let r' := (r.endTotal now).recorder
    Sound r' ∧ Covered r' ∧ (Faithful r' ↔ Faithful r) := by
  dsimp only
  unfold Recorder.endTotal
  cases active : r.totalStarted with
  | none => exact ⟨h, covered, Iff.rfl⟩
  | some started =>
  have sound := sound_accumulate h .endToEndTotal started now
  have frame := @accumulate_frame r .endToEndTotal started now
  have counted := @accumulate_occurrences r .endToEndTotal .endToEndTotal started now
  dsimp only
  unfold Ended.andThen
  cases raised : (r.accumulate .endToEndTotal started now).raised with
  | none =>
      obtain ⟨-, below⟩ := (accumulate_raised .endToEndTotal started now).mp raised
      dsimp only
      rw [frame] at sound ⊢
      refine ⟨{ sound with ended := fun _ => rfl }, covered_of_frame rfl rfl covered, ?_⟩
      refine and_congr_right fun _ => iff_of_true (fun full => nomatch full.1) fun full => ?_
      omega
  | some exception =>
      dsimp only
      have refused : ¬(¬now.Before started ∧ (r.stages .endToEndTotal).occurrences < MAX_COUNT) := by
        intro all
        have quiet := (accumulate_raised .endToEndTotal started now).mpr all
        rw [raised] at quiet
        cases quiet
      rw [if_neg fun all => refused all.2, Int.add_zero] at counted
      rw [frame] at sound ⊢
      refine ⟨sound, covered_of_frame rfl rfl covered, ?_⟩
      unfold Faithful
      dsimp only
      rw [counted]

/-! ## Runs -/

theorem Keeps.step {r r' : Recorder} (kept : Keeps r r') (covered : Covered r) {condition : Prop}
    (meets : condition) : Sound r' ∧ Covered r' ∧ (Faithful r' ↔ Faithful r ∧ condition) :=
  ⟨kept.1, (covered_of_core kept.2).mpr covered,
    (faithful_of_core kept.2).trans (and_iff_left meets).symm⟩

/-- Every call keeps the redundant counts in agreement, but for the transport phases and the room
of the active interval, which it keeps exactly when it meets its condition. -/
theorem step_sound {r : Recorder} (h : Sound r) (covered : Covered r) (call : Call) :
    Sound (r.step call).recorder ∧ Covered (r.step call).recorder ∧
      (Faithful (r.step call).recorder ↔ Faithful r ∧ r.Meets call) := by
  have always {r' : Recorder} (step : Sound r' ∧ Covered r' ∧ (Faithful r' ↔ Faithful r)) :
      Sound r' ∧ Covered r' ∧ (Faithful r' ↔ Faithful r ∧ True) :=
    ⟨step.1, step.2.1, step.2.2.trans (and_iff_left trivial).symm⟩
  cases call with
  | setCase caseId => exact (keeps_setCase h caseId).step covered trivial
  | spanEnter stage now => exact (keeps_spanEnter h stage now).step covered trivial
  | spanExit index now => exact spanExit_step h covered index now
  | beginTotal now => exact always (beginTotal_step h covered now)
  | endTotal now => exact always (endTotal_step h covered now)
  | finishTotal now =>
      refine always ?_
      unfold Recorder.step Recorder.finishTotal
      dsimp only
      split
      · exact endTotal_step h covered now
      · exact ⟨h, covered, Iff.rfl⟩
  | recordDimensions capabilities riskTiers systems =>
      exact (keeps_recordDimensions h capabilities riskTiers systems).step covered trivial
  | recordConnectorImplementation system implementation =>
      exact (keeps_recordConnectorImplementation h system implementation).step covered trivial
  | recordConnectorInitialization system implementation =>
      exact (keeps_recordConnectorInitialization h system implementation).step covered trivial
  | recordCredentialResolution system =>
      exact (keeps_recordCredentialResolution h system).step covered trivial
  | recordPrincipalAttestation system =>
      exact (keeps_recordPrincipalAttestation h system).step covered trivial
  | recordVerificationCall system =>
      exact (keeps_recordVerificationCall h system).step covered trivial
  | recordTransportAttempt phase system => exact transportAttempt_step h covered phase system
  | recordRetry reason => exact (keeps_recordRetry h reason).step covered trivial
  | recordOutcome outcome amount => exact (keeps_recordOutcome h outcome amount).step covered trivial
  | increment counter amount =>
      exact (keeps_increment h counter.val counter.property amount).step covered trivial

/-- The evidence stays faithful in exactly the runs whose calls all meet their condition. -/
theorem faithful_run_iff {r : Recorder} (h : Sound r) (covered : Covered r) (calls : List Call) :
    Sound (r.run calls) ∧ (Faithful (r.run calls) ↔ Faithful r ∧ r.MeetsAll calls) := by
  induction calls generalizing r with
  | nil => exact ⟨h, (and_iff_left trivial).symm⟩
  | cons call calls ih =>
      obtain ⟨sound, covered', step⟩ := step_sound h covered call
      obtain ⟨later, rest⟩ := ih sound covered'
      refine ⟨later, rest.trans ?_⟩
      rw [step]
      exact and_assoc

end MasterAgent.Performance
