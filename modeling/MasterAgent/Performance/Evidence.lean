import Mathlib.Data.List.Perm.Subperm
import Mathlib.Data.Rat.Floor
import MasterAgent.Performance.Document
import MasterAgent.Performance.Recorder

/-!
# Recorded evidence

Results:

1. `snapshot_ok_iff`: the evidence of a recorder can be frozen exactly when it is faithful and the
   clocks have not run backwards;
2. `recorded_evidence`: in which runs that is so, and that no written evidence is read back.
-/

namespace MasterAgent.Performance
open Base StrEnum

/-! ## Freezing -/

theorem sortedSet_sortBy {values : List String} (distinct : values.Nodup) :
    sortedSet (sortBy id values) = sortBy id values := by
  have still : (sortBy id values).Nodup :=
    (List.perm_insertionSort _ _).nodup_iff.mpr distinct
  unfold sortedSet
  rw [still.dedup, sortBy_sortBy]

theorem mem_sortBy {values : List String} {value : String} :
    value ∈ sortBy id values ↔ value ∈ values := (List.perm_insertionSort _ values).mem_iff

theorem length_sortBy {values : List String} : (sortBy id values).length = values.length :=
  (List.perm_insertionSort _ values).length_eq

/-- The sorted values of a bounded set are accepted. -/
theorem BoundedSet.checked {mapper : Option String → String} {values : List String}
    (h : BoundedSet mapper values) (name : String) :
    ∀ c ∈ orderedBoundedChecks (sortBy id values) mapper name, c.1 = true := by
  have bounded : (sortBy id values).map (fun value => mapper (some value)) = sortBy id values := by
    refine (List.map_congr_left ?_).trans (List.map_id _)
    intro value listed
    exact h.bounded value (mem_sortBy.mp listed)
  unfold orderedBoundedChecks
  rw [bounded, sortedSet_sortBy h.distinct]
  simp

theorem countChecks_of {E : Type} [StrEnum E] {counts : E → Int} (h : ∀ e, InRange (counts e)) :
    ∀ c ∈ countChecks counts, c.1 = true := by
  intro c listed
  obtain ⟨e, -, rfl⟩ := List.mem_map.mp listed
  exact decide_eq_true (h e)

theorem known_of_bounded {system : String} (bounded : boundedSystem (some system) = system) :
    system ∈ knownSystems := by
  unfold boundedSystem boundedText at bounded
  dsimp only [Option.getD_some] at bounded
  by_contra unknown
  rw [if_neg unknown] at bounded
  exact unknown (bounded ▸ by decide)

theorem lookup_native {r : Recorder} (h : Sound r) {system : String}
    (listed : system ∈ r.implementations.map Prod.fst) :
    (r.implementations.lookup system).getD "" = NATIVE_CONNECTOR_IMPLEMENTATION := by
  cases found : r.implementations.lookup system with
  | none =>
      obtain ⟨p, member, rfl⟩ := List.mem_map.mp listed
      exact absurd rfl (bne_iff_ne.mp (List.lookup_eq_none_iff.mp found p member))
  | some implementation =>
      obtain ⟨before, after, split, -⟩ := List.lookup_eq_some_iff.mp found
      have member : (system, implementation) ∈ r.implementations := by simp [split]
      exact (h.selected _ member).2

/-- The dimensions of the recorded implementations. -/
theorem implementations_ok {r : Recorder} (h : Sound r) : ∃ implementations,
    ((sortBy id (r.implementations.map Prod.fst)).mapM fun system =>
      ConnectorImplementationDimension.new system ((r.implementations.lookup system).getD "") true) =
        .ok implementations ∧
      implementations.map (·.system) = sortBy id (r.implementations.map Prod.fst) := by
  obtain ⟨implementations, built, each⟩ := @mapM_ok_of _ _
    (fun system => ConnectorImplementationDimension.new system
      ((r.implementations.lookup system).getD "") true)
    (fun system dimension => dimension.system = system)
    (sortBy id (r.implementations.map Prod.fst)) (by
      intro system listed
      have key := mem_sortBy.mp listed
      obtain ⟨p, member, rfl⟩ := List.mem_map.mp key
      have known := known_of_bounded (h.systems.bounded _ (h.selected p member).1)
      have valid : firstError (dimensionChecks p.1 NATIVE_CONNECTOR_IMPLEMENTATION true) = none := by
        rw [firstError_none]
        simp [dimensionChecks, known]
      rw [lookup_native h key]
      exact ⟨_, build_ok valid, rfl⟩)
  refine ⟨implementations, built, ?_⟩
  have same := List.forall₂_map_right_iff (f := (·.system)) |>.mpr
    (each.imp fun _ _ eq => eq.symm)
  exact (List.forall₂_eq_eq_eq ▸ same).symm

theorem image_of_mapM {R S : Type} {f : R → Except Exn S} {xs : List R} {ys : List S}
    (built : xs.mapM f = .ok ys) {x : R} (listed : x ∈ xs) : ∃ y, f x = .ok y := by
  have images := forall₂_of_mapM built
  clear built
  induction images with
  | nil => cases listed
  | cons head _ ih =>
      rcases List.mem_cons.mp listed with rfl | later
      · exact ⟨_, head⟩
      · exact ih later

section
variable [Durations]

theorem new_stage_ok_iff {stage : PerformanceStage} {wall cpu : ℚ} {occurrences : Int}
    (wallNonneg : 0 ≤ wall) (cpuNonneg : 0 ≤ cpu) :
    (∃ measurement, StageMeasurement.new stage wall cpu occurrences = .ok measurement) ↔
      InRange occurrences := by
  unfold StageMeasurement.new nonNegative
  rw [if_neg (not_lt.mpr wallNonneg), if_neg (not_lt.mpr cpuNonneg)]
  simp only [ok_bind]
  split
  · next counted => exact ⟨fun _ => counted, fun _ => ⟨_, rfl⟩⟩
  · next uncounted => exact iff_of_false (fun ⟨_, built⟩ => nomatch built) uncounted

theorem stage_of_new {stage : PerformanceStage} {wall cpu : ℚ} {occurrences : Int}
    {measurement : StageMeasurement}
    (built : StageMeasurement.new stage wall cpu occurrences = .ok measurement) :
    measurement.stage = stage := by
  obtain ⟨_, -, built⟩ := of_bind_ok built
  obtain ⟨_, -, built⟩ := of_bind_ok built
  split at built
  · cases built
    rfl
  · cases built

theorem stages_of_mapM {measured : PerformanceStage → StageAccumulator}
    {listed : List PerformanceStage} {stages : List StageMeasurement}
    (built : (listed.mapM fun stage => StageMeasurement.new stage (measured stage).wallSeconds
      (measured stage).cpuSeconds (measured stage).occurrences) = .ok stages) :
    stages.map (·.stage) = listed := by
  have images := forall₂_of_mapM built
  clear built
  induction images with
  | nil => rfl
  | cons head _ ih => rw [List.map_cons, stage_of_new head, ih]

omit [Durations] in
/-- What is measured of a stage when the clocks have run forward. -/
theorem measured_sound {r : Recorder} (h : Sound r) {now : Reading}
    (forward : ∀ started, r.totalStarted = some started → ¬now.Before started)
    (stage : PerformanceStage) : 0 ≤ (r.measured now stage).wallSeconds ∧
      0 ≤ (r.measured now stage).cpuSeconds ∧ (InRange (r.measured now stage).occurrences ↔
        (stage = .endToEndTotal → ¬(r.totalStarted.isSome = true ∧
          (r.stages .endToEndTotal).occurrences = MAX_COUNT))) := by
  obtain ⟨wall, cpu, range⟩ := h.stages stage
  have plain : InRange (r.stages stage).occurrences ↔ True := iff_true_intro range
  unfold Recorder.measured
  cases active : r.totalStarted with
  | none =>
      refine ⟨wall, cpu, plain.trans ?_⟩
      exact iff_of_true trivial fun _ full => nomatch full.1
  | some started =>
      dsimp only
      by_cases total : stage = .endToEndTotal
      · subst total
        have since := forward started active
        unfold Reading.Before at since
        rw [not_or, not_lt, not_lt] at since
        rw [if_pos rfl]
        refine ⟨add_nonneg wall (sub_nonneg.mpr since.1), add_nonneg cpu (sub_nonneg.mpr since.2), ?_⟩
        unfold InRange at range ⊢
        dsimp only
        constructor
        · rintro room - ⟨-, full⟩
          omega
        · intro room
          have open_ : ¬(r.stages .endToEndTotal).occurrences = MAX_COUNT :=
            fun full => room rfl ⟨rfl, full⟩
          omega
      · rw [if_neg total]
        exact ⟨wall, cpu, plain.trans (iff_of_true trivial fun same => absurd same total)⟩

theorem stages_ok_iff {r : Recorder} (h : Sound r) {now : Reading}
    (forward : ∀ started, r.totalStarted = some started → ¬now.Before started) :
    (∃ stages, ((members : List PerformanceStage).mapM fun stage =>
      StageMeasurement.new stage (r.measured now stage).wallSeconds
        (r.measured now stage).cpuSeconds (r.measured now stage).occurrences) = .ok stages) ↔
      ¬(r.totalStarted.isSome = true ∧ (r.stages .endToEndTotal).occurrences = MAX_COUNT) := by
  have each (stage : PerformanceStage) := measured_sound h forward stage
  constructor
  · rintro ⟨stages, built⟩
    obtain ⟨measurement, image⟩ := image_of_mapM built (complete PerformanceStage.endToEndTotal)
    obtain ⟨wall, cpu, room⟩ := each .endToEndTotal
    exact room.mp ((new_stage_ok_iff wall cpu).mp ⟨measurement, image⟩) rfl
  · intro room
    obtain ⟨stages, built, -⟩ := @mapM_ok_of _ _ (fun stage => StageMeasurement.new stage
      (r.measured now stage).wallSeconds (r.measured now stage).cpuSeconds
        (r.measured now stage).occurrences) (fun _ _ => True) members fun stage _ => by
      obtain ⟨wall, cpu, range⟩ := each stage
      obtain ⟨measurement, image⟩ := (new_stage_ok_iff wall cpu).mpr (range.mpr fun _ => room)
      exact ⟨measurement, image, trivial⟩
    exact ⟨stages, built⟩

omit [Durations] in
theorem selectedCounters_other {r : Recorder} {c : PerformanceCounter} (systems : c ≠ .selectedSystems)
    (implementations : c ≠ .selectedConnectorImplementations) :
    r.selectedCounters c = r.counters c := by
  unfold Recorder.selectedCounters
  rw [Function.update_of_ne implementations, Function.update_of_ne systems]

omit [Durations] in
/-- There are no more selected systems than known ones. -/
theorem selectedCounters_inRange {r : Recorder} (h : Sound r) (c : PerformanceCounter) :
    InRange (r.selectedCounters c) := by
  have few {values : List String} (distinct : values.Nodup) (known : values ⊆ knownSystems) :
      InRange values.length := by
    have count : values.length ≤ 13 := (List.subperm_of_subset distinct known).length_le
    refine ⟨Int.natCast_nonneg _, ?_⟩
    unfold MAX_COUNT
    omega
  have systems : r.systems ⊆ knownSystems :=
    fun system listed => known_of_bounded (h.systems.bounded system listed)
  by_cases first : c = .selectedSystems
  · subst first
    exact few h.systems.distinct systems
  by_cases second : c = .selectedConnectorImplementations
  · subst second
    have keys : r.implementations.map Prod.fst ⊆ knownSystems := by
      intro system listed
      obtain ⟨p, member, rfl⟩ := List.mem_map.mp listed
      exact systems (h.selected p member).1
    have range := few h.implemented keys
    rwa [List.length_map] at range
  · rw [selectedCounters_other first second]
    exact h.counters c

/-- What is handed to the constructor is accepted exactly when the phases agree. -/
theorem snapshotFields_ok_iff [Host] {r : Recorder} (h : Sound r)
    {implementations : List ConnectorImplementationDimension} {stages : List StageMeasurement}
    (systems : implementations.map (·.system) = sortBy id (r.implementations.map Prod.fst))
    (listed : stages.map (·.stage) = members) :
    (∃ snapshot, PerformanceSnapshot.new (r.snapshotFields implementations stages) = .ok snapshot) ↔
      phaseProviderCalls r.transportCalls = r.counters .providerTransportCalls := by
  have length : implementations.length = r.implementations.length := by
    have lengths := congrArg List.length systems
    rwa [List.length_map, length_sortBy, List.length_map] at lengths
  have method {c : PerformanceCounter} (known : c.hasMethod = true) :=
    selectedCounters_other (r := r) (c := c) (by rintro rfl; cases known) (by rintro rfl; cases known)
  rw [new_ok_iff]
  unfold SnapshotFields.checks SnapshotFields.derivedChecks
  simp only [List.forall_mem_append, List.forall_mem_map]
  have phases : (r.selectedCounters .providerTransportCalls ==
      phaseProviderCalls r.transportCalls) = true ↔
        phaseProviderCalls r.transportCalls = r.counters .providerTransportCalls := by
    rw [beq_iff_eq, method rfl]
    exact eq_comm
  constructor
  · rintro ⟨-, -, agreed⟩
    exact phases.mp (agreed _ List.mem_cons_self)
  · intro agreed
    have runtime : ∀ c ∈ [(PERFORMANCE_SCHEMA == PERFORMANCE_SCHEMA,
        valueError "unsupported performance schema"), boundedRuntimeValue r.platform,
        boundedRuntimeValue r.runtimeBackend], c.1 = true := by
      simp [h.platform, h.backend]
    have selected : ∀ system ∈ implementations.map (·.system),
        system ∈ sortBy id r.systems := by
      intro system member
      rw [systems, mem_sortBy] at member
      obtain ⟨p, known, rfl⟩ := List.mem_map.mp member
      exact mem_sortBy.mpr (h.selected p known).1
    have dimensions : ∀ c ∈ [(implementations.map (·.system) ==
          sortedSet (implementations.map (·.system)),
        valueError "performance connector implementations are not unique and ordered"),
        ((implementations.map (·.system)).all (sortBy id r.systems).contains,
          valueError "performance connector implementations are not selected systems"),
        (stages.map (·.stage) == members,
          valueError "performance stages are not complete and ordered")], c.1 = true := by
      have ordered : implementations.map (·.system) =
          sortedSet (implementations.map (·.system)) := by
        rw [systems, sortedSet_sortBy h.implemented]
      intro c member
      rcases List.mem_cons.mp member with rfl | member
      · exact beq_iff_eq.mpr ordered
      rcases List.mem_cons.mp member with rfl | member
      · exact List.all_eq_true.mpr fun system known =>
          List.contains_iff_mem.mpr (selected system known)
      · rw [List.mem_singleton.mp member]
        exact beq_iff_eq.mpr listed
    have counters := selectedCounters_inRange h
    refine ⟨⟨⟨⟨⟨⟨⟨⟨⟨⟨runtime, h.capabilities.checked _⟩, h.risks.checked _⟩, h.systems.checked _⟩,
      dimensions⟩, countChecks_of counters⟩, countChecks_of h.calls⟩, countChecks_of h.retries⟩,
      countChecks_of h.outcomes⟩, ?_⟩, ?_, ?_⟩
    · intro c member
      obtain ⟨system, -, row⟩ := List.mem_flatMap.mp member
      exact countChecks_of (h.activity system) c row
    · intro expectation member
      have selectedSystems : r.selectedCounters .selectedSystems = (sortBy id r.systems).length := by
        rw [length_sortBy]
        rfl
      have selectedImplementations : r.selectedCounters .selectedConnectorImplementations =
          implementations.length := by
        rw [length]
        rfl
      simp only [SnapshotFields.expectedCounts, List.mem_cons, List.not_mem_nil, or_false] at member
      refine beq_iff_eq.mpr ?_
      rcases member with rfl | rfl | rfl | rfl | rfl | rfl | rfl | rfl
      · exact selectedSystems
      · exact selectedImplementations
      · exact (method rfl).trans (h.rows .credentialResolutions)
      · exact (method rfl).trans (h.rows .connectorInitializations)
      · exact (method rfl).trans (h.rows .principalAttestations)
      · exact (method rfl).trans (h.rows .providerTransportCalls)
      · exact (method rfl).trans (h.rows .verificationCalls)
      · exact (method rfl).trans h.retried
    · intro c member
      rw [List.mem_singleton.mp member]
      exact phases.mpr agreed

/-- The evidence of a recorder can be frozen exactly when it is faithful and the clocks have not run
backwards. -/
theorem snapshot_ok_iff [Host] {r : Recorder} (h : Sound r) (now : Reading) :
    (∃ snapshot, r.snapshot now = .ok snapshot) ↔
      Faithful r ∧ ∀ started, r.totalStarted = some started → ¬now.Before started := by
  unfold Recorder.snapshot
  by_cases back : r.totalStarted.any (fun started => decide (now.Before started)) = true
  · rw [if_pos back]
    refine iff_of_false (fun ⟨_, built⟩ => nomatch built) fun all => ?_
    obtain ⟨started, active, before⟩ := (Option.any_eq_true _ _).mp back
    exact all.2 started active (of_decide_eq_true before)
  rw [if_neg back]
  have forward : ∀ started, r.totalStarted = some started → ¬now.Before started := by
    intro started active before
    exact back ((Option.any_eq_true _ _).mpr ⟨started, active, decide_eq_true before⟩)
  obtain ⟨implementations, dimensions, systems⟩ := implementations_ok h
  rw [dimensions, ok_bind]
  constructor
  · rintro ⟨snapshot, built⟩
    obtain ⟨stages, measured, accepted⟩ := of_bind_ok built
    have listed := stages_of_mapM measured
    exact ⟨⟨(snapshotFields_ok_iff h systems listed).mp ⟨snapshot, accepted⟩,
      (stages_ok_iff h forward).mp ⟨stages, measured⟩⟩, forward⟩
  · rintro ⟨⟨agreed, room⟩, -⟩
    obtain ⟨stages, measured⟩ := (stages_ok_iff h forward).mpr room
    obtain ⟨snapshot, accepted⟩ :=
      (snapshotFields_ok_iff h systems (stages_of_mapM measured)).mpr agreed
    refine ⟨snapshot, ?_⟩
    dsimp only
    rw [measured]
    exact accepted

/-! ## Runs -/

/-- The run of a new recorder. -/
theorem recorded_ok_iff [Host] (sysPlatform : String) (installed : Option String)
    (mode : MeasurementMode) (caseId : PerformanceCase) (commitIdentity : String)
    (calls : List Call) (now : Reading) :
    let start := Recorder.new sysPlatform installed mode caseId commitIdentity
    (∃ snapshot, (start.run calls).snapshot now = .ok snapshot) ↔ start.MeetsAll calls ∧
      ∀ started, (start.run calls).totalStarted = some started → ¬now.Before started := by
  dsimp only
  have sound := sound_new sysPlatform installed mode caseId commitIdentity
  obtain ⟨later, faithful⟩ := faithful_run_iff sound (le_refl (0 : Int)) calls
  have fresh : Faithful (.new sysPlatform installed mode caseId commitIdentity) :=
    ⟨rfl, fun full => nomatch full.1⟩
  rw [snapshot_ok_iff later, faithful]
  exact and_congr_left fun _ => and_iff_right fresh

/-- A recorder's evidence can be frozen after exactly the runs whose calls meet their conditions,
while the clocks run forward; and no snapshot is read back from its own text. -/
theorem recorded_evidence [Host] :
    (∀ (sysPlatform : String) (installed : Option String) (mode : MeasurementMode)
      (caseId : PerformanceCase) (commitIdentity : String) (calls : List Call) (now : Reading),
      let start := Recorder.new sysPlatform installed mode caseId commitIdentity
      (∃ snapshot, (start.run calls).snapshot now = .ok snapshot) ↔ start.MeetsAll calls ∧
        ∀ started, (start.run calls).totalStarted = some started → ¬now.Before started) ∧
    ∀ snapshot : PerformanceSnapshot, ∃ raised,
      PerformanceSnapshot.reloaded snapshot.serialize = some (.error raised) :=
  ⟨recorded_ok_iff, reloaded_serialize⟩

end

/-! ## A run that fills the counter of the transport calls -/

theorem meetsAll_append {r : Recorder} {first second : List Call} :
    r.MeetsAll (first ++ second) ↔ r.MeetsAll first ∧ (r.run first).MeetsAll second := by
  induction first generalizing r with
  | nil => exact (and_iff_right trivial).symm
  | cons call calls ih =>
      refine Iff.trans (and_congr_right fun _ => ih) ?_
      exact and_assoc.symm

def attempt (phase : TransportPhase) : Call := .recordTransportAttempt (some phase) (some "jira")

/-- So many calls have been counted, all of them executions. -/
structure Attempted (n : Nat) (r : Recorder) : Prop where
  sound : Sound r
  unsealed : r.isSealed = false
  counter : r.counters .providerTransportCalls = n
  execution : r.transportCalls .execution = n
  verification : r.transportCalls .verification = 0

theorem Attempted.step {n : Nat} {r : Recorder} (h : Attempted n r) (room : (n : Int) < MAX_COUNT) :
    Attempted (n + 1) (r.step (attempt .execution)).recorder := by
  have phase : r.transportCalls .execution < MAX_COUNT := h.execution ▸ room
  have counter : r.counters .providerTransportCalls < MAX_COUNT := h.counter ▸ room
  have spec := transportAttempt_spec h.sound h.unsealed .execution (some "jira")
  rw [if_pos phase, if_neg (by decide), if_pos counter] at spec
  unfold attempt Recorder.step
  dsimp only
  rw [spec]
  exact
    { sound := (h.sound.attempted phase).counted (some "jira") .providerTransportCalls counter
      unsealed := h.unsealed
      counter := by
        show r.counters .providerTransportCalls + 1 = _
        rw [h.counter, Int.natCast_succ]
      execution := by
        show r.transportCalls .execution + 1 = _
        rw [h.execution, Int.natCast_succ]
      verification := h.verification }

/-- Attempts of one phase fill its count and the counter of all phases alike. -/
theorem run_attempts {start : Recorder} (fresh : Attempted 0 start) {n : Nat}
    (room : (n : Int) ≤ MAX_COUNT) :
    Attempted n (start.run (.replicate n (attempt .execution))) := by
  induction n with
  | zero => exact fresh
  | succ n ih =>
      rw [List.replicate_succ', Recorder.run, List.foldl_append]
      exact (ih (by omega)).step (by omega)

/-! ## Durations in whole seconds -/

theorem wholeSeconds_shape (n : Nat) :
    isFloatText (String.ofList (Nat.toDigits 10 n ++ ['.', '0'])) = true := by
  unfold isFloatText
  rw [String.toList_ofList]
  have alphabet : (Nat.toDigits 10 n ++ ['.', '0']).all (numeralAlphabet.contains ·) = true := by
    rw [List.all_append, Bool.and_eq_true]
    refine ⟨List.all_eq_true.mpr fun c listed => ?_, by decide⟩
    exact List.contains_iff_mem.mpr (JsonLemmas.digit_numeral (JsonLemmas.toDigits_isDigit listed))
  have point : (Nat.toDigits 10 n ++ ['.', '0']).contains '.' = true :=
    List.contains_iff_mem.mpr (by simp)
  rw [alphabet, point]
  cases digits : Nat.toDigits 10 n with
  | nil => exact absurd digits (@JsonLemmas.intChars_ne_nil (.ofNat n))
  | cons c cs =>
      have first : c.isDigit = true :=
        JsonLemmas.toDigits_isDigit (digits ▸ List.mem_cons_self : c ∈ Nat.toDigits 10 n)
      simp [first]

/-- The digits before the point. -/
theorem takeWhile_whole (n : Nat) :
    (String.ofList (Nat.toDigits 10 n ++ ['.', '0'])).toList.takeWhile (· ≠ '.') =
      Nat.toDigits 10 n := by
  rw [String.toList_ofList, List.takeWhile_append_of_pos]
  · exact List.append_nil _
  · intro c listed
    have digit := JsonLemmas.toDigits_isDigit listed
    rw [decide_eq_true_eq]
    rintro rfl
    cases digit

/-- Durations that are rounded down to whole seconds. -/
@[reducible]
def wholeSeconds : Durations where
  rounded q := (⌊q⌋.toNat : ℚ)
  repr q := ⟨_, wholeSeconds_shape ⌊q⌋.toNat⟩
  float f := (Nat.ofDigitChars 10 (f.text.toList.takeWhile (· ≠ '.')) 0 : ℚ)
  parse text := if shape : isFloatText text = true then some ⟨text, shape⟩ else none
  rounded_idem q := by
    rw [Int.floor_natCast, Int.toNat_natCast]
  rounded_mono := fun le => by
    exact_mod_cast Int.toNat_le_toNat (Int.floor_le_floor le)
  rounded_zero := by simp
  float_repr q := by
    have floored : ⌊((⌊q⌋.toNat : ℕ) : ℚ)⌋.toNat = ⌊q⌋.toNat := by
      rw [Int.floor_natCast, Int.toNat_natCast]
    dsimp only
    rw [floored, takeWhile_whole, Nat.ofDigitChars_ten_toDigits]
  parse_repr q := dif_pos _

/-- The evidence of a new recorder is not read back from its text, and after a million attempts of
one phase an attempt of another leaves evidence that cannot be frozen. -/
theorem evidence_lost :
    let := plainHost
    let := wholeSeconds
    let start := Recorder.new "linux" none .localRuntime .runtime "unbound"
    (∃ snapshot, start.snapshot ⟨0, 0⟩ = .ok snapshot ∧
      PerformanceSnapshot.reloaded snapshot.serialize ≠ some (.ok snapshot)) ∧
    ¬∃ snapshot, (start.run (.replicate 1000000 (attempt .execution) ++
      [attempt .verification])).snapshot ⟨0, 0⟩ = .ok snapshot := by
  dsimp only
  let := plainHost
  let := wholeSeconds
  have sound := sound_new "linux" none .localRuntime .runtime "unbound"
  constructor
  · obtain ⟨snapshot, frozen⟩ := (recorded_ok_iff "linux" none .localRuntime .runtime "unbound" []
      ⟨0, 0⟩).mpr ⟨trivial, fun _ active => nomatch active⟩
    obtain ⟨raised, refused⟩ := reloaded_serialize snapshot
    refine ⟨snapshot, frozen, fun read => ?_⟩
    rw [refused] at read
    cases read
  · intro frozen
    obtain ⟨meets, -⟩ := (recorded_ok_iff "linux" none .localRuntime .runtime "unbound" _ _).mp frozen
    obtain ⟨-, last, -⟩ := meetsAll_append.mp meets
    have filled := run_attempts ⟨sound, rfl, rfl, rfl, rfl⟩ (n := 1000000) (by decide)
    have room := last (by decide) filled.unsealed (by rw [filled.verification]; decide)
    rw [filled.counter] at room
    exact absurd room (by decide)

end MasterAgent.Performance
