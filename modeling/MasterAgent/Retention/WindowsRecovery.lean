import MasterAgent.Retention.WindowsMaintenance

/-!
# Intents survive crashes

Once its marker is published, an intent can be finished from every state a crash may leave, as long
as the decoder takes its paths.

Results:

1. `RemovalState.begin`, `RemovalState.recover`: the invariant of a removal;
2. `QuarantineState.begin`, `QuarantineState.recover`: the invariant of a quarantine.
-/

namespace MasterAgent.Retention
open Base Journal

/-! ## What one step does -/

section
variable [Host] {I : Disk → Prop} {X : Exn → Disk → Prop} {disk : Disk} {path : Parts}

theorem wp_currentIdentity {Q : Option AtomicStateIdentity → Disk → Prop} :
    wp I (currentIdentity path) Q X disk ↔ Q ((disk path).map Generation.identity) disk :=
  wp_bind.trans (wp_get.trans wp_pure)

theorem wp_readBytes {Q : Option String → Disk → Prop} :
    wp I (readBytes path) Q X disk ↔ Q ((disk path).map Generation.payload) disk :=
  wp_bind.trans (wp_get.trans wp_pure)

theorem wp_openTransaction {maxBytes : Nat} {Q : Option AtomicStateIdentity → Disk → Prop}
    (passes : Q ((disk path).map Generation.identity) disk)
    (fails : (∃ generation, disk path = some generation ∧ maxBytes < generation.payload.length) →
      ∀ raised, X raised disk) :
    wp I (openTransaction path maxBytes) Q X disk := by
  refine wp_bind.mpr (wp_get.mpr (wp_bind.mpr (wp_ensure ?_ ?_)))
  · exact fun _ => wp_pure.mpr passes
  · intro large
    refine fails ?_ _
    cases held : disk path with
    | none => rw [held] at large; cases large
    | some generation =>
      rw [held] at large
      exact ⟨generation, rfl, by simpa using large⟩

theorem wp_publishBytes [FreshGenerations] {payload : String} {expected : Option AtomicStateIdentity}
    {Q : AtomicStateIdentity → Disk → Prop}
    (publishes : (disk path).map Generation.identity = expected → ∀ generation : Generation,
      generation.payload = payload → I (set disk path (some generation)) ∧
        Q generation.identity (set disk path (some generation)))
    (fails : (disk path).map Generation.identity ≠ expected → ∀ raised, X raised disk) :
    wp I (publishBytes path payload expected) Q X disk := by
  refine wp_bind.mpr (wp_get.mpr (wp_bind.mpr (wp_ensure ?_ ?_)))
  · intro same
    obtain ⟨holds, post⟩ := publishes (beq_iff_eq.mp same) _
      (FreshGenerations.payload_make disk path payload)
    exact wp_bind.mpr (wp_step.mpr ⟨holds, wp_pure.mpr post⟩)
  · exact fun other => fails (beq_eq_false_iff_ne.mp other) _

theorem wp_remove {expected : AtomicStateIdentity} {Q : Unit → Disk → Prop}
    (removes : (disk path).map Generation.identity = some expected →
      I (set disk path none) ∧ Q () (set disk path none))
    (fails : (disk path).map Generation.identity ≠ some expected → ∀ raised, X raised disk) :
    wp I (remove path expected) Q X disk := by
  refine wp_bind.mpr (wp_get.mpr (wp_bind.mpr (wp_ensure ?_ ?_)))
  · exact fun same => wp_step.mpr (removes (beq_iff_eq.mp same))
  · exact fun other => fails (beq_eq_false_iff_ne.mp other) _

/-- After it the recorded source is gone. -/
theorem wp_removePresent {source : TransactionRecord} {Q : Unit → Disk → Prop}
    (gone : disk source.relativeParts = none → Q () disk)
    (removes : (disk source.relativeParts).map Generation.identity = some source.identity →
      I (set disk source.relativeParts none) ∧ Q () (set disk source.relativeParts none))
    (fails : (disk source.relativeParts).map Generation.identity ≠ none →
      (disk source.relativeParts).map Generation.identity ≠ some source.identity →
      ∀ raised, X raised disk) :
    wp I (removePresent source) Q X disk := by
  refine wp_bind.mpr (wp_currentIdentity.mpr ?_)
  split
  · next present =>
    have some : (disk source.relativeParts).map Generation.identity ≠ none :=
      Option.isSome_iff_ne_none.mp present
    exact wp_remove removes (fails some)
  · next missing =>
    exact wp_pure.mpr (gone (by simpa using missing))

/-- A check that must pass passes only where every source is gone. -/
theorem wp_ensureAbsent {sources : List TransactionRecord} {raised : Exn} {Q : Unit → Disk → Prop}
    (passes : (∀ source ∈ sources, disk source.relativeParts = none) → Q () disk)
    (fails : (∃ source ∈ sources, disk source.relativeParts ≠ none) → X raised disk) :
    wp I (ensureAbsent sources raised) Q X disk := by
  refine wp_mono (wp_each (J := fun done s => s = disk ∧
    ∀ source ∈ done, disk source.relativeParts = none) ?_
    ⟨rfl, fun _ listed => absurd listed List.not_mem_nil⟩) ?_ fun _ _ x => x
  · rintro done source rest s split ⟨rfl, absent⟩
    refine wp_bind.mpr (wp_currentIdentity.mpr (wp_ensure ?_ ?_))
    · intro gone
      refine ⟨rfl, ?_⟩
      intro other listed
      rcases List.mem_append.mp listed with before | here
      · exact absent other before
      · rw [List.mem_singleton.mp here]
        simpa using gone
    · intro held
      refine fails ⟨source, split ▸ List.mem_append_right _ List.mem_cons_self, ?_⟩
      intro gone
      rw [gone] at held
      cases held
  · rintro _ s ⟨rfl, absent⟩
    exact passes absent

theorem set_self {generation : Option Generation} : set disk path generation path = generation :=
  Function.update_self ..

theorem set_other {other : Parts} {generation : Option Generation} (apart : other ≠ path) :
    set disk path generation other = disk other :=
  Function.update_of_ne apart ..

omit [Host] in
theorem payload_short {intent : WindowsRetentionTransaction} {payload : String}
    (written : formatWindowsRetentionTransaction intent = .ok payload) :
    payload.length ≤ MAX_WINDOWS_RETENTION_TRANSACTION_BYTES := by
  unfold formatWindowsRetentionTransaction at written
  dsimp only at written
  split at written
  · cases written
  · next short =>
    obtain rfl := Except.ok.inj written
    exact Nat.not_lt.mp short

theorem mem_sortSources {sources : List TransactionRecord} {source : TransactionRecord} :
    source ∈ sortSources sources ↔ source ∈ sources := List.mem_insertionSort _

end

/-! ## Removal -/

section
variable [Host] [FreshGenerations] {disk : Disk} {intent : WindowsRetentionTransaction}

/-- The rule of `publishIntent`, from where no step has been made. -/
theorem wp_publishIntent {I : Disk → Prop} {Q : AtomicStateIdentity → Disk → Prop}
    {X : Exn → Disk → Prop}
    (publishes : ∀ generation : Generation,
      formatWindowsRetentionTransaction intent = .ok generation.payload →
        I (set disk markerPath (some generation)) ∧
          Q generation.identity (set disk markerPath (some generation)))
    (fails : ∀ raised, X raised disk) : wp I (publishIntent intent) Q X disk := by
  refine wp_bind.mpr (wp_openTransaction ?_ fun _ => fails)
  refine wp_bind.mpr (wp_ensure (fun _ => ?_) fun _ => fails _)
  refine wp_bind.mpr (wp_lift.mpr ?_)
  cases written : formatWindowsRetentionTransaction intent with
  | error raised => exact fails raised
  | ok payload =>
    refine wp_publishBytes (fun _ generation same => publishes generation ?_) fun _ => fails
    rw [written, same]

end

section
variable [Host] [FloatReader]

/-- The files an intent is about, before it is published. -/
structure Recorded (start : Disk) (intent : WindowsRetentionTransaction) : Prop where
  parsed : ∀ payload, formatWindowsRetentionTransaction intent = .ok payload →
    parseWindowsRetentionTransaction payload = .ok intent
  clear : start markerPath = none
  found : ∀ source ∈ intent.sources, source.relativeParts ≠ markerPath ∧
    ∃ generation, start source.relativeParts = some generation ∧
      generation.identity = source.identity ∧ generation.payload.length ≤ MAX_REPAIR_FILE_BYTES

/-- The marker is there, or the intent has not begun or has ended. -/
def MarkerState (intent : WindowsRetentionTransaction) (disk : Disk) (quiet : Prop) : Prop :=
  (∃ marker, disk markerPath = some marker ∧
    formatWindowsRetentionTransaction intent = .ok marker.payload) ∨ disk markerPath = none ∧ quiet

structure RemovalState (start : Disk) (intent : WindowsRetentionTransaction) (disk : Disk) :
    Prop where
  frame : ∀ path, path ≠ markerPath → (∀ source ∈ intent.sources, path ≠ source.relativeParts) →
    disk path = start path
  sources : ∀ source ∈ intent.sources, disk source.relativeParts = start source.relativeParts ∨
    disk source.relativeParts = none
  marker : MarkerState intent disk
    (disk = start ∨ ∀ source ∈ intent.sources, disk source.relativeParts = none)

variable {start disk : Disk} {intent : WindowsRetentionTransaction}

namespace RemovalState

omit [FloatReader] in
theorem initial (clear : start markerPath = none) : RemovalState start intent start where
  frame _ _ _ := rfl
  sources _ _ := .inl rfl
  marker := .inr ⟨clear, .inl rfl⟩

/-- Removing a source keeps the invariant while the marker is there. -/
theorem remove_source (recorded : Recorded start intent)
    (state : RemovalState start intent disk) {source : TransactionRecord}
    (listed : source ∈ intent.sources) (marked : disk markerPath ≠ none) :
    RemovalState start intent (set disk source.relativeParts none) ∧
      set disk source.relativeParts none markerPath ≠ none := by
  have apart := (recorded.found source listed).1
  have kept : set disk source.relativeParts none markerPath = disk markerPath :=
    set_other (Ne.symm apart)
  refine ⟨⟨?_, ?_, ?_⟩, kept ▸ marked⟩
  · intro path notMarker other
    rw [set_other (other source listed)]
    exact state.frame path notMarker other
  · intro other member
    by_cases same : other.relativeParts = source.relativeParts
    · rw [same]
      exact .inr set_self
    · rw [set_other same]
      exact state.sources other member
  · rcases state.marker with ⟨marker, held, same⟩ | ⟨missing, -⟩
    · exact .inl ⟨marker, kept.trans held, same⟩
    · exact absurd missing marked

/-- Removing the marker keeps the invariant once the sources are gone. -/
theorem remove_marker (recorded : Recorded start intent)
    (state : RemovalState start intent disk)
    (gone : ∀ source ∈ intent.sources, disk source.relativeParts = none) :
    RemovalState start intent (set disk markerPath none) := by
  have kept : ∀ source ∈ intent.sources,
      set disk markerPath none source.relativeParts = none := fun source listed =>
    (set_other (recorded.found source listed).1).trans (gone source listed)
  refine ⟨?_, fun source listed => .inr (kept source listed), .inr ⟨set_self, .inr kept⟩⟩
  intro path notMarker other
  rw [set_other notMarker]
  exact state.frame path notMarker other

/-- A recorded source that is still there has the recorded identity. -/
theorem identity (recorded : Recorded start intent)
    (state : RemovalState start intent disk) {source : TransactionRecord}
    (listed : source ∈ intent.sources) :
    (disk source.relativeParts).map Generation.identity = none ∨
      (disk source.relativeParts).map Generation.identity = some source.identity := by
  obtain ⟨-, generation, held, same, -⟩ := recorded.found source listed
  rcases state.sources source listed with kept | gone
  · exact .inr (by rw [kept, held, Option.map_some, same])
  · exact .inl (by rw [gone, Option.map_none])

theorem small (recorded : Recorded start intent)
    (state : RemovalState start intent disk) {source : TransactionRecord}
    (listed : source ∈ intent.sources) : ¬∃ generation, disk source.relativeParts = some generation ∧
      MAX_REPAIR_FILE_BYTES < generation.payload.length := by
  rintro ⟨large, held, exceeds⟩
  obtain ⟨-, generation, first, -, within⟩ := recorded.found source listed
  rcases state.sources source listed with kept | gone
  · obtain rfl := Option.some.inj ((first.symm.trans kept.symm).trans held)
    exact absurd within (Nat.not_le.mpr exceeds)
  · cases gone.symm.trans held

variable [FreshGenerations]

/-- Every step of a removal keeps the invariant. -/
theorem begin (recorded : Recorded start intent) :
    wp (RemovalState start intent) (removeWindowsRetainedPair intent)
      (fun _ _ => True) (fun _ _ => True) start := by
  unfold removeWindowsRetainedPair
  dsimp only
  refine wp_bind.mpr (wp_mono (wp_each (J := fun _ s => s = start) ?_ rfl) ?_ fun _ _ x => x)
  · rintro done source rest s - rfl
    refine wp_bind.mpr (wp_openTransaction ?_ fun _ _ => trivial)
    exact wp_ensure (fun _ => rfl) fun _ => trivial
  rintro _ s rfl
  refine wp_bind.mpr (wp_publishIntent ?_ fun _ => trivial)
  intro generation same
  have published : RemovalState s intent (set s markerPath (some generation)) := by
    refine ⟨fun path other _ => set_other other, fun source listed => .inl ?_,
      .inl ⟨generation, set_self, same⟩⟩
    exact set_other (recorded.found source listed).1
  refine ⟨published, ?_⟩
  refine wp_bind.mpr (wp_mono (wp_each (J := fun _ d => RemovalState s intent d ∧
    d markerPath ≠ none) ?_ ⟨published, by rw [set_self]; exact Option.some_ne_none _⟩) ?_ fun _ _ x => x)
  · rintro done source rest d split ⟨state, marked⟩
    have listed : source ∈ intent.sources :=
      mem_sortSources.mp (split ▸ List.mem_append_right _ List.mem_cons_self)
    refine wp_remove (fun _ => ?_) fun _ _ => trivial
    have kept := state.remove_source recorded listed marked
    exact ⟨kept.1, kept⟩
  rintro _ d ⟨state, -⟩
  refine wp_bind.mpr (wp_ensureAbsent ?_ fun _ => trivial)
  intro gone
  refine wp_remove (fun _ => ⟨?_, trivial⟩) fun _ _ => trivial
  exact state.remove_marker recorded fun source listed => gone source (mem_sortSources.mpr listed)

omit [FreshGenerations] in
/-- A removal is finished from every state that has the marker. -/
theorem finish (recorded : Recorded start intent)
    (state : RemovalState start intent disk) (marked : disk markerPath ≠ none) :
    wp (RemovalState start intent) (finishWindowsRemovePair intent)
      (fun _ d => RemovalState start intent d ∧ d markerPath = disk markerPath ∧
        ∀ source ∈ intent.sources, d source.relativeParts = none) (fun _ _ => False) disk := by
  have member {done rest : List TransactionRecord} {source : TransactionRecord}
      (split : sortSources intent.sources = done ++ source :: rest) : source ∈ intent.sources :=
    mem_sortSources.mp (split ▸ List.mem_append_right _ List.mem_cons_self)
  unfold finishWindowsRemovePair
  dsimp only
  refine wp_bind.mpr (wp_mono (wp_each (J := fun _ d => d = disk) ?_ rfl) ?_ fun _ _ x => x)
  · rintro done source rest d split rfl
    refine wp_bind.mpr (wp_openTransaction ?_ fun large => absurd large (state.small recorded (member split)))
    refine wp_ensure (fun _ => rfl) fun changed => ?_
    rcases state.identity recorded (member split) with none | same
    · rw [none] at changed
      cases changed
    · rw [same] at changed
      simp at changed
  rintro _ d rfl
  refine wp_bind.mpr (wp_mono (wp_each (J := fun done e => RemovalState start intent e ∧
    e markerPath = d markerPath ∧ ∀ source ∈ done, e source.relativeParts = none) ?_
      ⟨state, rfl, fun _ listed => absurd listed List.not_mem_nil⟩) ?_ fun _ _ x => x)
  · rintro done source rest e split ⟨now, sameMarker, gone⟩
    have listed := member split
    have apart := (recorded.found source listed).1
    refine wp_removePresent (fun missing => ⟨now, sameMarker, ?_⟩) (fun _ => ?_) fun present other => ?_
    · intro other there
      rcases List.mem_append.mp there with before | here
      · exact gone other before
      · rw [List.mem_singleton.mp here, missing]
    · have kept := now.remove_source recorded listed (sameMarker ▸ marked)
      refine ⟨kept.1, kept.1, ?_, ?_⟩
      · rw [set_other (Ne.symm apart), sameMarker]
      · intro other there
        rcases List.mem_append.mp there with before | here
        · by_cases same : other.relativeParts = source.relativeParts
          · rw [same, set_self]
          · rw [set_other same, gone other before]
        · rw [List.mem_singleton.mp here, set_self]
    · rcases now.identity recorded listed with none | same
      · exact absurd none present
      · exact absurd same other
  rintro _ e ⟨now, sameMarker, gone⟩
  refine wp_ensureAbsent (fun absent => ⟨now, sameMarker, fun source listed =>
    absent source (mem_sortSources.mpr listed)⟩) ?_
  rintro ⟨source, listed, held⟩
  exact held (gone source listed)

end RemovalState

/-! ## Recovery -/

/-- Recovery finishes the intent of the marker, where there is one. -/
theorem wp_recover [FreshGenerations] {I Done : Disk → Prop} {quiet : Prop}
    (recorded : Recorded start intent) (marker : MarkerState intent disk quiet)
    (still : I disk)
    (finish : disk markerPath ≠ none → wp I (finishIntent intent)
      (fun _ d => d markerPath = disk markerPath ∧ I (set d markerPath none) ∧
        Done (set d markerPath none)) (fun _ _ => False) disk) :
    wp I recoverWindowsRetentionTransaction
      (fun result d => I d ∧ d markerPath = none ∧
        (disk markerPath ≠ none → result = some intent ∧ Done d)) (fun _ _ => False) disk := by
  refine wp_bind.mpr (wp_get.mpr ?_)
  rcases marker with ⟨marker, held, written⟩ | ⟨missing, -⟩
  · rw [held]
    refine wp_bind.mpr (wp_openTransaction ?_ ?_)
    · refine wp_bind.mpr (wp_lift.mpr ?_)
      rw [recorded.parsed _ written]
      refine wp_bind.mpr (wp_mono (finish (held ▸ Option.some_ne_none marker)) ?_ fun _ _ x => x)
      rintro _ d ⟨kept, after, done⟩
      refine wp_bind.mpr (wp_remove (fun _ => ⟨after, ?_⟩) fun other => ?_)
      · exact wp_pure.mpr ⟨after, set_self, fun _ => ⟨rfl, done⟩⟩
      · rw [kept, held] at other
        exact absurd rfl other
    · rintro ⟨generation, there, large⟩
      obtain rfl := Option.some.inj (held.symm.trans there)
      exact absurd (payload_short written) (Nat.not_le.mpr large)
  · rw [missing]
    exact wp_pure.mpr ⟨still, missing, fun marked => absurd rfl marked⟩

/-- A removal is recovered from every state a crash may leave. -/
theorem RemovalState.recover [FreshGenerations] (recorded : Recorded start intent)
    (operation : intent.operation = .removePair)
    (state : RemovalState start intent disk) :
    wp (RemovalState start intent) recoverWindowsRetentionTransaction
      (fun result d => RemovalState start intent d ∧ d markerPath = none ∧
        (disk markerPath ≠ none → result = some intent ∧
          ∀ source ∈ intent.sources, d source.relativeParts = none)) (fun _ _ => False) disk := by
  refine wp_recover recorded state.marker state fun marked => ?_
  unfold finishIntent
  rw [operation]
  refine wp_mono (state.finish recorded marked) ?_ fun _ _ x => x
  rintro _ d ⟨now, sameMarker, gone⟩
  refine ⟨sameMarker, now.remove_marker recorded gone, fun source listed => ?_⟩
  exact (set_other (recorded.found source listed).1).trans (gone source listed)

/-! ## Quarantine -/

/-- The file that an intent moves, its content and where it goes. -/
structure Move (start : Disk) (intent : WindowsRetentionTransaction) (source : TransactionRecord) (destination : Parts) (content : String) : Prop extends
    Recorded start intent where
  single : intent.sources = [source]
  target : intent.destinationParts = some destination
  whole : ∀ generation, start source.relativeParts = some generation →
    generation.payload = content
  apart : destination ≠ source.relativeParts ∧ destination ≠ markerPath
  free : ∀ generation, start destination = some generation → generation.payload = content

/-- The destination has the recorded bytes. -/
def Arrived (disk : Disk) (destination : Parts) (content : String) : Prop :=
  ∃ generation, disk destination = some generation ∧ generation.payload = content

structure QuarantineState (start : Disk) (intent : WindowsRetentionTransaction) (source : TransactionRecord)
    (destination : Parts) (content : String) (disk : Disk) : Prop where
  frame : ∀ path, path ≠ markerPath → path ≠ source.relativeParts → path ≠ destination →
    disk path = start path
  there : disk destination = start destination ∨ Arrived disk destination content
  left : disk source.relativeParts = start source.relativeParts ∨
    disk source.relativeParts = none ∧ Arrived disk destination content
  marker : MarkerState intent disk (disk = start ∨ disk source.relativeParts = none)

namespace QuarantineState

variable {source : TransactionRecord} {destination : Parts} {content : String}

omit [FloatReader] in
theorem initial (clear : start markerPath = none) :
    QuarantineState start intent source destination content start where
  frame _ _ _ _ := rfl
  there := .inl rfl
  left := .inl rfl
  marker := .inr ⟨clear, .inl rfl⟩

theorem found (move : Move start intent source destination content) :
    source.relativeParts ≠ markerPath ∧ ∃ generation,
      start source.relativeParts = some generation ∧ generation.identity = source.identity ∧
        generation.payload = content ∧ content.length ≤ MAX_REPAIR_FILE_BYTES := by
  have listed : source ∈ intent.sources := move.single ▸ List.mem_cons_self
  obtain ⟨apart, generation, held, same, small⟩ := move.found source listed
  have whole := move.whole generation held
  exact ⟨apart, generation, held, same, whole, whole ▸ small⟩

/-- What is at the destination has the recorded bytes. -/
theorem payload_destination (move : Move start intent source destination content)
    (state : QuarantineState start intent source destination content disk)
    {generation : Generation} (held : disk destination = some generation) :
    generation.payload = content := by
  rcases state.there with kept | ⟨other, there, whole⟩
  · exact move.free generation (kept ▸ held)
  · obtain rfl := Option.some.inj (there.symm.trans held)
    exact whole

/-- Publishing at the destination keeps the invariant. -/
theorem publish (move : Move start intent source destination content)
    (state : QuarantineState start intent source destination content disk)
    (marked : disk markerPath ≠ none) {generation : Generation}
    (whole : generation.payload = content) :
    QuarantineState start intent source destination content
      (set disk destination (some generation)) := by
  have arrived : Arrived (set disk destination (some generation)) destination content :=
    ⟨generation, set_self, whole⟩
  have sourceKept : set disk destination (some generation) source.relativeParts =
      disk source.relativeParts := set_other (Ne.symm move.apart.1)
  have markerKept : set disk destination (some generation) markerPath = disk markerPath :=
    set_other (Ne.symm move.apart.2)
  refine ⟨?_, .inr arrived, ?_, ?_⟩
  · intro path notMarker notSource notDestination
    rw [set_other notDestination]
    exact state.frame path notMarker notSource notDestination
  · rw [sourceKept]
    exact state.left.imp_right fun gone => ⟨gone.1, arrived⟩
  · unfold MarkerState
    rw [markerKept, sourceKept]
    exact state.marker.imp_right fun quiet => absurd quiet.1 marked

/-- Removing the source keeps the invariant once the bytes have arrived. -/
theorem remove_source (move : Move start intent source destination content)
    (state : QuarantineState start intent source destination content disk)
    (marked : disk markerPath ≠ none) (arrived : Arrived disk destination content) :
    QuarantineState start intent source destination content
      (set disk source.relativeParts none) := by
  have destinationKept : set disk source.relativeParts none destination = disk destination :=
    set_other move.apart.1
  have markerKept : set disk source.relativeParts none markerPath = disk markerPath :=
    set_other (Ne.symm (found move).1)
  have still : Arrived (set disk source.relativeParts none) destination content := by
    obtain ⟨generation, held, whole⟩ := arrived
    exact ⟨generation, destinationKept.trans held, whole⟩
  refine ⟨?_, .inr still, .inr ⟨set_self, still⟩, ?_⟩
  · intro path notMarker notSource notDestination
    rw [set_other notSource]
    exact state.frame path notMarker notSource notDestination
  · unfold MarkerState
    rw [markerKept]
    exact state.marker.imp_right fun quiet => absurd quiet.1 marked

/-- Removing the marker keeps the invariant once the source is gone. -/
theorem remove_marker (move : Move start intent source destination content)
    (state : QuarantineState start intent source destination content disk)
    (gone : disk source.relativeParts = none) (arrived : Arrived disk destination content) :
    QuarantineState start intent source destination content (set disk markerPath none) := by
  have sourceKept : set disk markerPath none source.relativeParts = none :=
    (set_other (found move).1).trans gone
  have still : Arrived (set disk markerPath none) destination content := by
    obtain ⟨generation, held, whole⟩ := arrived
    exact ⟨generation, (set_other move.apart.2).trans held, whole⟩
  refine ⟨?_, .inr still, .inr ⟨sourceKept, still⟩, .inr ⟨set_self, .inr sourceKept⟩⟩
  intro path notMarker notSource notDestination
  rw [set_other notMarker]
  exact state.frame path notMarker notSource notDestination

theorem identity (move : Move start intent source destination content)
    (state : QuarantineState start intent source destination content disk) :
    disk source.relativeParts = none ∨ ∃ generation,
      disk source.relativeParts = some generation ∧ generation.identity = source.identity ∧
        generation.payload = content := by
  obtain ⟨-, generation, held, same, whole, -⟩ := found move
  rcases state.left with kept | ⟨gone, -⟩
  · exact .inr ⟨generation, kept.trans held, same, whole⟩
  · exact .inl gone

theorem isContentOf_content (move : Move start intent source destination content) :
    isContentOf content source.identity = true := by
  obtain ⟨-, generation, -, same, whole, -⟩ := found move
  unfold isContentOf
  rw [← same, generation.digested, generation.sized, whole]
  simp

/-- What a generation of the recorded bytes says about its content. -/
theorem matches_source (move : Move start intent source destination content)
    {generation : Generation} (whole : generation.payload = content) :
    (generation.identity.fields.contentSha256 == source.identity.fields.contentSha256 &&
      generation.identity.fields.size == source.identity.fields.size &&
      Host.sha256 content == source.identity.fields.contentSha256) = true := by
  obtain ⟨-, original, -, same, first, -⟩ := found move
  rw [← same, generation.digested, generation.sized, original.digested, original.sized, whole, first]
  simp

/-- The last part of a move, once the bytes are at the destination. -/
theorem complete (move : Move start intent source destination content)
    (state : QuarantineState start intent source destination content disk)
    (marked : disk markerPath ≠ none) {arrival : Generation}
    (held : disk destination = some arrival) (whole : arrival.payload = content) :
    wp (QuarantineState start intent source destination content)
      (completeQuarantine source destination arrival.identity content)
      (fun _ d => QuarantineState start intent source destination content d ∧
        d markerPath = disk markerPath ∧ d source.relativeParts = none ∧
          Arrived d destination content) (fun _ _ => False) disk := by
  have settle : ∀ d, QuarantineState start intent source destination content d →
      d markerPath = disk markerPath → d source.relativeParts = none →
      d destination = some arrival →
      wp (QuarantineState start intent source destination content) (do
        let left ← currentIdentity source.relativeParts
        let kept ← currentIdentity destination
        Journal.ensure (left.isNone && kept == some arrival.identity)
          (configurationError "Windows quarantine transaction is incomplete"))
        (fun _ d => QuarantineState start intent source destination content d ∧
          d markerPath = disk markerPath ∧ d source.relativeParts = none ∧
            Arrived d destination content) (fun _ _ => False) d := by
    intro d now sameMarker gone there
    refine wp_bind.mpr (wp_currentIdentity.mpr (wp_bind.mpr (wp_currentIdentity.mpr ?_)))
    refine wp_ensure (fun _ => ⟨now, sameMarker, gone, arrival, there, whole⟩) fun other => ?_
    rw [gone, there] at other
    simp at other
  refine wp_bind.mpr (wp_ensure (fun _ => ?_) fun other => ?_)
  · refine wp_bind.mpr (wp_removePresent (fun gone => settle disk state rfl gone held) (fun _ => ?_) ?_)
    · have kept := state.remove_source move marked ⟨arrival, held, whole⟩
      refine ⟨kept, settle _ kept ?_ set_self ?_⟩
      · exact set_other (Ne.symm (found move).1)
      · exact (set_other move.apart.1).trans held
    · intro present other
      rcases state.identity move with gone | ⟨generation, there, same, -⟩
      · exact absurd (by rw [gone, Option.map_none]) present
      · exact absurd (by rw [there, Option.map_some, same]) other
  · rw [matches_source move whole] at other
    cases other

variable [FreshGenerations]

/-- A move is finished from every state that has the marker. -/
theorem finishTransactions (move : Move start intent source destination content)
    (state : QuarantineState start intent source destination content disk)
    (marked : disk markerPath ≠ none) :
    wp (QuarantineState start intent source destination content)
      (finishWindowsQuarantineTransactions source destination
        ((disk source.relativeParts).map Generation.payload))
      (fun _ d => QuarantineState start intent source destination content d ∧
        d markerPath = disk markerPath ∧ d source.relativeParts = none ∧
          Arrived d destination content) (fun _ _ => False) disk := by
  have found := state.identity move
  refine wp_bind.mpr (wp_currentIdentity.mpr (wp_bind.mpr (wp_ensure (fun _ => ?_) fun other => ?_)))
  · refine wp_bind.mpr (wp_ensure (fun _ => ?_) fun other => ?_)
    · refine wp_bind.mpr (wp_readBytes.mpr (wp_bind.mpr (wp_currentIdentity.mpr ?_)))
      cases there : disk destination with
      | some arrival =>
        have whole := state.payload_destination move there
        show wp _ (completeQuarantine source destination arrival.identity arrival.payload) _ _ _
        rw [whole]
        exact state.complete move marked there whole
      | none =>
        rcases found with gone | ⟨generation, held, same, whole⟩
        · rcases state.left with kept | ⟨-, arrival, arrived, -⟩
          · obtain ⟨-, original, first, -⟩ := QuarantineState.found move
            cases first.symm.trans (kept.symm.trans gone)
          · cases arrived.symm.trans there
        · rw [held]
          show wp _ (publishBytes destination generation.payload none >>= fun identity =>
            completeQuarantine source destination identity generation.payload) _ _ _
          rw [whole]
          refine wp_bind.mpr (wp_publishBytes (fun _ arrival arrives => ?_) fun occupied => ?_)
          · have published := state.publish move marked arrives
            have sameMarker : set disk destination (some arrival) markerPath = disk markerPath :=
              set_other (Ne.symm move.apart.2)
            refine ⟨published, ?_⟩
            rw [← sameMarker]
            exact published.complete move (sameMarker ▸ marked) set_self arrives
          · rw [there] at occupied
            exact absurd rfl occupied
    · rcases found with gone | ⟨generation, held, same, whole⟩
      · rw [gone] at other
        cases other
      · rw [held, Option.map_some, Option.all_some, whole, isContentOf_content move] at other
        cases other
  · rcases found with gone | ⟨generation, held, same, whole⟩
    · rw [gone] at other
      cases other
    · rw [held, Option.map_some, same] at other
      simp at other

/-- Every step of a quarantine keeps the invariant. -/
theorem begin (move : Move start intent source destination content) :
    wp (QuarantineState start intent source destination content)
      (quarantineWindowsRetainedRecord intent source destination content)
      (fun _ _ => True) (fun _ _ => True) start := by
  obtain ⟨notMarker, original, first, -, firstWhole, -⟩ := found move
  refine wp_bind.mpr (wp_openTransaction ?_ fun _ _ => trivial)
  refine wp_bind.mpr (wp_ensure (fun _ => ?_) fun _ => trivial)
  refine wp_bind.mpr (wp_openTransaction ?_ fun _ _ => trivial)
  refine wp_bind.mpr (wp_publishIntent ?_ fun _ => trivial)
  intro generation same
  have sourceKept : set start markerPath (some generation) source.relativeParts =
      start source.relativeParts := set_other notMarker
  have published : QuarantineState start intent source destination content
      (set start markerPath (some generation)) :=
    ⟨fun path other _ _ => set_other other, .inl (set_other move.apart.2), .inl sourceKept,
      .inl ⟨generation, set_self, same⟩⟩
  have bytes : some content =
      (set start markerPath (some generation) source.relativeParts).map Generation.payload := by
    rw [sourceKept, first, Option.map_some, firstWhole]
  refine ⟨published, wp_bind.mpr ?_⟩
  rw [bytes]
  have marked : set start markerPath (some generation) markerPath ≠ none := by
    rw [set_self]
    exact Option.some_ne_none generation
  refine wp_mono (published.finishTransactions move marked) ?_ fun _ _ x => x.elim
  rintro _ d ⟨state, -, gone, arrived⟩
  exact wp_remove (fun _ => ⟨state.remove_marker move gone arrived, trivial⟩) fun _ _ => trivial

omit [FreshGenerations] in
/-- What is at the source or the destination is within the limit of a file. -/
theorem small (move : Move start intent source destination content)
    (state : QuarantineState start intent source destination content disk) {path : Parts}
    (either : path = source.relativeParts ∨ path = destination) :
    ¬∃ generation, disk path = some generation ∧
      MAX_REPAIR_FILE_BYTES < generation.payload.length := by
  rintro ⟨generation, held, large⟩
  obtain ⟨-, -, -, -, -, within⟩ := found move
  have whole : generation.payload = content := by
    rcases either with rfl | rfl
    · rcases state.identity move with gone | ⟨other, there, -, whole⟩
      · cases gone.symm.trans held
      · obtain rfl := Option.some.inj (there.symm.trans held)
        exact whole
    · exact state.payload_destination move held
  exact absurd within (Nat.not_le.mpr (whole ▸ large))

/-- A quarantine is recovered from every state a crash may leave. -/
theorem recover (move : Move start intent source destination content)
    (operation : intent.operation = .quarantine)
    (state : QuarantineState start intent source destination content disk) :
    wp (QuarantineState start intent source destination content)
      recoverWindowsRetentionTransaction
      (fun result d => QuarantineState start intent source destination content d ∧
        d markerPath = none ∧ (disk markerPath ≠ none → result = some intent ∧
          d source.relativeParts = none ∧ Arrived d destination content))
      (fun _ _ => False) disk := by
  refine wp_recover move.toRecorded state.marker state fun marked => ?_
  unfold finishIntent finishWindowsQuarantine
  rw [operation, move.single, move.target]
  refine wp_bind.mpr (wp_openTransaction ?_ fun large => absurd large (state.small move (.inl rfl)))
  refine wp_bind.mpr (wp_openTransaction ?_ fun large => absurd large (state.small move (.inr rfl)))
  refine wp_bind.mpr (wp_ensure (fun _ => wp_bind.mpr (wp_readBytes.mpr ?_)) fun other => ?_)
  · refine wp_mono (state.finishTransactions move marked) ?_ fun _ _ x => x
    rintro _ d ⟨now, sameMarker, gone, generation, held, whole⟩
    refine ⟨sameMarker, now.remove_marker move gone ⟨generation, held, whole⟩, ?_, ?_⟩
    · exact (set_other (found move).1).trans gone
    · exact ⟨generation, (set_other move.apart.2).trans held, whole⟩
  · rcases state.identity move with gone | ⟨generation, held, same, -⟩
    · rw [gone] at other
      cases other
    · rw [held, Option.map_some, same] at other
      simp at other

end QuarantineState

end

end MasterAgent.Retention
