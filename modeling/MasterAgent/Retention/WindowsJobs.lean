import MasterAgent.Retention.WindowsRecovery

/-!
# The jobs of the Windows maintenance

What the scan finds and the planner takes gives a coherent intent, so that every job can be finished
after any crashes, unless its paths are too deep for the decoder or its destination is taken.

Results:

1. `scannable_of_mem`: what the scan can select;
2. `Job.coherent`: the intent of a job is coherent;
3. `jobs_recoverable`: a job ends as recorded;
4. `taken_destination_stuck`, `deep_file_stuck`: the two ways in which an intent gets stuck.
-/

namespace MasterAgent.Retention
open Base Journal

section
variable [Host]

/-! ## Records -/

/-- A path that the scan can give a record. -/
structure Scannable (parts : Parts) : Prop where
  nonempty : parts ≠ []
  shallow : parts.length ≤ MAX_REPAIR_DEPTH + 1
  named : ∀ part ∈ parts, isComponent part = true ∧ isSkipped part = false

mutual
theorem visitEntry_scannable {maxFiles : Nat} {relative : Parts} {scan : WindowsScan}
    (here : Scannable relative) (before : ∀ record ∈ scan.records, Scannable record.relativeParts)
    (entry : WindowsEntry) : ∀ record ∈ (visitEntry maxFiles relative scan entry).records,
      Scannable record.relativeParts := by
  cases entry with
  | file size =>
    intro record listed
    rcases List.mem_append.mp listed with old | new
    · exact before record old
    · rw [List.mem_singleton.mp new]
      exact here
  | directory children =>
    unfold visitEntry
    split
    · exact before
    · next shallow => exact visitChildren_scannable (Nat.not_lt.mp shallow) here.named before children
theorem visitChildren_scannable {maxFiles : Nat} {parent : Parts} {scan : WindowsScan}
    (shallow : parent.length ≤ MAX_REPAIR_DEPTH)
    (named : ∀ part ∈ parent, isComponent part = true ∧ isSkipped part = false)
    (before : ∀ record ∈ scan.records, Scannable record.relativeParts)
    (children : List (WindowsName × WindowsEntry)) :
    ∀ record ∈ (visitChildren maxFiles parent scan children).records,
      Scannable record.relativeParts := by
  match children with
  | [] => exact before
  | (name, entry) :: rest =>
    unfold visitChildren
    split_ifs with skipped full
    · exact visitChildren_scannable shallow named before rest
    · exact before
    · dsimp only
      refine visitChildren_scannable shallow named (visitEntry_scannable ?_ ?_ entry) rest
      case refine_2 => exact before
      refine ⟨by simp, ?_, ?_⟩
      · rw [List.length_append]
        exact Nat.succ_le_succ shallow
      · intro part listed
        rcases List.mem_append.mp listed with above | last
        · exact named part above
        · rw [List.mem_singleton.mp last]
          exact ⟨name.component, by simpa using skipped⟩
end

/-- A record of the scan has a scannable path. -/
theorem scannable_of_mem {maxFiles : Nat} {children : List (WindowsName × WindowsEntry)}
    {record : RetainedFileRecord}
    (listed : record ∈ (scanRetainedFilesWindows maxFiles children).1) :
    Scannable record.relativeParts :=
  visitChildren_scannable (Nat.zero_le _) (fun _ above => absurd above List.not_mem_nil)
    (fun _ old => absurd old List.not_mem_nil) children record listed

theorem isSkipped_marker : isSkipped WINDOWS_RETENTION_TRANSACTION_NAME = true := by
  unfold isSkipped isWindowsRetentionMetadata
  simp

theorem isSkipped_quarantine : isSkipped RETENTION_QUARANTINE_NAME = true := by
  unfold isSkipped
  simp

/-- A scannable path is not that of the marker. -/
theorem Scannable.ne_marker {parts : Parts} (scannable : Scannable parts) : parts ≠ markerPath := by
  rintro rfl
  have plain := (scannable.named _ List.mem_cons_self).2
  rw [isSkipped_marker] at plain
  cases plain

/-- A scannable path is not below the quarantine. -/
theorem Scannable.ne_quarantined {parts : Parts} {name : String} (scannable : Scannable parts) :
    [RETENTION_QUARANTINE_NAME, name] ≠ parts := by
  rintro rfl
  have plain := (scannable.named _ List.mem_cons_self).2
  rw [isSkipped_quarantine] at plain
  cases plain

theorem Scannable.all_isComponent {parts : Parts} (scannable : Scannable parts) :
    parts.all isComponent = true :=
  List.all_eq_true.mpr fun part listed => (scannable.named part listed).1

omit [Host] in
/-- `datetime.isoformat()` of a time in UTC is a stamp that the decoders take. -/
theorem stamp_utc {d : Datetime} (utc : d.offset = some 0) :
    validatedManifestTimestamp (.str d.isoformat) = .ok d.wallMicros := by
  have past : ¬(d.wallMicros < 0 ∨ calendarEnd ≤ d.wallMicros) := by
    rw [not_or, Int.not_lt, Int.not_le]
    exact ⟨Int.natCast_nonneg _, d.wallMicros_lt⟩
  unfold validatedManifestTimestamp
  simp only [Datetime.fromIsoformat_isoformat, Datetime.instant?_utc utc]
  rw [if_neg (not_not.mpr rfl), if_neg past]

/-- What the Windows planner takes for a pair. -/
theorem planPairWindows_spec [JsonDecoder] {tree : ScannedTree} {paired : List Parts}
    {sidecar : RetainedFileRecord} {pair : RetainedEvidencePair}
    (planned : tree.planPairWindows paired sidecar = .ok pair) :
    pair.evidence ∈ tree.records ∧ pair.evidence.size ≤ MAX_REPAIR_FILE_BYTES ∧
      sidecar.size ≤ MAX_REPAIR_FILE_BYTES ∧ ∃ name, sidecar.name = sidecarName name ∧
        pair.evidence.relativeParts = sidecar.parent ++ [name] := by
  have within : ∀ {record : RetainedFileRecord} {text : String},
      tree.readText record = .ok text → record.size ≤ MAX_REPAIR_FILE_BYTES := by
    intro record text read
    unfold ScannedTree.readText at read
    split at read
    · cases read
    · next small =>
      simp only [Bool.or_eq_true, decide_eq_true_eq, not_or, Nat.not_lt] at small
      exact small.2
  unfold ScannedTree.planPairWindows at planned
  obtain ⟨raw, reads, planned⟩ := of_bind_ok planned
  obtain ⟨⟨evidenceName, expiresAt⟩, valid, planned⟩ := of_bind_ok planned
  obtain ⟨evidence, found, planned⟩ := of_bind_ok planned
  obtain ⟨_, -, planned⟩ := of_bind_ok planned
  obtain ⟨text, held, planned⟩ := of_bind_ok planned
  obtain ⟨_, -, planned⟩ := of_bind_ok planned
  cases planned
  obtain ⟨listed, parts⟩ := ScannedTree.mem_of_byRelative (ScannedTree.requireEvidence_eq.mp found)
  obtain ⟨_, readSidecar, -⟩ := of_bind_ok reads
  exact ⟨listed, within held, within readSidecar, evidenceName,
    (ScannedTree.validate_named valid).2.2.2, parts⟩

end

/-! ## Jobs -/

section
variable [Host]

/-- The files below the root, with what the scan found of them. The text that a file's bytes decode
to may be any. -/
structure Site where
  maxFiles : Nat
  children : List (WindowsName × WindowsEntry)
  tree : ScannedTree
  disk : Disk
  scanned : tree.records = (scanRetainedFilesWindows maxFiles children).1
  clear : disk markerPath = none
  native : ∀ path generation, disk path = some generation → generation.identity.isWindows = true
  sized : ∀ record ∈ tree.records, ∀ generation, disk record.relativeParts = some generation →
    generation.payload.length = record.size

variable [FloatReader]

/-- A pair of the planner, with the generations that were read. -/
structure PlannedPair (site : Site) where
  paired : List Parts
  pair : RetainedEvidencePair
  listed : pair.sidecar ∈ site.tree.records
  planned : site.tree.planPairWindows paired pair.sidecar = .ok pair
  evidence : Generation
  sidecar : Generation
  evidenceHeld : site.disk pair.evidence.relativeParts = some evidence
  sidecarHeld : site.disk pair.sidecar.relativeParts = some sidecar
  expires : Datetime
  utc : expires.offset = some 0
  same : expires.wallMicros = pair.expiresAt

/-- A record of the scan, with the generation that was read. -/
structure ReadRecord (site : Site) where
  record : RetainedFileRecord
  listed : record ∈ site.tree.records
  small : record.size ≤ MAX_REPAIR_FILE_BYTES
  generation : Generation
  held : site.disk record.relativeParts = some generation

/-- What the maintenance may set out to do. -/
inductive Job (site : Site) where
  | removePair (planned : PlannedPair site)
  | quarantine (read : ReadRecord site)

variable {site : Site}

/-- `destination_parts` -/
def ReadRecord.destination (read : ReadRecord site) : Parts :=
  [RETENTION_QUARANTINE_NAME,
    quarantineName read.generation.identity.fields.objectIdentity read.record.relativeParts]

def ReadRecord.source (read : ReadRecord site) : TransactionRecord :=
  ⟨read.record.relativeParts, read.generation.identity⟩

namespace Job

/-- The intent that is published, at `selected_at`. -/
def intent (selected : Datetime) : Job site → WindowsRetentionTransaction
  | removePair planned =>
    ⟨.removePair, [⟨planned.pair.evidence.relativeParts, planned.evidence.identity⟩,
      ⟨planned.pair.sidecar.relativeParts, planned.sidecar.identity⟩], none,
      some planned.expires.isoformat, selected.isoformat⟩
  | quarantine read => ⟨.quarantine, [read.source], some read.destination, none, selected.isoformat⟩

def run [FreshGenerations] (selected : Datetime) (job : Job site) : Op Unit :=
  match job with
  | removePair _ => removeWindowsRetainedPair (job.intent selected)
  | quarantine read => quarantineWindowsRetainedRecord (job.intent selected) read.source
      read.destination read.generation.payload

/-- No source is deeper than the decoder takes. -/
def Shallow : Job site → Prop
  | removePair planned => planned.pair.evidence.relativeParts.length ≤ MAX_REPAIR_DEPTH ∧
      planned.pair.sidecar.relativeParts.length ≤ MAX_REPAIR_DEPTH
  | quarantine read => read.record.relativeParts.length ≤ MAX_REPAIR_DEPTH

/-- The destination has no file, or one with the same bytes. -/
def Free : Job site → Prop
  | removePair _ => True
  | quarantine read => ∀ generation, site.disk read.destination = some generation →
      generation.payload = read.generation.payload

/-- The sources are absent, and the destination of a quarantine holds the recorded bytes. -/
def Done (disk : Disk) : Job site → Prop
  | removePair planned => disk planned.pair.evidence.relativeParts = none ∧
      disk planned.pair.sidecar.relativeParts = none
  | quarantine read => disk read.record.relativeParts = none ∧
      Arrived disk read.destination read.generation.payload

/-- Bytes in quarantine are at the source or at the destination. -/
def Kept (disk : Disk) : Job site → Prop
  | removePair _ => True
  | quarantine read => Arrived disk read.record.relativeParts read.generation.payload ∨
      Arrived disk read.destination read.generation.payload

/-- The intent reads back, no bytes are lost, and whatever crashes came before, the recovery of a
published intent succeeds and ends as the intent asks. -/
structure Recoverable [FreshGenerations] (job : Job site) (selected : Datetime) : Prop where
  reads : ∀ payload, formatWindowsRetentionTransaction (job.intent selected) = .ok payload →
    parseWindowsRetentionTransaction payload = .ok (job.intent selected)
  kept : ∀ disk, Recovers (job.run selected) recoverWindowsRetentionTransaction site.disk disk →
    job.Kept disk
  recovered : ∀ disk, Recovers (job.run selected) recoverWindowsRetentionTransaction site.disk disk →
    disk markerPath ≠ none →
      (recoverWindowsRetentionTransaction disk).result = .ok (some (job.intent selected)) ∧
        job.Done (recoverWindowsRetentionTransaction disk).state ∧
        (recoverWindowsRetentionTransaction disk).state markerPath = none

end Job

/-! ## Coherence -/

/-- The shape of a hexadecimal SHA-256 digest. -/
structure HexDigests : Prop where
  digits : ∀ text, isSha256 (Host.sha256 text) = true

omit [FloatReader] in
theorem isComponent_quarantineName (hex : HexDigests) (identity : PlatformObjectIdentity)
    (parts : Parts) : isComponent (quarantineName identity parts) = true := by
  unfold quarantineName
  dsimp only
  generalize String.ofList _ = material
  have digits := hex.digits material
  generalize Host.sha256 material = digest at digits
  unfold isSha256 at digits
  rw [Bool.and_eq_true, beq_iff_eq, List.all_eq_true] at digits
  obtain ⟨length, digits⟩ := digits
  have whole : (digest ++ ".quarantine").length = 75 := by
    rw [String.length_append, length]
    rfl
  have plain : ∀ c ∈ (digest ++ ".quarantine").toList,
      (c != Json.backslash && c != '/' && c != ':' && c.toNat != 0) = true := by
    have hexadecimal : ∀ c ∈ "0123456789abcdef".toList,
        (c != Json.backslash && c != '/' && c != ':' && c.toNat != 0) = true :=
      forall_chars (by decide)
    have suffix : ∀ c ∈ ".quarantine".toList,
        (c != Json.backslash && c != '/' && c != ':' && c.toNat != 0) = true :=
      forall_chars (by decide)
    intro c listed
    rw [String.toList_append, List.mem_append] at listed
    rcases listed with digit | last
    · exact hexadecimal c (List.contains_iff_mem.mp (digits c digit))
    · exact suffix c last
  have differs : ∀ short : String, short.length ≠ 75 → (digest ++ ".quarantine") ≠ short :=
    fun short other same => other (same ▸ whole)
  have nonempty : (digest ++ ".quarantine").isEmpty = false := by
    rw [String.isEmpty_eq_false_iff]
    exact differs "" (by decide)
  unfold isComponent
  rw [nonempty, bne_iff_ne.mpr (differs "." (by decide)), bne_iff_ne.mpr (differs ".." (by decide)),
    List.all_eq_true.mpr plain]
  rfl

namespace Site

omit [FloatReader] in
theorem scannable {record : RetainedFileRecord} (listed : record ∈ site.tree.records) :
    Scannable record.relativeParts :=
  scannable_of_mem (site.scanned ▸ listed)

omit [FloatReader] in
/-- A file that was read has an identity that is read back. -/
theorem bounded {record : RetainedFileRecord} {generation : Generation}
    (listed : record ∈ site.tree.records)
    (held : site.disk record.relativeParts = some generation)
    (small : record.size ≤ MAX_REPAIR_FILE_BYTES) : generation.identity.Bounded := by
  refine ⟨site.native _ _ held, ?_⟩
  rw [generation.sized, site.sized record listed generation held]
  exact Int.ofNat_le.mpr small

end Site

theorem PlannedPair.apart (planned : PlannedPair site) :
    planned.pair.evidence.relativeParts ≠ planned.pair.sidecar.relativeParts ∧
      planned.pair.evidence.relativeParts.dropLast = planned.pair.sidecar.relativeParts.dropLast := by
  obtain ⟨-, -, -, name, named, parts⟩ := planPairWindows_spec planned.planned
  have sidecarParts := ScannedTree.parent_name planned.listed
  refine ⟨fun same => ?_, ?_⟩
  · rw [parts, sidecarParts, List.append_right_inj, List.singleton_inj, named] at same
    have longer := congrArg String.length same
    unfold sidecarName at longer
    rw [String.length_append] at longer
    exact absurd longer (Nat.ne_of_lt (Nat.lt_add_of_pos_right (by decide)))
  · rw [parts, List.dropLast_concat]
    rfl

omit [FloatReader] in
theorem checkOperation_removePair {first second : TransactionRecord} {expires : String}
    {instant : Int} (parents : first.relativeParts.dropLast = second.relativeParts.dropLast)
    (stamped : validatedManifestTimestamp (.str expires) = .ok instant) :
    checkOperation "remove_pair" [first, second] none (some expires) = .ok .removePair := by
  unfold checkOperation
  rw [if_pos rfl]
  simp only [beq_iff_eq.mpr parents, demand_true, ok_bind, stamped]
  rfl

omit [FloatReader] in
theorem checkOperation_quarantine {source : TransactionRecord} {name : String} :
    checkOperation "quarantine" [source] (some [RETENTION_QUARANTINE_NAME, name]) none =
      .ok .quarantine := by
  unfold checkOperation
  rw [if_neg (by decide), if_pos rfl]
  simp only [beq_self_eq_true, demand_true, ok_bind]
  rfl

/-- The intent of a job is coherent. -/
theorem Job.coherent (hex : HexDigests) {selected : Datetime} (utc : selected.offset = some 0)
    (job : Job site) : (job.intent selected).Coherent := by
  cases job with
  | removePair planned =>
    obtain ⟨evidence, evidenceSmall, sidecarSmall, -⟩ := planPairWindows_spec planned.planned
    obtain ⟨apart, parents⟩ := planned.apart
    have pathOf := @Site.scannable _ site _ evidence
    have sidecarPath := @Site.scannable _ site _ planned.listed
    refine ⟨?_, ?_, ⟨_, stamp_utc utc⟩, ?_, ?_, nofun⟩
    · exact checkOperation_removePair parents (stamp_utc planned.utc)
    · simpa [intent] using apart
    · rintro source listed
      rcases List.mem_pair.mp listed with rfl | rfl
      · exact Site.bounded evidence planned.evidenceHeld evidenceSmall
      · exact Site.bounded planned.listed planned.sidecarHeld sidecarSmall
    · rintro source listed
      rcases List.mem_pair.mp listed with rfl | rfl
      · exact ⟨pathOf.nonempty, pathOf.all_isComponent⟩
      · exact ⟨sidecarPath.nonempty, sidecarPath.all_isComponent⟩
  | quarantine read =>
    have path := @Site.scannable _ site _ read.listed
    refine ⟨?_, List.nodup_singleton _, ⟨_, stamp_utc utc⟩, ?_, ?_, ?_⟩
    · exact checkOperation_quarantine
    · rintro source listed
      rw [List.mem_singleton.mp listed]
      exact Site.bounded read.listed read.held read.small
    · rintro source listed
      rw [List.mem_singleton.mp listed]
      exact ⟨path.nonempty, path.all_isComponent⟩
    · rintro parts same
      obtain rfl := Option.some.inj same
      refine ⟨List.cons_ne_nil _ _, ?_, Nat.le_add_left 2 62⟩
      simp only [ReadRecord.destination, List.all_cons, List.all_nil, Bool.and_true,
        isComponent_quarantineName hex]
      decide

/-! ## Recovery -/

namespace Job

variable {selected : Datetime}

omit [FloatReader] in
/-- A source that was read is on the disk as recorded. -/
theorem found {record : RetainedFileRecord} {generation : Generation}
    (listed : record ∈ site.tree.records)
    (held : site.disk record.relativeParts = some generation)
    (small : record.size ≤ MAX_REPAIR_FILE_BYTES) : record.relativeParts ≠ markerPath ∧
      ∃ other, site.disk record.relativeParts = some other ∧
        other.identity = generation.identity ∧ other.payload.length ≤ MAX_REPAIR_FILE_BYTES := by
  refine ⟨(Site.scannable listed).ne_marker, generation, held, rfl, ?_⟩
  rw [site.sized record listed generation held]
  exact small

/-- The intent of a shallow job reads back. -/
theorem reads (hex : HexDigests) (utc : selected.offset = some 0) {job : Job site}
    (shallow : job.Shallow) {payload : String}
    (written : formatWindowsRetentionTransaction (job.intent selected) = .ok payload) :
    parseWindowsRetentionTransaction payload = .ok (job.intent selected) := by
  refine (parse_format_iff (job.coherent hex utc) written).mpr fun source listed => ?_
  cases job with
  | removePair planned =>
    rcases List.mem_pair.mp listed with rfl | rfl
    · exact shallow.1
    · exact shallow.2
  | quarantine read =>
    rw [List.mem_singleton.mp listed]
    exact shallow

variable [FreshGenerations]

theorem removePair_recoverable (hex : HexDigests) (utc : selected.offset = some 0)
    (planned : PlannedPair site) (shallow : (removePair planned).Shallow) :
    (removePair planned).Recoverable selected := by
  obtain ⟨evidence, evidenceSmall, sidecarSmall, -⟩ := planPairWindows_spec planned.planned
  have recorded : Recorded site.disk ((removePair planned).intent selected) := by
    refine ⟨fun _ => reads hex utc shallow, site.clear, fun source listed => ?_⟩
    rcases List.mem_pair.mp listed with rfl | rfl
    · exact found evidence planned.evidenceHeld evidenceSmall
    · exact found planned.listed planned.sidecarHeld sidecarSmall
  refine ⟨fun _ => reads hex utc shallow, fun _ _ => trivial, fun disk reached marked => ?_⟩
  have state : RemovalState site.disk ((removePair planned).intent selected) disk :=
    reached.invariant (RemovalState.initial site.clear) (RemovalState.begin recorded)
      fun _ state => state.recover recorded rfl
  obtain ⟨result, ended, -, clear, done⟩ := wp_returns (state.recover recorded rfl)
  obtain ⟨rfl, gone⟩ := done marked
  exact ⟨ended, ⟨gone _ List.mem_cons_self, gone _ (List.mem_cons_of_mem _ List.mem_cons_self)⟩, clear⟩

theorem quarantine_recoverable (hex : HexDigests) (utc : selected.offset = some 0)
    (read : ReadRecord site) (shallow : (quarantine read).Shallow) (free : (quarantine read).Free) :
    (quarantine read).Recoverable selected := by
  have path := Site.scannable read.listed
  have move : Move site.disk ((quarantine read).intent selected) read.source read.destination
      read.generation.payload := by
    refine ⟨⟨fun _ => reads hex utc shallow, site.clear, fun source listed => ?_⟩, rfl, rfl, ?_,
      ⟨path.ne_quarantined, ?_⟩, free⟩
    · rw [List.mem_singleton.mp listed]
      exact found read.listed read.held read.small
    · intro generation held
      rw [Option.some.inj (held.symm.trans read.held)]
    · intro same
      exact Nat.succ_ne_self 1 (congrArg List.length same)
  have invariant : ∀ disk, Recovers ((quarantine read).run selected)
      recoverWindowsRetentionTransaction site.disk disk → QuarantineState site.disk
        ((quarantine read).intent selected) read.source read.destination read.generation.payload
        disk := fun disk reached =>
    reached.invariant (QuarantineState.initial site.clear) (QuarantineState.begin move)
      fun _ state => state.recover move rfl
  refine ⟨fun _ => reads hex utc shallow, fun disk reached => ?_, fun disk reached marked => ?_⟩
  · rcases (invariant disk reached).left with kept | ⟨-, arrived⟩
    · exact .inl ⟨read.generation, kept.trans read.held, rfl⟩
    · exact .inr arrived
  · obtain ⟨result, ended, -, clear, done⟩ := wp_returns ((invariant disk reached).recover move rfl)
    obtain ⟨rfl, gone, arrived⟩ := done marked
    exact ⟨ended, ⟨gone, arrived⟩, clear⟩

end Job

/-- Every job whose sources are not too deep, and whose destination is not taken by other bytes, can
be recovered after any crashes. -/
theorem jobs_recoverable [FreshGenerations] (hex : HexDigests) (site : Site) (job : Job site)
    (selected : Datetime) (utc : selected.offset = some 0) (shallow : job.Shallow)
    (free : job.Free) : job.Recoverable selected := by
  cases job with
  | removePair planned => exact Job.removePair_recoverable hex utc planned shallow
  | quarantine read => exact Job.quarantine_recoverable hex utc read shallow free

end

/-- Where the destination holds other bytes, no recovery of the published intent succeeds. -/
theorem taken_destination_stuck [Host] [FloatReader] [FreshGenerations] (hex : HexDigests)
    {site : Site} (read : ReadRecord site) {selected : Datetime} (utc : selected.offset = some 0)
    (shallow : (Job.quarantine read).Shallow) {disk : Disk} {marker other : Generation}
    (marked : disk markerPath = some marker)
    (written : formatWindowsRetentionTransaction ((Job.quarantine read).intent selected) =
      .ok marker.payload)
    (taken : disk read.destination = some other)
    (different : Host.sha256 other.payload ≠ Host.sha256 read.generation.payload) :
    wp (fun _ => False) recoverWindowsRetentionTransaction (fun _ _ => False)
      (fun _ after => after = disk) disk := by
  refine wp_bind.mpr (wp_get.mpr ?_)
  rw [marked]
  refine wp_bind.mpr (wp_openTransaction (wp_bind.mpr (wp_lift.mpr ?_)) fun _ _ => rfl)
  rw [Job.reads hex utc shallow written]
  refine wp_bind.mpr (wp_mono ?_ (fun _ _ => False.elim) fun _ _ same => same)
  show wp _ (finishWindowsQuarantine ((Job.quarantine read).intent selected)) _ _ _
  refine wp_bind.mpr (wp_openTransaction ?_ fun _ _ => rfl)
  refine wp_bind.mpr (wp_openTransaction ?_ fun _ _ => rfl)
  refine wp_bind.mpr (wp_ensure (fun _ => wp_bind.mpr (wp_readBytes.mpr ?_)) fun _ => rfl)
  refine wp_bind.mpr (wp_currentIdentity.mpr (wp_bind.mpr (wp_ensure (fun _ => ?_) fun _ => rfl)))
  refine wp_bind.mpr (wp_ensure (fun _ => wp_bind.mpr (wp_readBytes.mpr ?_)) fun _ => rfl)
  refine wp_bind.mpr (wp_currentIdentity.mpr ?_)
  rw [taken]
  refine wp_bind.mpr (wp_ensure (fun same => ?_) fun _ => rfl)
  rw [Bool.and_eq_true, Bool.and_eq_true, beq_iff_eq, other.digested] at same
  exact absurd (same.1.1.trans read.generation.digested) different

/-! ## A file at the limit of the scanner -/

namespace DeepFile

attribute [local instance] plainHost Notes.floats

def directory : WindowsName := ⟨"a", by decide⟩

/-- A file of one byte below so many directories. -/
def below : Nat → WindowsEntry
  | 0 => .file 1
  | depth + 1 => .directory [(directory, below depth)]

def record (depth : Nat) : RetainedFileRecord := ⟨List.replicate depth "a", 0, false, 1⟩

theorem scanned_deep : (scanRetainedFilesWindows 1000 [(directory, below 64)]).1 = [record 65] := by
  decide +kernel

theorem scanned_shallow : (scanRetainedFilesWindows 1000 [(directory, below 1)]).1 = [record 2] := by
  decide +kernel

def object : PlatformObjectIdentity where
  fields := {
    platform := "windows", kind := .file, volumeSerial := some "0",
    fileId := some "00000000000000000000000000000000", ownerSid := some "S-1-0",
    daclSha256 := some (numeral 0).val, trustPolicySha256 := some (numeral 0).val }
  valid := by decide +kernel

/-- The identity of a file of this size. -/
def identity (size : Nat) : AtomicStateIdentity where
  fields := ⟨object, (numeral 0).val, size⟩
  valid := by
    refine firstError_none.mpr ?_
    simp only [AtomicStateIdentityFields.checks, List.forall_mem_cons, List.not_mem_nil,
      false_imp_iff, implies_true, and_true]
    exact ⟨by decide, by decide, decide_eq_true (Int.natCast_nonneg size)⟩

def generation (payload : String) : Generation := ⟨identity payload.length, payload, rfl, rfl⟩

@[reducible]
def fresh : FreshGenerations := ⟨fun _ _ => generation, fun _ _ _ => rfl⟩

attribute [local instance] fresh

theorem hex : HexDigests := ⟨fun _ => (by decide : isSha256 (numeral 0).val = true)⟩

/-- The disk of one file. -/
def disk (depth : Nat) : Disk :=
  set (fun _ => none) (record (depth + 1)).relativeParts (some (generation "x"))

theorem disk_self {depth : Nat} :
    disk depth (record (depth + 1)).relativeParts = some (generation "x") := set_self

theorem disk_other {depth : Nat} {path : Parts} (other : path ≠ (record (depth + 1)).relativeParts) :
    disk depth path = none := set_other other

/-- A site with one file. -/
def site (depth : Nat)
    (scanned : (scanRetainedFilesWindows 1000 [(directory, below depth)]).1 = [record (depth + 1)]) :
    Site where
  maxFiles := 1000
  children := [(directory, below depth)]
  tree := {
    rootDevice := 0
    records := [record (depth + 1)]
    contents := fun _ => some "x"
    distinct := List.nodup_singleton _
    named := fun other listed => List.mem_singleton.mp listed ▸ List.cons_ne_nil _ _
    regular := fun other listed => List.mem_singleton.mp listed ▸ rfl }
  disk := disk depth
  scanned := scanned.symm
  clear := by
    refine disk_other fun same => ?_
    have head : WINDOWS_RETENTION_TRANSACTION_NAME = "a" := (List.cons.inj same).1
    exact absurd head (by decide)
  native path other held := by
    by_cases here : path = (record (depth + 1)).relativeParts
    · subst here
      obtain rfl := Option.some.inj (disk_self.symm.trans held)
      exact beq_self_eq_true "windows"
    · cases (disk_other here).symm.trans held
  sized other listed found held := by
    rw [List.mem_singleton.mp listed] at held ⊢
    obtain rfl := Option.some.inj (disk_self.symm.trans held)
    rfl

def read (depth : Nat)
    (scanned : (scanRetainedFilesWindows 1000 [(directory, below depth)]).1 = [record (depth + 1)]) :
    ReadRecord (site depth scanned) where
  record := record (depth + 1)
  listed := List.mem_cons_self
  small := (by decide : 1 ≤ MAX_REPAIR_FILE_BYTES)
  generation := generation "x"
  held := disk_self

def selected : Datetime := Notes.morning 4 (by decide)

theorem short : (Json.render Json.compactAscii 0
    ((Job.quarantine (read 64 scanned_deep)).intent selected).document ++ [Char.ofNat 10]).length ≤
      MAX_WINDOWS_RETENTION_TRANSACTION_BYTES := by
  decide +kernel

theorem sample_recoverable :
    (Job.quarantine (read 1 scanned_shallow)).Recoverable selected := by
  have shallow : (Job.quarantine (read 1 scanned_shallow)).Shallow :=
    (by decide : (List.replicate 2 "a").length ≤ MAX_REPAIR_DEPTH)
  refine jobs_recoverable hex _ _ selected rfl shallow fun other held => ?_
  have elsewhere : (read 1 scanned_shallow).destination ≠ (record 2).relativeParts :=
    (Site.scannable (read 1 scanned_shallow).listed).ne_quarantined
  cases (disk_other elsewhere).symm.trans held

end DeepFile

/-- The intent to quarantine a file at the limit of the scanner is published, and its marker cannot
be read again. -/
theorem deep_file_stuck : ¬ ∀ [Host] [FloatReader] [FreshGenerations], HexDigests → ∀ (site : Site)
    (job : Job site) (selected : Datetime), selected.offset = some 0 → job.Recoverable selected := by
  intro recoverable
  let := plainHost
  let := Notes.floats
  let := DeepFile.fresh
  let read := DeepFile.read 64 DeepFile.scanned_deep
  have works := recoverable DeepFile.hex _ (.quarantine read) DeepFile.selected rfl
  have coherent := (Job.quarantine read).coherent DeepFile.hex
    (rfl : DeepFile.selected.offset = some 0)
  obtain ⟨payload, written⟩ : ∃ payload, formatWindowsRetentionTransaction
      ((Job.quarantine read).intent DeepFile.selected) = .ok payload := by
    unfold formatWindowsRetentionTransaction
    dsimp only
    rw [String.length_ofList, if_neg (Nat.not_lt.mpr DeepFile.short)]
    exact ⟨_, rfl⟩
  have shallow : (List.replicate 65 "a").length ≤ MAX_REPAIR_DEPTH :=
    (parse_format_iff coherent written).mp (works.reads payload written) read.source
      List.mem_cons_self
  exact absurd shallow (by decide)

end MasterAgent.Retention
