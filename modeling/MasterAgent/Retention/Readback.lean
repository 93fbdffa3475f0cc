import MasterAgent.Retention.Agreement
import MasterAgent.Retention.Writers

/-!
# Reading retained evidence back

The Windows planner chooses how to read an evidence file by its suffix; the other planner tries
both readings. The writers digest a JSON document or a text, whatever the name of the file.

Results:

1. `loads_manifest`: the sidecar reads back as the manifest;
2. `run_written`: what a successful write leaves;
3. `readable_iff`: when both planners accept what was written, with the right expiry.
-/

namespace MasterAgent.Retention
open Base

/-! ## The Windows planner -/

/-- `Path(name).suffix` -/
def pathSuffix (name : String) : String :=
  let characters := name.toList
  let extension := (characters.reverse.takeWhile (· ≠ '.')).reverse
  let stem := (characters.reverse.dropWhile (· ≠ '.')).tail
  if extension = [] ∨ stem = [] then "" else String.ofList ('.' :: extension)

section
variable [Host] [JsonDecoder]

/-- `Path(record.name).suffix.casefold() == ".json"` -/
def isJsonName (name : String) : Bool := casefold (pathSuffix name) == ".json"

/-- An evidence text as a JSON document or as the text it is. -/
def reading (structured : Bool) (text : String) : Option Json :=
  if structured then JsonDecoder.loads text else some (.str text)

/-- `_verify_windows_retained_content` -/
def verifyWindowsRetainedContent (name text : String) (manifest : Fields) : Except Exn Unit :=
  match ((Json.obj manifest).get? "content_digest").getD .null with
  | .str expected =>
    match reading (isJsonName name) text with
    | none => .error (valueError "retention evidence is not valid JSON")
    | some value =>
      if contentDigest value == expected then .ok ()
      else .error (valueError "retention content digest does not match evidence")
  | _ => .error (typeError "retention content digest is invalid")

/-- The body of the loop of `_plan_retained_pairs_windows`. -/
def ScannedTree.planPairWindows (tree : ScannedTree) (paired : List Parts)
    (sidecar : RetainedFileRecord) : Except Exn RetainedEvidencePair := do
  let raw ← tree.readManifest sidecar
  let (evidenceName, expiresAt) ← validateRetentionManifest raw sidecar.name
  let evidence ← tree.requireEvidence (sidecar.parent ++ [evidenceName])
  demand (!paired.contains evidence.relativeParts)
    (valueError "retention evidence has conflicting sidecars")
  let text ← tree.readText evidence
  verifyWindowsRetainedContent evidence.name text raw
  return ⟨evidence, sidecar, expiresAt⟩

end

/-! ## Writes -/

/-- A call of one of the writers. -/
inductive WriteCall where
  | json (payload : Fields) (includeContent : Bool)
  | text (content : String) (citationIds : List String)
  /-- A reservation that is committed. -/
  | reserved (payload : Fields) (includeContent : Bool)

namespace WriteCall

/-- Does the writer digest the evidence as a JSON document? -/
def structured : WriteCall → Bool
  | json .. | reserved .. => true
  | text .. => false

section
variable [Host] [FloatReader] (metadataOnly : Fields → Except Exn Fields)

def run (config : RetentionConfig) (name evidenceType : String) (now : Datetime) :
    WriteCall → Except Exn RetainedFiles
  | json payload includeContent =>
    writeRetainedJson metadataOnly config name payload evidenceType includeContent now
  | text content citationIds => writeRetainedText config name content evidenceType citationIds now
  | reserved payload includeContent => do
    let reservation ← RetainedJSONReservation.open config name evidenceType includeContent now
    reservation.commit metadataOnly payload

end
end WriteCall

/-! ## The sidecar reads back -/

theorem readBackItems_str {reader : Json.Reader} {texts : List String} :
    Json.readBackItems reader (texts.map .str) = some (texts.map .str) := by
  induction texts with
  | nil => rfl
  | cons text texts ih =>
    rw [List.map_cons, Json.readBackItems, ih]
    rfl

theorem readBackMembers_toDict {reader : Json.Reader} (manifest : RetentionManifest) :
    Json.readBackMembers reader manifest.toDict = some manifest.toDict := by
  simp only [RetentionManifest.toDict, Json.readBackMembers, Json.readBack, readBackItems_str,
    Option.map_some, Option.bind_eq_bind, Option.bind_some]

theorem uniqueJsonObject_toDict (manifest : RetentionManifest) :
    uniqueJsonObject manifest.toDict = some (Json.mkFields manifest.toDict) :=
  if_pos (by decide : RETENTION_MANIFEST_KEYS.Nodup)

section
variable [FloatReader]

/-- The sidecar reads back as the manifest. -/
theorem loads_manifest (manifest : RetentionManifest) :
    JsonDecoder.loads (dumpsIndented manifest.toDict) =
      some (.obj (Json.mkFields manifest.toDict)) := by
  refine @Json.loads_render Json.indented _ _ _ _ (forall_chars (by decide)) ?_
  rw [Json.readBack, readBackMembers_toDict, Option.bind_some]
  exact congrArg (Option.map Json.obj) (uniqueJsonObject_toDict manifest)

/-- A text is no JSON document for itself. -/
theorem loads_ne_text {text : String} : JsonDecoder.loads text ≠ some (.str text) :=
  fun reads => absurd (Json.loads_str_shorter reads) (Nat.lt_irrefl _)

end

/-! ## What a write leaves -/

/-- The instant of creation: a time without an offset is taken for UTC. -/
def creationInstant (now : Datetime) : Int := now.instant?.getD now.wallMicros

theorem awareUtc_spec {now created : Datetime} (aware : awareUtc now = .ok created) :
    created.offset = some 0 ∧ created.wallMicros = creationInstant now := by
  unfold awareUtc creationInstant at *
  dsimp only at aware
  cases at? : now.instant? with
  | none =>
    rw [at?] at aware
    dsimp only at aware
    split at aware
    · cases aware
    · next utc made =>
      obtain rfl := Except.ok.inj aware
      unfold Datetime.make? at made
      split at made
      · obtain rfl := Option.some.inj made
        exact ⟨rfl, rfl⟩
      · cases made
  | some instant =>
    rw [at?] at aware
    dsimp only at aware
    split at aware
    · cases aware
    · next utc made =>
      obtain rfl := Except.ok.inj aware
      obtain ⟨nonneg, made⟩ := Option.ite_none_left_eq_some.mp made
      obtain ⟨offset, wall⟩ := Datetime.ofWall_spec made
      exact ⟨offset, wall.trans (Int.toNat_of_nonneg (Int.not_lt.mp nonneg))⟩

theorem expiry_spec {created expires : Datetime} {rule : RetentionRule}
    (found : expiry created rule = .ok expires) :
    expires.offset = some 0 ∧ expires.wallMicros = created.wallMicros + rule.ttl := by
  unfold expiry at found
  split at found
  · cases found
  · next later =>
    obtain rfl := Except.ok.inj found
    exact Datetime.later_spec later

theorem item_toDict {manifest : RetentionManifest} :
    item (.obj (Json.mkFields manifest.toDict)) "expires_at" = .ok (.str manifest.expiresAt) ∧
    item (.obj (Json.mkFields manifest.toDict)) "content_digest" =
      .ok (.str manifest.contentDigest) := ⟨rfl, rfl⟩

/-- A stamp that was written by `isoformat` is the instant it was written for. -/
theorem stamped_isoformat {d : Datetime} {instant : Int} (utc : d.offset = some 0)
    (stamped : validatedManifestTimestamp (.str d.isoformat) = .ok instant) :
    instant = d.wallMicros := by
  unfold validatedManifestTimestamp at stamped
  simp only [Datetime.fromIsoformat_isoformat, Datetime.instant?_utc utc] at stamped
  split_ifs at stamped
  exact (Except.ok.inj stamped).symm

theorem permittedRule_ok {config : RetentionConfig} {evidenceType : String} {includeContent : Bool}
    {rule : RetentionRule} (permitted : permittedRule config evidenceType includeContent = .ok rule) :
    rule = config.decide evidenceType := by
  unfold permittedRule at permitted
  dsimp only at permitted
  split_ifs at permitted
  exact (Except.ok.inj permitted).symm

theorem atomicWriteFiles_ok {files files' : RetainedFiles}
    (written : atomicWriteFiles files = .ok files') :
    files' = files ∧ files.evidence.utf8ByteSize ≤ MAX_REPAIR_FILE_BYTES ∧
      files.manifest.utf8ByteSize ≤ MAX_REPAIR_FILE_BYTES := by
  unfold atomicWriteFiles at written
  split_ifs at written with unsafeName large
  rw [not_or] at large
  exact ⟨(Except.ok.inj written).symm, Nat.not_lt.mp large.1, Nat.not_lt.mp large.2⟩

section
variable [Host]

/-- What a manifest check that succeeds found. -/
theorem validate_values {raw : Fields} {sidecar name : String} {expiresAt : Int}
    (valid : validateRetentionManifest raw sidecar = .ok (name, expiresAt)) :
    (∃ value, item (.obj raw) "expires_at" = .ok value ∧
      validatedManifestTimestamp value = .ok expiresAt) ∧
    ∃ value digest, item (.obj raw) "content_digest" = .ok value ∧ checkDigest value = .ok digest := by
  unfold validateRetentionManifest at valid
  obtain ⟨_, -, valid⟩ := of_bind_ok valid
  iterate 6 obtain ⟨_, -, valid⟩ := of_bind_ok valid
  obtain ⟨value, stored, valid⟩ := of_bind_ok valid
  obtain ⟨instant, stamped, valid⟩ := of_bind_ok valid
  iterate 5 obtain ⟨_, -, valid⟩ := of_bind_ok valid
  obtain ⟨held, kept, valid⟩ := of_bind_ok valid
  obtain ⟨digest, checked, valid⟩ := of_bind_ok valid
  iterate 2 obtain ⟨_, -, valid⟩ := of_bind_ok valid
  obtain rfl : instant = expiresAt := (Prod.mk.inj (Except.ok.inj valid)).2
  exact ⟨⟨value, stored, stamped⟩, held, digest, kept, checked⟩

/-- A manifest that could be built passes the check again, with the expiry of its rule. -/
theorem buildManifest_ok {name sidecar : String} {request : ManifestRequest}
    {manifest : RetentionManifest} (built : buildManifest name request = .ok (sidecar, manifest)) :
    validateRetentionManifest (Json.mkFields manifest.toDict) sidecar =
      .ok (name, request.created.wallMicros + request.rule.ttl) ∧
    expectedDigest (Json.mkFields manifest.toDict) = .ok request.digest ∧
    manifest.contentDigest = request.digest ∧ sidecar = sidecarName name := by
  obtain ⟨sidecar', path, built⟩ := of_bind_ok built
  have sibling : sidecar' = sidecarName name := by
    unfold retentionSidecarPath at path
    split_ifs at path
    exact (Except.ok.inj path).symm
  obtain ⟨_, -, built⟩ := of_bind_ok built
  obtain ⟨expires, later, built⟩ := of_bind_ok built
  dsimp only at built
  split at built
  case h_2 =>
    split at built <;> cases built
  case h_1 named valid =>
    obtain ⟨rfl, rfl⟩ := Prod.mk.inj (Except.ok.inj built)
    obtain ⟨found, due⟩ := named
    obtain ⟨⟨value, stored, stamped⟩, held, digest, kept, checked⟩ := validate_values valid
    obtain ⟨utc, wall⟩ := expiry_spec later
    obtain rfl := Except.ok.inj (item_toDict.1.symm.trans stored)
    obtain rfl := Except.ok.inj (item_toDict.2.symm.trans kept)
    have same : name = found := by
      obtain ⟨named, -⟩ := ScannedTree.validate_named valid
      exact named
    have onTime : due = request.created.wallMicros + request.rule.ttl := by
      rw [← wall]
      exact stamped_isoformat utc stamped
    have whole : digest = request.digest := by
      unfold checkDigest at checked
      dsimp only at checked
      split at checked
      · exact (Except.ok.inj checked).symm
      · cases checked
    subst same onTime whole
    exact ⟨valid, checked, rfl, sibling⟩

end

section
variable [Host] [FloatReader]

/-- The files of a successful write: the sidecar is the manifest of the evidence, and its digest
that of the evidence as the writer reads it. -/
structure Written (structured : Bool) (name : String) (expiresAt : Int) (files : RetainedFiles) :
    Prop where
  named : files.name = name
  beside : files.sidecar = sidecarName name
  small : files.evidence.utf8ByteSize ≤ MAX_REPAIR_FILE_BYTES ∧
    files.manifest.utf8ByteSize ≤ MAX_REPAIR_FILE_BYTES
  bound : ∃ raw value, JsonDecoder.loads files.manifest = some (.obj raw) ∧
    validateRetentionManifest raw files.sidecar = .ok (name, expiresAt) ∧
    reading structured files.evidence = some value ∧
    (Json.obj raw).get? "content_digest" = some (.str (contentDigest value)) ∧
    expectedDigest raw = .ok (contentDigest value)

theorem written_of_build {structured : Bool} {name text sidecar : String} {value : Json}
    {request : ManifestRequest} {manifest : RetentionManifest} {files : RetainedFiles}
    (built : buildManifest name request = .ok (sidecar, manifest))
    (read : reading structured text = some value) (digest : request.digest = contentDigest value)
    (stored : atomicWriteFiles ⟨name, text, sidecar, dumpsIndented manifest.toDict⟩ = .ok files) :
    Written structured name (request.created.wallMicros + request.rule.ttl) files := by
  obtain ⟨valid, expected, held, beside⟩ := buildManifest_ok built
  obtain ⟨rfl, small⟩ := atomicWriteFiles_ok stored
  refine ⟨rfl, beside, small, _, value, loads_manifest manifest, valid, read, ?_, digest ▸ expected⟩
  rw [← digest, ← held]
  rfl

theorem written_of_retainJson {name evidenceType : String} {rule : RetentionRule}
    {created : Datetime} {contentIncluded : Bool} {output : Fields} {files : RetainedFiles}
    (wrote : retainJson name evidenceType rule created contentIncluded output = .ok files) :
    Written true name (created.wallMicros + rule.ttl) files := by
  obtain ⟨⟨payload, normalized⟩, serialized, wrote⟩ := of_bind_ok wrote
  obtain ⟨citationIds, -, wrote⟩ := of_bind_ok wrote
  obtain ⟨⟨sidecar, manifest⟩, built, stored⟩ := of_bind_ok wrote
  have read : reading true payload = some (.obj normalized) := by
    unfold serializeRetainedJson at serialized
    dsimp only at serialized
    split at serialized <;> cases serialized
    assumption
  have written := written_of_build built read rfl stored
  exact written

variable {metadataOnly : Fields → Except Exn Fields} {config : RetentionConfig}
  {name evidenceType : String} {now : Datetime} {files : RetainedFiles}

/-- What a successful write leaves. -/
theorem run_written {call : WriteCall}
    (succeeds : call.run metadataOnly config name evidenceType now = .ok files) :
    Written call.structured name (creationInstant now + (config.decide evidenceType).ttl)
      files := by
  cases call with
  | json payload includeContent =>
    obtain ⟨rule, permitted, wrote⟩ := of_bind_ok succeeds
    obtain ⟨created, aware, wrote⟩ := of_bind_ok wrote
    obtain ⟨output, -, wrote⟩ := of_bind_ok wrote
    rw [← permittedRule_ok permitted, ← (awareUtc_spec aware).2]
    exact written_of_retainJson wrote
  | text content citationIds =>
    obtain ⟨rule, permitted, wrote⟩ := of_bind_ok succeeds
    obtain ⟨created, aware, wrote⟩ := of_bind_ok wrote
    obtain ⟨⟨sidecar, manifest⟩, built, stored⟩ := of_bind_ok wrote
    rw [← permittedRule_ok permitted, ← (awareUtc_spec aware).2]
    have written := @written_of_build _ _ false _ content _ (.str content) _ _ _ built rfl rfl stored
    exact written
  | reserved payload includeContent =>
    obtain ⟨reservation, opened, committed⟩ := of_bind_ok succeeds
    obtain ⟨rule, permitted, opened⟩ := of_bind_ok opened
    obtain ⟨created, aware, opened⟩ := of_bind_ok opened
    obtain ⟨_, -, opened⟩ := of_bind_ok opened
    obtain ⟨sidecar, -, opened⟩ := of_bind_ok opened
    obtain rfl := Except.ok.inj opened
    unfold RetainedJSONReservation.commit at committed
    obtain ⟨output, -, wrote⟩ := of_bind_ok committed
    rw [← permittedRule_ok permitted, ← (awareUtc_spec aware).2]
    exact written_of_retainJson wrote

end

/-! ## When both planners accept it -/

namespace RetainedFiles

/-- The record of the evidence file below a directory. -/
def evidenceRecord (files : RetainedFiles) (tree : ScannedTree) (parent : Parts) :
    RetainedFileRecord :=
  ⟨parent ++ [files.name], tree.rootDevice, false, files.evidence.utf8ByteSize⟩

def sidecarRecord (files : RetainedFiles) (tree : ScannedTree) (parent : Parts) :
    RetainedFileRecord :=
  ⟨parent ++ [files.sidecar], tree.rootDevice, false, files.manifest.utf8ByteSize⟩

end RetainedFiles

/-- The tree has the two files in a directory, as they were written. -/
structure ScannedTree.Holds (tree : ScannedTree) (parent : Parts) (files : RetainedFiles) :
    Prop where
  evidence : files.evidenceRecord tree parent ∈ tree.records
  sidecar : files.sidecarRecord tree parent ∈ tree.records
  text : tree.contents (parent ++ [files.name]) = some files.evidence
  manifest : tree.contents (parent ++ [files.sidecar]) = some files.manifest

section
variable [Host] [FloatReader]

/-- Both planners make a pair of the two files, with the given expiry. -/
def ScannedTree.Accepts (tree : ScannedTree) (parent : Parts) (files : RetainedFiles)
    (expiresAt : Int) : Prop :=
  let sidecar := files.sidecarRecord tree parent
  let pair : RetainedEvidencePair := ⟨files.evidenceRecord tree parent, sidecar, expiresAt⟩
  tree.planPair [] sidecar = .ok pair ∧ tree.planPairWindows [] sidecar = .ok pair

/-- The evidence is also a JSON document, another text than the evidence as a JSON string, and the
two texts have one digest. -/
def Collides (text : String) : Prop :=
  ∃ value, JsonDecoder.loads text = some value ∧ value.dumps ≠ (Json.str text).dumps ∧
    Host.sha256 value.dumps = Host.sha256 (Json.str text).dumps

variable {tree : ScannedTree} {parent : Parts} {structured : Bool} {name : String}
  {expiresAt : Int} {files : RetainedFiles}

omit [Host] [FloatReader] in
theorem readText_of_contents {record : RetainedFileRecord} {text : String}
    (regular : record.isSymlink = false) (small : record.size ≤ MAX_REPAIR_FILE_BYTES)
    (held : tree.contents record.relativeParts = some text) : tree.readText record = .ok text := by
  unfold ScannedTree.readText
  rw [regular, held]
  simp [Nat.not_lt.mpr small]

omit [Host] [FloatReader] in
theorem byRelative_of_mem {record : RetainedFileRecord} (member : record ∈ tree.records) :
    tree.byRelative record.relativeParts = some record := by
  cases found : tree.byRelative record.relativeParts with
  | none => exact absurd (decide_eq_true rfl) (List.find?_eq_none.mp found record member)
  | some other =>
    obtain ⟨listed, same⟩ := ScannedTree.mem_of_byRelative found
    rw [ScannedTree.eq_of_parts listed member same]

/-- Two readings of one text have one digest exactly when they are one reading, or collide. -/
theorem reading_iff {text : String} {other : Bool} {value : Json}
    (read : reading structured text = some value) :
    (∃ value', reading other text = some value' ∧ contentDigest value' = contentDigest value) ↔
      structured = other ∨ Collides text := by
  have apart {parsed : Json} (parses : JsonDecoder.loads text = some parsed) :
      parsed.dumps ≠ (Json.str text).dumps :=
    fun same => loads_ne_text (Json.dumps_inj same ▸ parses)
  cases structured <;> cases other
  case false.false | true.true =>
    exact iff_of_true ⟨value, read, rfl⟩ (.inl rfl)
  case false.true =>
    obtain rfl : Json.str text = value := Option.some.inj read
    constructor
    · rintro ⟨parsed, parses, same⟩
      exact .inr ⟨parsed, parses, apart parses, same⟩
    · rintro (⟨⟨⟩⟩ | ⟨parsed, parses, -, same⟩)
      exact ⟨parsed, parses, same⟩
  case true.false =>
    have parses : JsonDecoder.loads text = some value := read
    constructor
    · rintro ⟨parsed, plain, same⟩
      obtain rfl : Json.str text = parsed := Option.some.inj plain
      exact .inr ⟨value, parses, apart parses, same.symm⟩
    · rintro (⟨⟨⟩⟩ | ⟨parsed, parses', -, same⟩)
      obtain rfl : parsed = value := Option.some.inj (parses'.symm.trans parses)
      exact ⟨.str text, rfl, same.symm⟩

/-- The Windows check compares the digest with that of its own reading. -/
theorem verifyWindows_iff {text : String} {raw : Fields} {value : Json}
    (digest : (Json.obj raw).get? "content_digest" = some (.str (contentDigest value))) :
    verifyWindowsRetainedContent name text raw = .ok () ↔
      ∃ value', reading (isJsonName name) text = some value' ∧
        contentDigest value' = contentDigest value := by
  unfold verifyWindowsRetainedContent
  rw [digest, Option.getD_some]
  dsimp only
  cases reading (isJsonName name) text with
  | none => exact iff_of_false nofun nofun
  | some parsed => simp

theorem accepts_iff (written : Written structured name expiresAt files)
    (holds : tree.Holds parent files) :
    tree.Accepts parent files expiresAt ↔ structured = isJsonName name ∨ Collides files.evidence := by
  obtain ⟨named, beside, ⟨small, smallManifest⟩, raw, value, loads, valid, read, digest, expected⟩ :=
    written
  subst named
  have manifest : tree.readManifest (files.sidecarRecord tree parent) = .ok raw := by
    unfold ScannedTree.readManifest
    rw [readText_of_contents rfl smallManifest holds.manifest]
    simp only [ok_bind, loads]
  have text : tree.readText (files.evidenceRecord tree parent) = .ok files.evidence :=
    readText_of_contents rfl small holds.text
  have sidecarParent : (files.sidecarRecord tree parent).parent = parent := List.dropLast_concat
  have sidecarNamed : (files.sidecarRecord tree parent).name = files.sidecar :=
    List.getLastD_concat
  have evidenceNamed : (files.evidenceRecord tree parent).name = files.name := List.getLastD_concat
  have found : tree.requireEvidence (parent ++ [files.name]) =
      .ok (files.evidenceRecord tree parent) :=
    ScannedTree.requireEvidence_eq.mpr (byRelative_of_mem holds.evidence)
  have posix : tree.verifyRetainedRecord (files.evidenceRecord tree parent) raw = .ok () := by
    unfold ScannedTree.verifyRetainedRecord
    simp only [expected, text, ok_bind]
    cases structured with
    | false =>
      obtain rfl : Json.str files.evidence = value := Option.some.inj read
      rw [if_pos (beq_self_eq_true _)]
    | true =>
      have parses : JsonDecoder.loads files.evidence = some value := read
      rw [parses]
      simp only [beq_self_eq_true, if_true, ite_self]
  have plan : tree.planPair [] (files.sidecarRecord tree parent) =
      .ok ⟨files.evidenceRecord tree parent, files.sidecarRecord tree parent, expiresAt⟩ := by
    have onDevice : (files.sidecarRecord tree parent).device = tree.rootDevice := rfl
    have there : (files.evidenceRecord tree parent).device = tree.rootDevice := rfl
    simp only [ScannedTree.planPair, onDevice, manifest, sidecarNamed, valid, sidecarParent, found,
      there, posix, demand, beq_self_eq_true, List.contains_nil, Bool.not_false, if_true, ok_bind]
    rfl
  have windows : tree.planPairWindows [] (files.sidecarRecord tree parent) =
      (verifyWindowsRetainedContent files.name files.evidence raw).map fun _ =>
        ⟨files.evidenceRecord tree parent, files.sidecarRecord tree parent, expiresAt⟩ := by
    simp only [ScannedTree.planPairWindows, manifest, sidecarNamed, valid, sidecarParent, found,
      evidenceNamed, text, demand, List.contains_nil, Bool.not_false, if_true, ok_bind]
    cases verifyWindowsRetainedContent files.name files.evidence raw <;> rfl
  rw [← reading_iff read]
  unfold ScannedTree.Accepts
  dsimp only
  rw [plan, windows, ← verifyWindows_iff digest]
  constructor
  · rintro ⟨-, accepted⟩
    cases verified : verifyWindowsRetainedContent files.name files.evidence raw with
    | ok => rfl
    | error raised =>
      rw [verified] at accepted
      cases accepted
  · intro verified
    rw [verified]
    exact ⟨rfl, rfl⟩

end

section
variable [Host] [FloatReader] {metadataOnly : Fields → Except Exn Fields} {config : RetentionConfig}
  {name evidenceType : String} {now : Datetime} {files : RetainedFiles} {tree : ScannedTree}
  {parent : Parts}

/-- Both planners accept the files of a successful write, with the creation instant and the rule's
time to live as expiry, exactly when the writer that takes the evidence for a document is the one
that was given the name of a JSON file, digests that collide apart. -/
theorem readable_iff {call : WriteCall}
    (succeeds : call.run metadataOnly config name evidenceType now = .ok files)
    (holds : tree.Holds parent files) :
    tree.Accepts parent files (creationInstant now + (config.decide evidenceType).ttl) ↔
      call.structured = isJsonName name ∨ Collides files.evidence :=
  accepts_iff (run_written succeeds) holds

end

/-! ## A text with the name of a document -/

namespace Notes

attribute [local instance] ScannedTree.Samples.host

/-- A reader that takes no number for a float. -/
@[reducible]
def floats : FloatReader := ⟨fun _ => none⟩

attribute [local instance] floats

/-- Everything may be kept with its content, for a day. -/
def config : RetentionConfig where
  default := ⟨"*", 24, .explicitContent, by decide, by decide⟩
  rules := []

def morning (day : Nat) (valid : validDatetime 2026 1 day 3 4 5 0 (some 0) = true) : Datetime :=
  ⟨2026, 1, day, 3, 4, 5, 0, some 0, valid⟩

def request : ManifestRequest :=
  ⟨"note", config.default, morning 2 (by decide), true, ScannedTree.Samples.helloDigest, []⟩

def manifest : RetentionManifest := request.manifest "note.json" (morning 3 (by decide))

/-- `note.json` with the text `hello`. -/
def files : RetainedFiles :=
  ⟨"note.json", "hello", "note.json.retention.json", dumpsIndented manifest.toDict⟩

theorem permitted : permittedRule config "note" true = .ok config.default := rfl

theorem aware : awareUtc (morning 2 (by decide)) = .ok (morning 2 (by decide)) := by
  decide +kernel

theorem digested : contentDigest (.str "hello") = ScannedTree.Samples.helloDigest := by
  decide +kernel

theorem builds : buildManifest "note.json" request = .ok ("note.json.retention.json", manifest) := by
  decide +kernel

theorem utf8ByteSize_le (cs : List Char) : (String.ofList cs).utf8ByteSize ≤ 4 * cs.length := by
  induction cs with
  | nil => exact Nat.le_refl _
  | cons c cs ih =>
    have whole : String.ofList (c :: cs) = String.singleton c ++ String.ofList cs := by
      apply String.toList_injective
      simp
    have width := c.utf8Size_le_four
    rw [whole, String.utf8ByteSize_append, String.utf8ByteSize_singleton, List.length_cons]
    omega

theorem stores : atomicWriteFiles files = .ok files := by
  have named : (!isSiblingName files.name || !isSiblingName files.sidecar) = false := by
    decide +kernel
  have short : (Json.render Json.indented 0 (.obj manifest.toDict) ++ [Char.ofNat 10]).length ≤ 1000 := by
    decide +kernel
  have small : files.manifest.utf8ByteSize ≤ 4 * 1000 :=
    (utf8ByteSize_le _).trans (Nat.mul_le_mul_left 4 short)
  have bound : 4 * 1000 ≤ MAX_REPAIR_FILE_BYTES := by decide
  have within : ¬(files.evidence.utf8ByteSize > MAX_REPAIR_FILE_BYTES ∨
      files.manifest.utf8ByteSize > MAX_REPAIR_FILE_BYTES) := by
    rw [not_or, Nat.not_lt, Nat.not_lt]
    exact ⟨by decide +kernel, small.trans bound⟩
  unfold atomicWriteFiles
  rw [named, if_neg Bool.false_ne_true, if_neg within]

theorem writes : (WriteCall.text "hello" []).run .ok config "note.json" "note"
    (morning 2 (by decide)) = .ok files := by
  show writeRetainedText config "note.json" "hello" "note" [] _ = _
  unfold writeRetainedText
  rw [permitted, ok_bind, aware, ok_bind, digested]
  show (buildManifest "note.json" request >>= _) = _
  rw [builds, ok_bind]
  exact stores

def scanned : ScannedTree where
  rootDevice := 1
  records := [⟨["note.json"], 1, false, files.evidence.utf8ByteSize⟩,
    ⟨["note.json.retention.json"], 1, false, files.manifest.utf8ByteSize⟩]
  contents parts := if parts = ["note.json"] then some files.evidence else some files.manifest
  distinct := by decide
  named := by simp
  regular := by simp

theorem holds : scanned.Holds [] files where
  evidence := List.mem_cons_self
  sidecar := List.mem_cons_of_mem _ List.mem_cons_self
  text := rfl
  manifest := rfl

theorem sample_readable_iff : scanned.Accepts [] files
      (creationInstant (morning 2 (by decide)) + (config.decide "note").ttl) ↔
    (WriteCall.text "hello" []).structured = isJsonName "note.json" ∨ Collides files.evidence :=
  readable_iff writes holds

end Notes

/-- The Windows planner takes a text with the name of a JSON file for a document, and refuses
it. -/
theorem json_named_text_refused : ¬ ∀ [Host] [FloatReader]
    (metadataOnly : Fields → Except Exn Fields) (config : RetentionConfig)
    (name evidenceType : String) (now : Datetime) (call : WriteCall) (files : RetainedFiles)
    (tree : ScannedTree) (parent : Parts),
    call.run metadataOnly config name evidenceType now = .ok files → tree.Holds parent files →
      tree.Accepts parent files (creationInstant now + (config.decide evidenceType).ttl) := by
  intro readable
  let := ScannedTree.Samples.host
  let := Notes.floats
  have accepted := readable .ok Notes.config "note.json" "note" _ (.text "hello" []) _
    Notes.scanned [] Notes.writes Notes.holds
  have document : isJsonName "note.json" = true := by decide +kernel
  have unread : JsonDecoder.loads "hello" = none := by decide +kernel
  rcases (accepts_iff (run_written Notes.writes) Notes.holds).mp accepted with same | collides
  · exact Bool.false_ne_true (same.trans document)
  · obtain ⟨value, reads, -⟩ := collides
    cases unread.symm.trans reads

end MasterAgent.Retention
