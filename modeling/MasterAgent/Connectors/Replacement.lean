import MasterAgent.Connectors.SharePoint
import MasterAgent.Models.Trim

/-!
# A replacement replaces what was approved, and its restore what was uploaded

Other writers act between any two requests. As long as none of them acts between the two readings
of the metadata around an upload, nor between the reading of a rollback and its restore, the
connector writes over nothing it has not seen.

Results:

1. `execute_spec`, `verify_spec`, `compensate_spec`: each call on its own;
2. `replacement_exact`: the calls in one life;
3. `writer_overwritten`: a writer between the reading and the upload is overwritten.
-/

namespace MasterAgent.SharePoint
open Base Client Connectors Credentials

/-! ## Histories -/

/-- The world after some more events. -/
def Drive.extend (start : Drive) (events : List Event) : Drive :=
  ⟨start.initial, events ++ start.log⟩

namespace Event

def own (e : Event) : Bool := e.request.isSome

def isMetadata (e : Event) : Bool := e.request.any Request.isMetadata

def isUpload (e : Event) : Bool := e.request.any Request.isUpload

def isRestore (e : Event) : Bool := e.request.any Request.isRestore

def isWrite (e : Event) : Bool := e.isUpload || e.isRestore

end Event

/-- The events since the metadata were read. -/
def window (events : List Event) : List Event := events.takeWhile fun e => !e.isMetadata

/-- The event ends a time in which the connector relies on what it read. -/
def guarded (e : Event) (before : List Event) : Bool :=
  e.isRestore || e.isMetadata && (window before).any Event.isUpload

/-- No other writer acts between the two readings of the metadata around an upload, nor between a
reading and the restore that follows. -/
def Undisturbed : List Event → Prop
  | [] => True
  | e :: before =>
    (guarded e before = true → ∀ x ∈ window before, x.own = true) ∧ Undisturbed before

theorem window_append {newer older : List Event} (plain : ∀ e ∈ newer, e.isMetadata = false) :
    window (newer ++ older) = newer ++ window older := by
  refine List.takeWhile_append_of_pos fun e listed => ?_
  rw [plain e listed]
  rfl

/-- The item is in the state, or has been changed since. -/
def Follows (state item : Item) : Prop := item = state ∨ state.revision < item.revision

theorem Follows.newer {state item left : Item} (follows : Follows state item)
    (newer : left.revision = item.revision + 1) : Follows state left := by
  refine .inr ?_
  rcases follows with rfl | older
  · omega
  · omega

theorem Follows.eq {state item : Item} (follows : Follows state item)
    (same : item.revision = state.revision) : item = state := by
  rcases follows with here | older
  · exact here
  · omega

/-! ## What lasts -/

section
variable [Provider] {start drive : Drive} {I K : List Event → Prop}

/-- The events since a state of the world are as `I` asks. -/
def Since (start : Drive) (I : List Event → Prop) (drive : Drive) : Prop :=
  ∃ events, drive = start.extend events ∧ I events

/-- What other writers do not touch. -/
def Stable (start : Drive) (I : List Event → Prop) : Prop :=
  ∀ events left, left.revision = (start.extend events).item.revision + 1 → I events →
    I (⟨none, (start.extend events).item, left⟩ :: events)

omit [Provider] in
theorem Since.mono (since : Since start I drive) (wider : ∀ events, I events → K events) :
    Since start K drive := by
  obtain ⟨events, here, holds⟩ := since
  exact ⟨events, here, wider events holds⟩

theorem Since.elapses {after : Drive} (stable : Stable start I) (elapsed : hosting.Elapses drive after)
    (since : Since start I drive) : Since start I after := by
  refine Shared.Elapses.invariant ?_ elapsed since
  rintro _ _ ⟨events, rfl, holds⟩ (⟨bytes, rfl⟩ | rfl)
  · exact ⟨_, rfl, stable events _ rfl holds⟩
  · exact ⟨_, rfl, stable events _ rfl holds⟩

/-- A request is refused or served in what the others left. -/
theorem wp_request (c : Request) {J : c.Answer → List Event → Prop} (stable : Stable start I)
    (since : Since start I drive) (early : ∀ events, I events → K events)
    (served : ∀ events out left, I events → Serves (start.extend events).item c out left →
      J out (⟨some c, (start.extend events).item, left⟩ :: events))
    (late : ∀ out events, J out events → K events) :
    wp hosting (request c) (fun out => Since start (J out)) (fun _ => Since start K) drive := by
  refine wp_ask.mpr fun w elapsed r after step => ?_
  obtain ⟨events, rfl, holds⟩ := since.elapses stable elapsed
  rcases step with ⟨rfl, e, rfl⟩ | ⟨out, left, serves, rfl, rfl | ⟨e, rfl⟩⟩
  · exact ⟨events, rfl, early events holds⟩
  · exact ⟨_, rfl, served events out left holds serves⟩
  · exact ⟨_, rfl, late out _ (served events out left holds serves)⟩

end

/-! ## Reading -/

/-- A step that writes nothing: another writer, or a request that reads. -/
inductive Passes (item : Item) : Option Request → Item → Prop
  | other {left : Item} : left.revision = item.revision + 1 → Passes item none left
  | read {c : Request} : c.isUpload = false → c.isRestore = false → Passes item (some c) item

/-- What every step that writes nothing preserves. -/
def Kept (start : Drive) (B : List Event → Prop) : Prop :=
  ∀ events request left, Passes (start.extend events).item request left → B events →
    B (⟨request, (start.extend events).item, left⟩ :: events)

/-- The metadata were read in a state, and `F` holds of that state and of the item unless another
writer has acted since. -/
def Window (start : Drive) (B : List Event → Prop) (F : Item → Prop) (events : List Event) :
    Prop :=
  B events ∧ ∃ c item newer older, events = newer ++ ⟨some c, item, item⟩ :: older ∧
    c.isMetadata = true ∧ (∀ e ∈ newer, e.isMetadata = false ∧ e.isWrite = false) ∧
    ((∀ e ∈ newer, e.own = true) → (start.extend events).item = item ∧ F item)

section
variable {start : Drive} {B : List Event → Prop} {F : Item → Prop}

theorem Kept.stable (kept : Kept start B) : Stable start B :=
  fun events left newer holds => kept events none left (.other newer) holds

theorem stable_window (kept : Kept start B) : Stable start (Window start B F) := by
  rintro events left newest ⟨base, c, item, newer, older, rfl, read, plain, _⟩
  refine ⟨kept.stable _ left newest base, c, item, _ :: newer, older, rfl, read, ?_, ?_⟩
  · exact List.forall_mem_cons.mpr ⟨⟨rfl, rfl⟩, plain⟩
  · intro all
    exact absurd (all _ List.mem_cons_self) Bool.noConfusion

/-- Reading something else adds what it shows. -/
theorem Window.read {G : Item → Prop} {events : List Event} {c : Request} (kept : Kept start B)
    (isRead : c.isMetadata = false ∧ c.isUpload = false ∧ c.isRestore = false)
    (shows : F (start.extend events).item → G (start.extend events).item)
    (holds : Window start B F events) :
    Window start B G
      (⟨some c, (start.extend events).item, (start.extend events).item⟩ :: events) := by
  obtain ⟨base, c₀, item, newer, older, rfl, read, plain, quiet⟩ := holds
  refine ⟨kept _ _ _ (.read isRead.2.1 isRead.2.2) base, c₀, item, _ :: newer, older, rfl, read,
    ?_, ?_⟩
  · refine List.forall_mem_cons.mpr ⟨⟨isRead.1, ?_⟩, plain⟩
    show (c.isUpload || c.isRestore) = false
    rw [isRead.2.1, isRead.2.2]
    rfl
  · intro all
    obtain ⟨same, held⟩ := quiet fun e listed => all e (List.mem_cons_of_mem _ listed)
    rw [same] at shows
    exact ⟨same, shows held⟩

/-- The metadata open a window. -/
theorem Window.opened {events : List Event} {c : Request} (kept : Kept start B)
    (isMetadata : c.isMetadata = true) (isRead : c.isUpload = false ∧ c.isRestore = false)
    (base : B events) (shows : F (start.extend events).item) :
    Window start B F
      (⟨some c, (start.extend events).item, (start.extend events).item⟩ :: events) :=
  ⟨kept _ _ _ (.read isRead.1 isRead.2) base, c, _, [], events, rfl, isMetadata,
    fun _ listed => (nomatch listed), fun _ => ⟨rfl, shows⟩⟩

theorem Window.mono {G : Item → Prop} {events : List Event} (holds : Window start B F events)
    (wider : ∀ item, F item → G item) : Window start B G events := by
  obtain ⟨base, c, item, newer, older, same, read, plain, quiet⟩ := holds
  exact ⟨base, c, item, newer, older, same, read, plain, fun all =>
    ⟨(quiet all).1, wider item (quiet all).2⟩⟩

end

section
variable [Host] [Sha256] [Provider] {start drive : Drive} {B K : List Event → Prop}
  {driveId itemId : String}

/-- What was read of a state. -/
structure Metadata.Of (metadata : Metadata) (item : Item) : Prop where
  id : metadata.id = Provider.itemId
  size : metadata.size = .int item.bytes.length
  etag : metadata.etag = .str (Provider.etag item.revision)

omit [Sha256] in
theorem metadataOf_of {data : Json} {url : String} {item : Item} (shows : Shows data item) :
    (metadataOf data url).Of item := by
  refine ⟨?_, ?_, ?_⟩
  · show (data.get? "id").elim "" pyStr = _
    rw [shows.id]
    rfl
  · show (data.get? "size").getD .null = _
    rw [shows.size]
    rfl
  · show orElse (getValue data "eTag") _ = _
    unfold getValue
    rw [shows.etag]
    exact orElse_str (Provider.etag_nonempty _)

omit [Sha256] in
/-- The metadata show the item as it is when they are read. -/
theorem wp_readMetadata {I : List Event → Prop} {J : Metadata → List Event → Prop}
    (stable : Stable start I) (since : Since start I drive) (raises : ∀ events, I events → K events)
    (read : ∀ metadata events, I events → metadata.Of (start.extend events).item →
      J metadata (⟨some (.metadata driveId itemId), (start.extend events).item,
        (start.extend events).item⟩ :: events))
    (late : ∀ metadata events, J metadata events → K events) :
    wp hosting (readMetadata driveId itemId) (fun metadata => Since start (J metadata))
      (fun _ => Since start K) drive := by
  unfold readMetadata
  refine wp_bind.mpr (wp_mono (wp_request (.metadata driveId itemId)
    (J := fun out events => (∃ fields, out.1 = .obj fields) ∧ J (metadataOf out.1 out.2) events)
    stable since raises ?_ fun _ events both => late _ events both.2) ?_ fun _ _ failed => failed)
  · rintro events ⟨data, url⟩ left holds ⟨-, -, rfl, object, shows⟩
    exact ⟨object, read _ events holds (metadataOf_of shows)⟩
  · rintro ⟨data, url⟩ w ⟨events, rfl, ⟨fields, rfl⟩, holds⟩
    exact wp_pure.mpr ⟨events, rfl, holds⟩

omit [Sha256] in
theorem wp_openWindow (kept : Kept start B) (since : Since start B drive)
    (raises : ∀ events, B events → K events) :
    wp hosting (readMetadata driveId itemId)
      (fun metadata => Since start (Window start B metadata.Of)) (fun _ => Since start K) drive :=
  wp_readMetadata kept.stable since raises
    (fun _ _ base shown => Window.opened kept rfl ⟨rfl, rfl⟩ base shown)
    fun _ _ holds => raises _ holds.1

/-- What was read of the content of a state. -/
structure ContentEvidence.Of (evidence : ContentEvidence) (item : Item) : Prop where
  size : evidence.size = item.bytes.length
  sha256 : evidence.sha256 = Sha256.hexdigest item.bytes

omit [Host] in
/-- The evidence is of the content as it is when it is read. -/
theorem wp_readContentEvidence {connector : SharePointWriteConnector} {size : Int}
    {I : List Event → Prop} {J : ContentEvidence → List Event → Prop} (stable : Stable start I)
    (since : Since start I drive) (raises : ∀ events, I events → K events)
    (read : ∀ evidence limit events, I events → evidence.Of (start.extend events).item →
      J evidence (⟨some (.content driveId itemId limit), (start.extend events).item,
        (start.extend events).item⟩ :: events))
    (late : ∀ evidence events, J evidence events → K events) :
    wp hosting (readContentEvidence connector driveId itemId size)
      (fun evidence => Since start (J evidence)) (fun _ => Since start K) drive := by
  unfold readContentEvidence
  refine wp_bind.mpr (wp_ensure (fun _ => ?_) fun _ => since.mono raises)
  refine wp_bind.mpr (wp_mono (wp_request (.content driveId itemId _)
    (J := fun out => J ⟨out.1.length, Sha256.hexdigest out.1, out.2⟩)
    stable since raises ?_ fun _ => late _) ?_ fun _ _ failed => failed)
  · rintro events ⟨body, url⟩ left holds ⟨-, -, rfl, same, -⟩
    obtain rfl : body = (start.extend events).item.bytes := same
    exact read _ _ events holds ⟨rfl, rfl⟩
  · rintro ⟨body, url⟩ w now
    exact wp_pure.mpr now

omit [Sha256] in
/-- The identifier of the newest version, as the connector reads it. -/
theorem newest_version {data : Json} {item : Item} (lists : Lists data item) :
    ∃ fields items newest rest, data = .obj fields ∧ data.get? "value" = some (.arr items) ∧
      (items.filterMap fun value =>
        match value with
        | .obj members => some members
        | _ => none) = newest :: rest ∧
      strip (getStr (.obj newest) "id" "") = Provider.versionId item.past.length := by
  obtain ⟨fields, items, isObject, listed, each⟩ := lists
  rw [List.range_succ, List.reverse_append, List.reverse_singleton, List.singleton_append] at each
  cases each with
  | cons first others =>
    obtain ⟨members, rfl, id⟩ := first
    refine ⟨fields, _, members, _, isObject, listed, List.filterMap_cons_some rfl, ?_⟩
    unfold getStr
    rw [id]
    exact Provider.versionId_trimmed _

omit [Sha256] in
theorem wp_readVersions {F : Item → Prop} (kept : Kept start B)
    (since : Since start (Window start B F) drive) (raises : ∀ events, B events → K events) :
    wp hosting (readVersions driveId itemId)
      (fun versions => Since start (Window start B fun item => F item ∧ ∃ newest rest,
        versions = newest :: rest ∧
        strip (getStr (.obj newest) "id" "") = Provider.versionId item.past.length))
      (fun _ => Since start K) drive := by
  unfold readVersions
  refine wp_bind.mpr (wp_mono (wp_request (K := K) (.versions driveId itemId)
    (J := fun out => Window start B fun item => F item ∧ Lists out.1 item)
    (stable_window kept) since (fun _ holds => raises _ holds.1) ?_ ?_) ?_ fun _ _ failed => failed)
  · rintro events out left holds ⟨-, -, rfl, lists⟩
    exact holds.read kept ⟨rfl, rfl, rfl⟩ fun shown => ⟨shown, lists⟩
  · exact fun _ _ holds => raises _ holds.1
  · rintro ⟨data, url⟩ w now
    dsimp only
    split
    · next items listed =>
      refine wp_pure.mpr (now.mono fun _ holds => holds.mono fun item known => ⟨known.1, ?_⟩)
      obtain ⟨fields, items', newest, rest, -, listed', same, id⟩ := newest_version known.2
      obtain rfl : items = items' := Json.arr.inj (Option.some.inj (listed.symm.trans listed'))
      exact ⟨newest, rest, same, id⟩
    · exact wp_lift.mpr (now.mono fun _ holds => raises _ holds.1)

/-- What is retained of a state. -/
structure Retained.Of (action : AgentAction) (retained : Retained) (item : Item) : Prop where
  metadata : retained.metadata.Of item
  approved : ∀ version, action.target.expectedVersion = some version →
    version = Provider.etag item.revision
  size : retained.size = item.bytes.length
  sha256 : retained.sha256 = Sha256.hexdigest item.bytes
  version : retained.priorVersionId = Provider.versionId item.past.length

theorem wp_retain {connector : SharePointWriteConnector} {action : AgentAction}
    (kept : Kept start B) (since : Since start B drive) (raises : ∀ events, B events → K events) :
    wp hosting (retain connector action driveId itemId)
      (fun retained => Since start (Window start B (retained.Of action)))
      (fun _ => Since start K) drive := by
  unfold retain
  have failed : ∀ F w, Since start (Window start B F) w → Since start K w :=
    fun _ _ now => now.mono fun _ holds => raises _ holds.1
  refine wp_bind.mpr (wp_mono (wp_openWindow kept since raises) (fun before w now => ?_)
    fun _ _ raised => raised)
  refine wp_bind.mpr (wp_lift.mpr ?_)
  cases passed : enforceExpectedVersion action before.etag with
  | error e => exact failed _ _ now
  | ok _ =>
    refine wp_bind.mpr (wp_mono (wp_readContentEvidence (stable_window kept) now
      (fun _ holds => raises _ holds.1) (J := fun evidence => Window start B fun item =>
        before.Of item ∧ evidence.Of item)
      (fun _ _ _ holds exact => holds.read kept ⟨rfl, rfl, rfl⟩ fun shown => ⟨shown, exact⟩)
      fun _ _ holds => raises _ holds.1) (fun content w now => ?_) fun _ _ raised => raised)
    refine wp_bind.mpr (wp_ensure (fun exact => ?_) fun _ => failed _ _ now)
    refine wp_bind.mpr (wp_mono (wp_readVersions kept now raises) (fun versions w now => ?_)
      fun _ _ raised => raised)
    split
    · exact wp_lift.mpr (failed _ _ now)
    · next newest rest =>
      refine wp_bind.mpr (wp_ensure (fun _ => ?_) fun _ => failed _ _ now)
      refine wp_pure.mpr (now.mono fun _ holds => holds.mono ?_)
      rintro item ⟨⟨metadata, evidence⟩, newest', rest', same, id⟩
      obtain ⟨rfl, rfl⟩ := List.cons.inj same
      refine ⟨metadata, fun version expected => ?_, ?_, evidence.sha256, id⟩
      · rw [metadata.etag] at passed
        exact enforceExpectedVersion_ok passed expected
      · show integerSize before.size = _
        rw [metadata.size]
        rfl

end

/-! ## Writing -/

/-- No write has been made. -/
def Unwritten (events : List Event) : Prop := ∀ e ∈ events, e.isWrite = false

/-- A restore of what an upload replaced, over what it uploaded. -/
structure Restores (up e : Event) : Prop where
  restore : e.isRestore = true
  found : e.found = up.left
  left : e.left.bytes = up.found.bytes

/-- The content was uploaded after the metadata were read in a state, and unless another writer has
acted since, it replaced that state and is still there. -/
def Uploading (start : Drive) (F : Item → Prop) (content : Bytes) (events : List Event) : Prop :=
  ∃ up c item newer mid older, events = newer ++ up :: (mid ++ ⟨some c, item, item⟩ :: older) ∧
    up.isUpload = true ∧ up.left = up.found.put content ∧
    (∀ e ∈ newer ++ up :: mid, e.isMetadata = false) ∧ (∀ e ∈ events, e.isWrite = true → e = up) ∧
    Follows up.left (start.extend events).item ∧
    ((∀ e ∈ newer ++ up :: mid, e.own = true) →
      up.found = item ∧ F item ∧ (start.extend events).item = up.left)

/-- The content was uploaded once, and as long as nobody else interferes, `P` holds of the upload
and whatever else the connector has written restores what it replaced. -/
structure Traced (start : Drive) (content : Bytes) (P : Event → Prop) (up : Event)
    (events : List Event) : Prop where
  listed : up ∈ events
  upload : up.isUpload = true
  put : up.left = up.found.put content
  follows : Follows up.left (start.extend events).item
  exact : Undisturbed events → P up ∧ ∀ e ∈ events, e.isWrite = true → e = up ∨ Restores up e

section
variable {start : Drive} {F : Item → Prop} {P : Event → Prop} {content : Bytes} {up : Event}
  {events : List Event}

theorem Passes.isWrite {item left : Item} {request : Option Request}
    (passes : Passes item request left) : (⟨request, item, left⟩ : Event).isWrite = false := by
  cases passes with
  | other _ => rfl
  | @read c upload restore =>
    show (c.isUpload || c.isRestore) = false
    rw [upload, restore]
    rfl

theorem Passes.follows {state item left : Item} {request : Option Request}
    (passes : Passes item request left) (follows : Follows state item) : Follows state left := by
  cases passes with
  | other newer => exact follows.newer newer
  | read _ _ => exact follows

theorem kept_unwritten : Kept start Unwritten := fun _ _ _ passes all =>
  List.forall_mem_cons.mpr ⟨passes.isWrite, all⟩

theorem kept_traced : Kept start (Traced start content P up) := by
  intro events request left passes traced
  refine ⟨List.mem_cons_of_mem _ traced.listed, traced.upload, traced.put,
    passes.follows traced.follows, fun undisturbed => ?_⟩
  obtain ⟨holds, writes⟩ := traced.exact undisturbed.2
  refine ⟨holds, List.forall_mem_cons.mpr ⟨fun write => ?_, writes⟩⟩
  exact absurd (write.symm.trans passes.isWrite) Bool.noConfusion

theorem stable_uploading : Stable start (Uploading start F content) := by
  rintro events left newest
    ⟨up, c, item, newer, mid, older, rfl, upload, put, plain, only, follows, _⟩
  refine ⟨up, c, item, _ :: newer, mid, older, rfl, upload, put, ?_, ?_, follows.newer newest, ?_⟩
  · exact List.forall_mem_cons.mpr ⟨rfl, plain⟩
  · exact List.forall_mem_cons.mpr ⟨fun write => absurd write Bool.false_ne_true, only⟩
  · intro all
    exact absurd (all _ List.mem_cons_self) Bool.noConfusion

theorem Request.isMetadata_of_upload {c : Request} (upload : c.isUpload = true) :
    c.isMetadata = false := by
  cases c
  case upload => rfl
  all_goals exact absurd upload Bool.false_ne_true

/-- The upload replaces what the window shows. -/
theorem Window.upload {c : Request} (isUpload : c.isUpload = true)
    (holds : Window start Unwritten F events) :
    Uploading start F content (⟨some c, (start.extend events).item,
      (start.extend events).item.put content⟩ :: events) := by
  obtain ⟨unwritten, c₀, item, mid, older, rfl, read, plain, quiet⟩ := holds
  refine ⟨_, c₀, item, [], mid, older, rfl, isUpload, rfl, ?_, ?_, .inl rfl, ?_⟩
  · exact List.forall_mem_cons.mpr
      ⟨Request.isMetadata_of_upload isUpload, fun e listed => (plain e listed).1⟩
  · refine List.forall_mem_cons.mpr ⟨fun _ => rfl, fun e listed write => ?_⟩
    exact absurd (write.symm.trans (unwritten e listed)) Bool.noConfusion
  · intro all
    obtain ⟨same, holds⟩ := quiet fun e listed => all e (List.mem_cons_of_mem _ listed)
    exact ⟨same, holds, rfl⟩

/-- The metadata after an upload end its window. -/
theorem Uploading.traced {c : Request} {G : Item → Prop} (isMetadata : c.isMetadata = true)
    (isRead : c.isUpload = false ∧ c.isRestore = false) (shows : G (start.extend events).item)
    (holds : Uploading start F content events) :
    ∃ up, Traced start content (fun up => F up.found ∧ G up.left) up
      (⟨some c, (start.extend events).item, (start.extend events).item⟩ :: events) := by
  obtain ⟨up, c₀, item, newer, mid, older, same, upload, put, plain, only, follows, quiet⟩ := holds
  have passes : Passes (start.extend events).item (some c) (start.extend events).item :=
    .read isRead.1 isRead.2
  refine ⟨up, ?_, upload, put, follows, ?_⟩
  · rw [same]
    exact List.mem_cons_of_mem _ (List.mem_append_right _ List.mem_cons_self)
  · rintro ⟨first, -⟩
    have span : window events = newer ++ up :: mid ++ window (⟨some c₀, item, item⟩ :: older) := by
      rw [← window_append plain, same, List.append_assoc, List.cons_append]
    have isGuarded : guarded ⟨some c, (start.extend events).item, (start.extend events).item⟩
        events = true := by
      refine Bool.or_eq_true_iff.mpr (.inr (Bool.and_eq_true_iff.mpr ⟨isMetadata, ?_⟩))
      refine List.any_eq_true.mpr ⟨up, ?_, upload⟩
      rw [span]
      exact List.mem_append_left _ (List.mem_append_right _ List.mem_cons_self)
    obtain ⟨found, holds, left⟩ := quiet fun e listed => first isGuarded e (by
      rw [span]
      exact List.mem_append_left _ listed)
    refine ⟨⟨found ▸ holds, left ▸ shows⟩, List.forall_mem_cons.mpr ⟨fun write => ?_, ?_⟩⟩
    · exact absurd (write.symm.trans passes.isWrite) Bool.noConfusion
    · exact fun e listed write => .inl (only e listed write)

theorem Traced.mono {Q : Event → Prop} (traced : Traced start content P up events)
    (wider : ∀ up : Event, P up → Q up) : Traced start content Q up events :=
  ⟨traced.listed, traced.upload, traced.put, traced.follows, fun undisturbed =>
    ⟨wider up (traced.exact undisturbed).1, (traced.exact undisturbed).2⟩⟩

end

/-! ## The calls -/

section
variable [Host] [Sha256] [Provider] {start drive : Drive} {connector : SharePointWriteConnector}
  {action : AgentAction} {result : ExecutionResult}

/-- The upload replaced what was approved, and the result says what it replaced and left. -/
structure Replaces (action : AgentAction) (result : ExecutionResult) (up : Event) : Prop where
  approved : ∀ version, action.target.expectedVersion = some version →
    version = Provider.etag up.found.revision
  size : getValue (.obj (result.before.getD [])) "content_size" = .int up.found.bytes.length
  sha256 : getStr (.obj (result.before.getD [])) "content_sha256" "" =
    Sha256.hexdigest up.found.bytes
  version : ∃ number, getStr (.obj (result.after.getD [])) "prior_version_id" "" =
    Provider.versionId number ∧ up.found.versions.reverse[number]? = some up.found.bytes
  etag : getValue (.obj (result.after.getD [])) "etag" = .str (Provider.etag up.left.revision)

omit [Host] [Sha256] [Provider] in
theorem length_toLower (s : String) : s.toLower.length = s.length := by
  show (s.map Char.toLower).length = s.length
  exact String.length_map

/-- The content has been read with the digest and the size of `content`. -/
def ReadBack (content : Bytes) (events : List Event) : Prop :=
  ∃ e ∈ events, e.own = true ∧ e.found.bytes.length = content.length ∧
    Sha256.hexdigest e.found.bytes = Sha256.hexdigest content

/-- The item has been found with the content. -/
def Held (content : Bytes) (events : List Event) : Prop :=
  ∃ e ∈ events, e.own = true ∧ e.found.bytes = content

omit [Host] [Provider] in
theorem ReadBack.held {content : Bytes} {events : List Event} (read : ReadBack content events)
    (free : Sha256.CollisionFree) : Held content events := by
  obtain ⟨e, listed, own, -, same⟩ := read
  exact ⟨e, listed, own, free.inj _ _ same⟩

/-- What a returned `execute` has done. -/
structure Replaced (start : Drive) (action : AgentAction) (result : ExecutionResult)
    (content : Bytes) (up : Event) (events : List Event) : Prop where
  traced : Traced start content (Replaces action result) up events
  digest : Sha256.hexdigest content = approvedDigest action
  digestLength : (approvedDigest action).length = 64
  uploadedSize : getValue (.obj (result.after.getD [])) "uploaded_size" = .int content.length
  readBack : ReadBack content events

theorem kept_replaced {content : Bytes} {up : Event} :
    Kept start (Replaced start action result content up) := by
  intro events request left passes replaced
  obtain ⟨e, listed, read⟩ := replaced.readBack
  exact { replaced with
    traced := kept_traced events request left passes replaced.traced
    readBack := ⟨e, List.mem_cons_of_mem _ listed, read⟩ }

omit [Host] [Sha256] [Provider] in
theorem prior_version {item : Item} : item.versions.reverse[item.past.length]? = some item.bytes := by
  unfold Item.versions
  rw [List.reverse_cons, List.getElem?_append_right (Nat.le_of_eq List.length_reverse),
    List.length_reverse, Nat.sub_self]
  rfl

theorem wp_approvedArtifact {B : List Event → Prop} (kept : Kept start B)
    (since : Since start B drive) :
    wp hosting (approvedArtifact connector action)
      (fun out => Since start fun events => B events ∧ (approvedDigest action).length = 64 ∧
        approvedDigest action = Sha256.hexdigest out.2)
      (fun _ => Since start fun _ => True) drive := by
  have failed : ∀ I w, Since start I w → Since start (fun _ => True) w :=
    fun _ _ now => now.mono fun _ _ => trivial
  unfold approvedArtifact
  refine wp_bind.mpr (wp_lift.mpr ?_)
  cases stringParameter action.parameters "local_path" with
  | error e => exact failed _ _ since
  | ok localPath =>
    refine wp_bind.mpr (wp_mono (wp_request (.localArtifact localPath) (J := fun _ => B)
      kept.stable since (fun _ _ => trivial) ?_ fun _ _ _ => trivial) ?_ fun _ _ now => now)
    · rintro events out left base rfl
      exact kept _ _ _ (.read rfl rfl) base
    · rintro ⟨name, content⟩ w now
      refine wp_bind.mpr (wp_ensure (fun approved => ?_) fun _ => failed _ _ now)
      refine wp_bind.mpr (wp_ensure (fun _ => ?_) fun _ => failed _ _ now)
      obtain ⟨length, same⟩ := Bool.and_eq_true_iff.mp approved
      exact wp_pure.mpr (now.mono fun _ base => ⟨base, beq_iff_eq.mp length, beq_iff_eq.mp same⟩)

theorem execute_spec (since : Since start Unwritten drive) :
    wp hosting (execute connector action)
      (fun result => Since start fun events => ∃ content up,
        Replaced start action result content up events)
      (fun _ => Since start fun _ => True) drive := by
  have failed : ∀ I w, Since start I w → Since start (fun _ => True) w :=
    fun _ _ now => now.mono fun _ _ => trivial
  unfold execute
  refine wp_bind.mpr (wp_lift.mpr ?_)
  cases validateAction action with
  | error e => exact failed _ _ since
  | ok _ =>
  refine wp_bind.mpr (wp_lift.mpr ?_)
  cases stringParameter action.parameters "drive_id" with
  | error e => exact failed _ _ since
  | ok driveId =>
  refine wp_bind.mpr (wp_mono (wp_approvedArtifact kept_unwritten since) ?_ fun _ _ now => now)
  rintro ⟨name, content⟩ w ⟨events, rfl, unwritten, length, digest⟩
  refine wp_bind.mpr (wp_mono (wp_retain (K := fun _ => True) kept_unwritten
    ⟨events, rfl, unwritten⟩ fun _ _ => trivial) (fun retained w now => ?_) fun _ _ now => now)
  refine wp_bind.mpr (wp_mono (wp_request (.upload driveId action.target.resourceId content _)
    (J := fun _ => Uploading start (retained.Of action) content) (K := fun _ => True)
    (stable_window kept_unwritten) now (fun _ _ => trivial) ?_ fun _ _ _ => trivial) ?_
    fun _ _ now => now)
  · rintro events out left holds ⟨-, -, rfl⟩
    exact holds.upload rfl
  intro url w now
  refine wp_bind.mpr (wp_mono (wp_readMetadata (K := fun _ => True) stable_uploading now
    (J := fun after events => ∃ up,
      Traced start content (fun up => retained.Of action up.found ∧ after.Of up.left) up events)
    (fun _ _ => trivial) (fun _ _ uploading shows => uploading.traced rfl ⟨rfl, rfl⟩ shows)
    fun _ _ _ => trivial) (fun after w now => ?_) fun _ _ now => now)
  have stable : Stable start fun events => ∃ up,
      Traced start content (fun up => retained.Of action up.found ∧ after.Of up.left) up events := by
    rintro events left newest ⟨up, traced⟩
    exact ⟨up, kept_traced.stable events left newest traced⟩
  refine wp_bind.mpr (wp_mono (wp_readContentEvidence (K := fun _ => True) stable now
    (J := fun evidence events => ∃ up, Traced start content
      (fun up => retained.Of action up.found ∧ after.Of up.left) up events ∧
      ∃ e ∈ events, e.own = true ∧ evidence.Of e.found)
    (fun _ _ => trivial) ?_ fun _ _ _ => trivial) (fun evidence w now => ?_) fun _ _ now => now)
  · rintro evidence limit events ⟨up, traced⟩ shows
    exact ⟨up, kept_traced _ _ _ (.read rfl rfl) traced, _, List.mem_cons_self, rfl, shows⟩
  refine wp_bind.mpr (wp_ensure (fun isMatch => ?_) fun _ => failed _ _ now)
  refine wp_pure.mpr (now.mono ?_)
  rintro events ⟨up, traced, e, listed, own, shows⟩
  simp only [uploadedItemMatches, Bool.and_eq_true, beq_iff_eq] at isMatch
  refine ⟨content, up, ?_, digest.symm, length, rfl, e, listed, own, ?_, ?_⟩
  · refine traced.mono fun up both => ⟨both.1.approved, ?_, both.1.sha256, ?_, both.2.etag⟩
    · exact congrArg Json.int both.1.size
    · exact ⟨_, both.1.version, prior_version⟩
  · rw [← shows.size]
    exact Int.ofNat_inj.mp isMatch.1.2
  · rw [← shows.sha256]
    exact isMatch.2

/-- A verified replacement has been read back. -/
theorem verify_spec {I : List Event → Prop} (kept : Kept start I) {content : Bytes}
    (digest : Sha256.hexdigest content = approvedDigest action)
    (digestLength : (approvedDigest action).length = 64)
    (uploadedSize : getValue (.obj (result.after.getD [])) "uploaded_size" = .int content.length)
    (since : Since start I drive) :
    wp hosting (verify connector action result)
      (fun verification => Since start fun events => I events ∧
        (verification.verified = true → ReadBack content events))
      (fun _ => Since start I) drive := by
  unfold verify
  refine wp_bind.mpr (wp_lift.mpr ?_)
  cases stringParameter action.parameters "drive_id" with
  | error e => exact since
  | ok driveId =>
  refine wp_bind.mpr (wp_mono (wp_readContentEvidence kept.stable since (fun _ => id)
    (J := fun evidence events => I events ∧ ∃ e ∈ events, e.own = true ∧ evidence.Of e.found)
    (fun _ _ events base shows => ⟨kept _ _ _ (.read rfl rfl) base, _, List.mem_cons_self, rfl,
      shows⟩) fun _ _ both => both.1) (fun evidence w now => ?_) fun _ _ now => now)
  refine wp_pure.mpr (now.mono ?_)
  rintro events ⟨base, e, listed, own, shows⟩
  refine ⟨base, fun verified => ⟨e, listed, own, ?_⟩⟩
  simp only [Bool.and_eq_true, beq_iff_eq, uploadedSize, integerSize] at verified
  obtain ⟨⟨⟨length, -⟩, size⟩, sha256⟩ := verified
  rw [← shows.size, ← shows.sha256, digest, sha256]
  refine ⟨Int.ofNat_inj.mp size, ?_⟩
  unfold approvedDigest at digestLength ⊢
  rw [length_toLower] at length digestLength
  rw [strip_eq_of_length (digestLength.trans length.symm)]

/-- A restore brings back what the upload replaced. -/
theorem Window.restore {content : Bytes} {up : Event} {current : Metadata} {events : List Event}
    {driveId itemId : String} {out : String} {left : Item}
    (holds : Window start (Replaced start action result content up) current.Of events)
    (same : current.etag = getValue (.obj (result.after.getD [])) "etag")
    (serves : Serves (start.extend events).item (.restoreVersion driveId itemId
      (strip (getStr (.obj (result.after.getD [])) "prior_version_id" ""))) out left) :
    Replaced start action result content up (⟨some (.restoreVersion driveId itemId
      (strip (getStr (.obj (result.after.getD [])) "prior_version_id" ""))),
      (start.extend events).item, left⟩ :: events) := by
  obtain ⟨-, -, number, bytes, named, version, rfl⟩ := serves
  obtain ⟨replaced, c, item, newer, older, rfl, read, plain, quiet⟩ := holds
  obtain ⟨e, listed, isRead⟩ := replaced.readBack
  refine { replaced with
    traced := ?_
    readBack := ⟨e, List.mem_cons_of_mem _ listed, isRead⟩ }
  have traced := replaced.traced
  refine ⟨List.mem_cons_of_mem _ traced.listed, traced.upload, traced.put,
    traced.follows.newer rfl, ?_⟩
  rintro ⟨first, undisturbed⟩
  obtain ⟨replaces, writes⟩ := traced.exact undisturbed
  -- nobody else has acted since the metadata were read
  obtain ⟨here, shows⟩ := quiet fun e listed => first rfl e (by
    rw [window_append fun e listed => (plain e listed).1]
    exact List.mem_append_left _ listed)
  rw [← here] at shows
  have uploaded : (start.extend (newer ++ ⟨some c, item, item⟩ :: older)).item = up.left := by
    refine traced.follows.eq (Provider.etag_inj _ _ (Json.str.inj ?_))
    rw [← shows.etag, same, replaces.etag]
  refine ⟨replaces, List.forall_mem_cons.mpr ⟨fun _ => .inr ⟨rfl, uploaded, ?_⟩, writes⟩⟩
  obtain ⟨prior, isPrior, priorBytes⟩ := replaces.version
  rw [isPrior, Provider.versionId_trimmed] at named
  obtain rfl := Provider.versionId_inj _ _ named
  rw [uploaded, traced.put] at version
  have found : (up.found.put content).versions.reverse[prior]? = some up.found.bytes := by
    unfold Item.versions at priorBytes ⊢
    unfold Item.put Item.versions
    rw [List.reverse_cons, List.getElem?_append_left]
    · exact priorBytes
    · exact (List.getElem?_eq_some_iff.mp priorBytes).1
  exact Option.some.inj (version.symm.trans found)

/-- A restore has been made. -/
def Restored (start : Drive) (action : AgentAction) (result : ExecutionResult) (content : Bytes)
    (up : Event) (events : List Event) : Prop :=
  Replaced start action result content up events ∧ ∃ e ∈ events, e.isRestore = true

theorem kept_restored {content : Bytes} {up : Event} :
    Kept start (Restored start action result content up) := by
  rintro events request left passes ⟨replaced, e, listed, isRestore⟩
  exact ⟨kept_replaced events request left passes replaced, e, List.mem_cons_of_mem _ listed,
    isRestore⟩

/-- A returned rollback has restored a version. -/
theorem compensate_spec {content : Bytes} {up : Event}
    (since : Since start (Replaced start action result content up) drive) :
    wp hosting (compensate connector action result)
      (fun _ => Since start (Restored start action result content up))
      (fun _ => Since start (Replaced start action result content up)) drive := by
  have early : ∀ events, Restored start action result content up events →
      Replaced start action result content up events := fun _ => And.left
  unfold compensate
  refine wp_bind.mpr (wp_ensure (fun _ => ?_) fun _ => since)
  refine wp_bind.mpr (wp_mono (wp_openWindow kept_replaced since fun _ => id)
    (fun current w now => ?_) fun _ _ now => now)
  refine wp_bind.mpr (wp_ensure (fun same => ?_) fun _ => now.mono fun _ holds => holds.1)
  refine wp_bind.mpr (wp_mono (wp_request (.restoreVersion _ _ _)
    (J := fun _ => Restored start action result content up)
    (stable_window kept_replaced) now (fun _ holds => holds.1) ?_ fun _ => early) ?_
    fun _ _ now => now)
  · rintro events out left holds serves
    exact ⟨holds.restore (beq_iff_eq.mp same) serves, _, List.mem_cons_self, rfl⟩
  intro url w now
  refine wp_bind.mpr (wp_mono (wp_readMetadata kept_restored.stable now early
    (J := fun _ => Restored start action result content up)
    (fun _ _ restored _ => kept_restored _ _ _ (.read rfl rfl) restored) fun _ => early)
    (fun restored w now => ?_) fun _ _ now => now)
  refine wp_bind.mpr (wp_mono (wp_readContentEvidence kept_restored.stable now early
    (J := fun _ => Restored start action result content up)
    (fun _ _ _ restored _ => kept_restored _ _ _ (.read rfl rfl) restored) fun _ => early)
    (fun evidence w now => ?_) fun _ _ now => now)
  refine wp_bind.mpr (wp_ensure (fun _ => ?_) fun _ => now.mono early)
  exact wp_pure.mpr now

end

/-! ## One replacement and what follows -/

section
variable [Host] [Sha256] [Provider]

/-- A replacement that returned, with its verifications and rollbacks and the others between them. -/
inductive Life (connector : SharePointWriteConnector) (action : AgentAction) (start : Drive) :
    ExecutionResult → Drive → Prop
  | executed {result : ExecutionResult} {drive : Drive} :
      hosting.Runs (execute connector action) start (.ok result) drive →
      Life connector action start result drive
  | elapsed {result : ExecutionResult} {drive after : Drive} :
      Life connector action start result drive → hosting.Elapses drive after →
      Life connector action start result after
  | verified {result : ExecutionResult} {drive after : Drive} {out : Except Exn VerificationResult} :
      Life connector action start result drive →
      hosting.Runs (verify connector action result) drive out after →
      Life connector action start result after
  | compensated {result : ExecutionResult} {drive after : Drive}
      {out : Except Exn ExecutionResult} :
      Life connector action start result drive →
      hosting.Runs (compensate connector action result) drive out after →
      Life connector action start result after

variable {connector : SharePointWriteConnector} {action : AgentAction} {start drive : Drive}
  {result : ExecutionResult}

theorem Life.replaced (life : Life connector action start result drive) :
    ∃ content up, Since start (Replaced start action result content up) drive := by
  induction life with
  | executed run =>
    obtain ⟨events, here, content, up, replaced⟩ : Since start _ _ :=
      wp_runs run (execute_spec ⟨[], rfl, fun _ listed => nomatch listed⟩)
    exact ⟨content, up, events, here, replaced⟩
  | elapsed _ elapsed ih =>
    obtain ⟨content, up, since⟩ := ih
    exact ⟨content, up, since.elapses kept_replaced.stable elapsed⟩
  | @verified drive after out _ run ih =>
    obtain ⟨content, up, since⟩ := ih
    refine ⟨content, up, ?_⟩
    have ⟨_, _, replaced⟩ := since
    have post := wp_runs run (verify_spec kept_replaced replaced.digest replaced.digestLength
      replaced.uploadedSize since)
    cases out with
    | ok _ => exact Since.mono post fun _ => And.left
    | error _ => exact post
  | @compensated drive after out _ run ih =>
    obtain ⟨content, up, since⟩ := ih
    refine ⟨content, up, ?_⟩
    have post := wp_runs run (compensate_spec since)
    cases out with
    | ok _ => exact Since.mono post fun _ => And.left
    | error _ => exact post

/-- While no other writer acts between the two readings of the metadata around an upload, nor
between the reading of a rollback and its restore, a returned replacement has replaced the approved
state and says so, and a restore brings its bytes back over nothing but the upload. A verified
replacement has been read back, and a returned rollback has restored. -/
theorem replacement_exact (connector : SharePointWriteConnector) (action : AgentAction)
    (start : Drive) :
    ∀ result drive, Life connector action start result drive → ∃ content up,
      Since start (fun events => Replaced start action result content up events ∧
        (Sha256.CollisionFree → Held content events)) drive ∧
      (∀ verification after,
        hosting.Runs (verify connector action result) drive (.ok verification) after →
        verification.verified = true → Since drive (fun events => ReadBack content events ∧
          (Sha256.CollisionFree → Held content events)) after) ∧
      ∀ compensation after,
        hosting.Runs (compensate connector action result) drive (.ok compensation) after →
        Since start (Restored start action result content up) after := by
  intro result drive life
  obtain ⟨content, up, since⟩ := life.replaced
  have ⟨_, _, replaced⟩ := since
  refine ⟨content, up, since.mono fun _ replaced => ⟨replaced, replaced.readBack.held⟩, ?_, ?_⟩
  · intro verification after run verified
    have kept : Kept drive fun _ => True := fun _ _ _ _ _ => trivial
    have post : Since drive _ after := wp_runs run (verify_spec kept replaced.digest
      replaced.digestLength replaced.uploadedSize ⟨[], rfl, trivial⟩)
    exact post.mono fun _ both => ⟨both.2 verified, (both.2 verified).held⟩
  · intro compensation after run
    exact wp_runs run (compensate_spec since)

end

/-! ### A writer that is overwritten -/

namespace Samples

/-- The names of the provider count in one letter. -/
def tally (letter : Char) (n : Nat) : String := String.ofList (List.replicate (n + 1) letter)

theorem tally_inj {letter : Char} {m n : Nat} (same : tally letter m = tally letter n) : m = n := by
  have lengths := congrArg List.length (String.ofList_injective same)
  simpa using lengths

theorem tally_nonempty {letter : Char} {n : Nat} : (tally letter n).isEmpty = false := by
  rw [String.isEmpty_eq_false_iff]
  intro empty
  have none := congrArg String.toList empty
  simp [tally, List.replicate_succ] at none

theorem strip_tally {letter : Char} {n : Nat} (plain : isSpace letter = false) :
    strip (tally letter n) = tally letter n := by
  refine strip_of_plain fun c listed => ?_
  rw [tally, String.toList_ofList] at listed
  rw [List.eq_of_mem_replicate listed, plain]

@[reducible]
def provider : Provider where
  driveId := "d"
  itemId := "i"
  etag := tally 'e'
  etag_inj _ _ := tally_inj
  etag_nonempty _ := tally_nonempty
  versionId := tally 'v'
  versionId_inj _ _ := tally_inj
  versionId_trimmed _ := strip_tally (by decide)
  versionId_nonempty _ := tally_nonempty

/-- A digest that sums the bytes. -/
@[reducible]
def sha256 : Sha256 := ⟨fun bytes => (numeral (bytes.map UInt8.toNat).sum).val⟩

def connector : SharePointWriteConnector := ⟨10⟩

def item : Item := ⟨0, [1], []⟩

def start : Drive := ⟨item, []⟩

def upload : AgentAction where
  capability := "sharepoint.file.upload"
  target := ⟨"sharepoint", "drive_item", "i", some "e", by decide⟩
  parameters := [("drive_id", .str "d"), ("local_path", .str "f"),
    ("local_sha256", .str (numeral 2).val)]
  risk := .reversibleWrite
  authoritySource := .directUser
  requiresApproval := true
  idempotencyKey := "k"
  justification := "publish"
  dataClassification := .internal
  dependencies := []
  actionId := numbered 1
  valid := by decide

/-- The item after the reads before the upload. -/
def readOut : Drive :=
  start.extend [⟨some (.versions "d" "i"), item, item⟩, ⟨some (.content "d" "i" 1), item, item⟩,
    ⟨some (.metadata "d" "i"), item, item⟩, ⟨some (.localArtifact "f"), item, item⟩]

/-- The metadata of a state. -/
def metadata (n : Nat) (size : Nat) : Json :=
  .obj [("id", .str "i"), ("size", .int size), ("eTag", .str (tally 'e' n))]

end Samples

attribute [local instance] plainHost Samples.sha256 Samples.provider

theorem runs_served {drive : Drive} {c : Request} {left : Item} (out : c.Answer)
    (serves : Serves drive.item c out left) :
    hosting.Runs (request c) drive (.ok out) (drive.record (some c) left) :=
  runs_ask .refl (.inr ⟨out, left, serves, rfl, .inl rfl⟩)

theorem runs_readMetadata {drive : Drive} (url : String) :
    hosting.Runs (readMetadata "d" "i") drive
      (.ok (metadataOf (Samples.metadata drive.item.revision drive.item.bytes.length) url))
      (drive.record (some (.metadata "d" "i")) drive.item) := by
  refine runs_bind (runs_served (Samples.metadata drive.item.revision drive.item.bytes.length, url)
    ⟨rfl, rfl, rfl, ⟨_, rfl⟩, rfl, rfl, rfl⟩) ?_
  exact runs_pure

theorem runs_readContent {drive : Drive} {size : Int}
    (fits : decide (0 ≤ size ∧ size ≤ Samples.connector.maxUploadBytes) = true)
    (held : drive.item.bytes.length ≤ max size.toNat 1) :
    hosting.Runs (readContentEvidence Samples.connector "d" "i" size) drive
      (.ok ⟨drive.item.bytes.length, Sha256.hexdigest drive.item.bytes, "c"⟩)
      (drive.record (some (.content "d" "i" (max size.toNat 1))) drive.item) := by
  refine runs_bind (runs_ensure fits) ?_
  exact runs_bind (runs_served (drive.item.bytes, "c") ⟨rfl, rfl, rfl, rfl, held⟩) runs_pure

theorem runs_readVersions {drive : Drive} (first : drive.item.past = []) :
    hosting.Runs (readVersions "d" "i") drive (.ok [[("id", .str "v")]])
      (drive.record (some (.versions "d" "i")) drive.item) := by
  have lists : Lists (.obj [("value", .arr [.obj [("id", .str "v")]])]) drive.item := by
    refine ⟨_, _, rfl, rfl, ?_⟩
    rw [first]
    exact .cons ⟨_, rfl, rfl⟩ .nil
  refine runs_bind (runs_served (.obj [("value", .arr [.obj [("id", .str "v")]])], "l")
    ⟨rfl, rfl, rfl, lists⟩) ?_
  exact runs_pure

theorem sample_retain : hosting.Runs (retain Samples.connector Samples.upload "d" "i")
    (Samples.start.record (some (.localArtifact "f")) Samples.item)
    (.ok ⟨metadataOf (Samples.metadata 0 1) "m", 1, Sha256.hexdigest [1], "v"⟩) Samples.readOut := by
  refine runs_bind (runs_readMetadata "m") ?_
  refine runs_bind (runs_lift rfl) ?_
  refine runs_bind (runs_readContent (by decide) (by decide)) ?_
  refine runs_bind (runs_ensure rfl) ?_
  exact runs_bind (runs_readVersions rfl) (runs_bind (runs_ensure rfl) runs_pure)

theorem sample_etag {n size : Nat} {url : String} :
    (metadataOf (Samples.metadata n size) url).etag = .str (Samples.tally 'e' n) :=
  orElse_str Samples.tally_nonempty

theorem sample_approved : approvedDigest Samples.upload = Sha256.hexdigest [2] := by
  apply String.toList_injective
  show (strip (String.ofList (padded 64 2))).toLower.toList = (String.ofList (padded 64 2)).toList
  have lowered (s : String) : s.toLower.toList = s.toList.map Char.toLower := String.toList_map
  unfold strip
  rw [lowered, String.toList_ofList, String.toList_ofList]
  decide +kernel

/-- The replacement returns, whatever becomes of the item before the upload. -/
theorem sample_runs (moved : Drive) (elapsed : hosting.Elapses Samples.readOut moved) :
    ∃ result drive, hosting.Runs (execute Samples.connector Samples.upload) Samples.start
      (.ok result) drive ∧
      getStr (.obj (result.before.getD [])) "content_sha256" "" = Sha256.hexdigest [1] ∧
      ⟨some (.upload "d" "i" [2] "application/octet-stream"), moved.item, moved.item.put [2]⟩ ∈
        drive.log := by
  have renamed : (Json.str (Samples.tally 'e' (moved.item.revision + 1)) !=
      .str (Samples.tally 'e' 0)) = true := by
    refine bne_iff_ne.mpr fun same => Nat.succ_ne_zero _ (Samples.tally_inj (Json.str.inj same))
  refine ⟨_, _, runs_bind (runs_lift rfl) (runs_bind (runs_lift (a := "d") rfl)
    (runs_bind (b := ("f", [2])) ?_ (runs_bind sample_retain (runs_bind
      (runs_ask elapsed (.inr ⟨"u", _, ⟨rfl, rfl, rfl⟩, rfl, .inl rfl⟩))
      (runs_bind (runs_readMetadata "m") (runs_bind
        (runs_readContent (by decide) (by exact Nat.le_refl 1))
        (runs_bind (runs_ensure ?_) runs_pure))))))), rfl, ?_⟩
  · refine runs_bind (runs_lift (a := "f") rfl) ?_
    refine runs_bind (runs_served (c := .localArtifact "f") ("f", [2]) rfl) ?_
    refine runs_bind (runs_ensure ?_) (runs_bind (runs_ensure rfl) runs_pure)
    rw [sample_approved]
    decide +kernel
  · unfold uploadedItemMatches
    rw [sample_etag, sample_etag]
    simp only [Bool.and_eq_true]
    refine ⟨⟨⟨⟨⟨rfl, rfl⟩, ?_⟩, renamed⟩, rfl⟩, beq_iff_eq.mpr rfl⟩
    rw [truthy, Samples.tally_nonempty]
    rfl
  · exact List.mem_cons_of_mem _ (List.mem_cons_of_mem _ List.mem_cons_self)

theorem sample_replacement : ∃ result drive content up,
    Life Samples.connector Samples.upload Samples.start result drive ∧
    Since Samples.start (Replaced Samples.start Samples.upload result content up) drive := by
  obtain ⟨result, drive, run, -⟩ := sample_runs Samples.readOut .refl
  obtain ⟨content, up, since, -⟩ := replacement_exact Samples.connector Samples.upload
    Samples.start result drive (.executed run)
  exact ⟨result, drive, content, up, .executed run, since.mono fun _ => And.left⟩

/-- Another writer puts its bytes after the reads, and the upload replaces them. -/
theorem writer_overwritten : ∃ result drive,
    hosting.Runs (execute Samples.connector Samples.upload) Samples.start (.ok result) drive ∧
    ∃ up ∈ drive.log, up.isUpload = true ∧ up.found.bytes = [3] ∧
      Samples.upload.target.expectedVersion ≠ some (Provider.etag up.found.revision) ∧
      getStr (.obj (result.before.getD [])) "content_sha256" "" ≠
        Sha256.hexdigest up.found.bytes := by
  obtain ⟨result, drive, run, retained, uploaded⟩ := sample_runs
    (Samples.readOut.record none (Samples.item.put [3])) (.single (.inl ⟨[3], rfl⟩))
  refine ⟨result, drive, run, _, uploaded, rfl, rfl, ?_, ?_⟩
  · decide +kernel
  · rw [retained]
    decide +kernel

end MasterAgent.SharePoint
