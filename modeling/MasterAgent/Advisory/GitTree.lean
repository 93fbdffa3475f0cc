import MasterAgent.Base.GitObjects
import MasterAgent.Credentials.Leases

/-!
# Verified Git trees

The advisory worker loads the agent profiles from an immutable commit. Git serves the objects, and
the worker recomputes the identifier of each before it reads it; trees are decoded by a cursor that
runs over the raw bytes.

Results:

1. `readRecord_iff`: a turn of the loop cuts off exactly one record;
2. `readEntries_iff`: the loop accepts exactly the encodings of directories;
3. `verifiedTreeAtRevision_iff`: what is returned for a path of a commit;
4. `git_tree_verified`: the bytes that identifiers determine.
-/

namespace MasterAgent.Advisory
open Base Base.GitObjects Credentials

def MAX_GIT_COMMIT_BYTES : Nat := 2 * 1024 * 1024
def MAX_GIT_TREE_BYTES : Nat := 4 * 1024 * 1024
def MAX_GIT_TREE_ENTRIES : Nat := 50000

def copilotRepositoryScanRejected (message : String) : Exn :=
  ⟨.runtime, "CopilotRepositoryScanRejected", message⟩

/-! ## Objects -/

/-- `hashlib.sha1(bytes).hexdigest()` -/
class Sha1 where
  hexdigest : Bytes → String

/-- No two byte strings share a digest. -/
structure Sha1.CollisionFree [Sha1] : Prop where
  inj : ∀ a b, hexdigest a = hexdigest b → a = b

/-- What `git cat-file` writes for a type and an identifier, `none` where the command fails. -/
structure Repository where
  catFile : ObjectType → String → Option Bytes

/-- `_run_git`, with what the command writes. -/
def runGit (output : Option Bytes) (maxBytes : Nat) : Except Exn Bytes :=
  match output with
  | none => .error (copilotRepositoryScanRejected "repository state command failed")
  | some bytes =>
    if bytes.length > maxBytes then
      .error (copilotRepositoryScanRejected "repository state command failed")
    else .ok bytes

/-- The characters of a raw object identifier. -/
def objectIdDigits : Bytes := ascii "0123456789abcdef".toList

/-- `raw.decode("ascii")` of ASCII bytes. -/
def decodeAscii (raw : Bytes) : String := String.ofList (raw.map fun byte => Char.ofNat byte.toNat)

/-- `_validated_object_id` -/
def validatedObjectId (raw : Bytes) (expectedLength : Option Nat) : Except Exn String :=
  if (raw.length != 40 && raw.length != 64) || expectedLength.any (raw.length != ·)
      || raw.any (fun byte => !objectIdDigits.contains byte) then
    .error (copilotRepositoryScanRejected "immutable Git object ID is malformed")
  else .ok (decodeAscii raw)

/-- `object_id.encode("ascii")` -/
def encodeAscii (text : String) : Except Exn Bytes :=
  if text.toList.all (·.toNat < 128) then .ok (ascii text.toList)
  else .error (copilotRepositoryScanRejected "immutable Git object ID is malformed")

section
variable [Sha1] [Sha256]

/-- The digest an identifier of this length is of. -/
def objectDigest (length : Nat) (bytes : Bytes) : String :=
  if length = 40 then Sha1.hexdigest bytes else Sha256.hexdigest bytes

/-- `_verified_git_object` -/
def verifiedGitObject (root : Repository) (objectType : ObjectType) (objectId : String)
    (maxBytes : Nat) : Except Exn Bytes := do
  let rawObjectId ← encodeAscii objectId
  let _ ← validatedObjectId rawObjectId none
  let payload ← runGit (root.catFile objectType objectId) maxBytes
  if objectDigest objectId.length (framed objectType payload) != objectId then
    .error (copilotRepositoryScanRejected
      "immutable Git object failed content-address verification")
  else .ok payload

end

/-! ## Trees -/

/-- The result of `bytes.find`, where -1 stands for an absent byte. -/
def found : Option Nat → Int
  | some index => index
  | none => -1

/-- A record of a tree as the cursor cuts it out, and where the next one begins. -/
structure TreeRecord where
  entry : Entry
  objectEnd : Nat

/-- The bounds of the record at the cursor, and its parts if they are in order. -/
def readRecord (objectBytes : Nat) (payload : Bytes) (cursor : Nat) : Option TreeRecord :=
  let space := found (find payload SPACE cursor)
  let nul := if 0 ≤ space then found (find payload NUL (space + 1).toNat) else -1
  let objectEnd := nul + 1 + objectBytes
  if space ≤ cursor ∨ nul ≤ space + 1 ∨ objectEnd > payload.length then none
  else some {
    entry :=
      { mode := GitObjects.slice payload cursor space.toNat
        name := GitObjects.slice payload (space + 1).toNat nul.toNat
        id := GitObjects.slice payload (nul + 1).toNat objectEnd.toNat }
    objectEnd := objectEnd.toNat }

/-- The modes of an entry. -/
def MODES : List Bytes :=
  ["40000", "100644", "100755", "120000", "160000"].map fun mode => ascii mode.toList

/-- `b"."`, `b".."` -/
def DOTS : List Bytes := [[46], [46, 46]]

/-- The entries of a tree by name: `dict[bytes, tuple[bytes, str]]`, in the order of insertion. -/
abbrev TreeEntries := List (Bytes × Bytes × String)

/-- What `_verified_tree_entries` refuses of a record whose bounds are in order. -/
def unsafeEntry (entry : Entry) (entries : TreeEntries) : Bool :=
  !MODES.contains entry.mode || entry.name.isEmpty || entry.name.contains SLASH
    || DOTS.contains entry.name || entries.any (·.1 == entry.name)

/-- What an entry's name is bound to. -/
def binding (entry : Entry) : Bytes × Bytes × String := (entry.name, entry.mode, hexText entry.id)

theorem cursor_advances {objectBytes cursor : Nat} {payload : Bytes} {record : TreeRecord}
    (read : readRecord objectBytes payload cursor = some record) :
    cursor < record.objectEnd ∧ record.objectEnd ≤ payload.length := by
  unfold readRecord at read
  dsimp only at read
  split_ifs at read with outside <;> cases read <;> dsimp only <;> omega

/-- The loop of `_verified_tree_entries`. -/
def readEntries (objectBytes : Nat) (payload : Bytes) (cursor : Nat) (entries : TreeEntries) :
    Except Exn TreeEntries :=
  if cursor < payload.length then
    match _read : readRecord objectBytes payload cursor with
    | none => .error (copilotRepositoryScanRejected "immutable Git tree is malformed")
    | some record =>
      if entries.length ≥ MAX_GIT_TREE_ENTRIES then
        .error (copilotRepositoryScanRejected "immutable Git tree is malformed")
      else if unsafeEntry record.entry entries then
        .error (copilotRepositoryScanRejected "immutable Git tree is unsafe")
      else readEntries objectBytes payload record.objectEnd (entries ++ [binding record.entry])
  else .ok entries
termination_by payload.length - cursor
decreasing_by
  have advances := cursor_advances _read
  omega

section
variable [Sha1] [Sha256]

/-- `_verified_tree_entries` -/
def verifiedTreeEntries (root : Repository) (objectId : String) : Except Exn TreeEntries := do
  let payload ← verifiedGitObject root .tree objectId MAX_GIT_TREE_BYTES
  readEntries (objectId.length / 2) payload 0 []

def NEWLINE : UInt8 := 10

/-- The root tree a commit names on its first line. -/
def rootTree (commit : Bytes) (revision : String) : Except Exn String :=
  match find commit NEWLINE 0 with
  | none =>
    .error (copilotRepositoryScanRejected "immutable commit has no canonical root tree")
  | some index =>
    let firstLine := commit.take index
    if !(ascii "tree ".toList).isPrefixOf firstLine then
      .error (copilotRepositoryScanRejected "immutable commit has no canonical root tree")
    else validatedObjectId (firstLine.drop 5) (some revision.length)

/-- `for component in components` -/
def descend (root : Repository) : List Bytes → String → Except Exn String
  | [], treeId => .ok treeId
  | component :: rest, treeId => do
    let entries ← verifiedTreeEntries root treeId
    match entries.find? (·.1 == component) with
    | some (_, mode, objectId) =>
      if mode == ascii "40000".toList then descend root rest objectId
      else .error (copilotRepositoryScanRejected "immutable agent profile tree is missing or unsafe")
    | none =>
      .error (copilotRepositoryScanRejected "immutable agent profile tree is missing or unsafe")

/-- `_verified_tree_at_revision` -/
def verifiedTreeAtRevision (root : Repository) (revision : String) (components : List Bytes) :
    Except Exn TreeEntries := do
  let commit ← verifiedGitObject root .commit revision MAX_GIT_COMMIT_BYTES
  let treeId ← rootTree commit revision
  let treeId ← descend root components treeId
  verifiedTreeEntries root treeId

end

/-! ## One record -/

section
variable {objectBytes cursor : Nat} {payload mode name tail : Bytes}

/-- What the cursor computes where both separators are ahead. -/
theorem readRecord_ahead (split : payload.drop cursor = mode ++ SPACE :: (name ++ NUL :: tail))
    (noSpace : SPACE ∉ mode) (noNul : NUL ∉ name) :
    readRecord objectBytes payload cursor =
      if mode = [] ∨ name = [] ∨ tail.length < objectBytes then none
      else some ⟨⟨mode, name, tail.take objectBytes⟩,
        cursor + mode.length + 1 + name.length + 1 + objectBytes⟩ := by
  have space : find payload SPACE cursor = some (cursor + mode.length) :=
    find_iff.mpr ⟨mode, _, split, noSpace, rfl⟩
  have afterMode := drop_past split
  have nul : find payload NUL (cursor + mode.length + 1) =
      some (cursor + mode.length + 1 + name.length) :=
    find_iff.mpr ⟨name, _, afterMode, noNul, rfl⟩
  have afterName := drop_past afterMode
  have size : payload.length = cursor + mode.length + 1 + name.length + 1 + tail.length := by
    have rest := congrArg List.length split
    simp only [List.length_drop, List.length_append, List.length_cons] at rest
    omega
  have modeEmpty : mode = [] ↔ mode.length = 0 := List.length_eq_zero_iff.symm
  have nameEmpty : name = [] ↔ name.length = 0 := List.length_eq_zero_iff.symm
  have toNat : ((cursor + mode.length : Nat) + 1 : Int).toNat = cursor + mode.length + 1 := rfl
  have positive : (0 : Int) ≤ (cursor + mode.length : Nat) := Int.natCast_nonneg _
  simp only [readRecord, space, found, positive, if_true, toNat, nul]
  split_ifs with outside short short
  · rfl
  · rw [modeEmpty, nameEmpty] at short
    omega
  · rw [modeEmpty, nameEmpty] at short
    omega
  · have idEnd : (((cursor + mode.length + 1 + name.length : Nat) : Int) + 1 + objectBytes).toNat =
        cursor + mode.length + 1 + name.length + 1 + objectBytes := rfl
    have idStart : (((cursor + mode.length + 1 + name.length : Nat) : Int) + 1).toNat =
        cursor + mode.length + 1 + name.length + 1 := rfl
    have taken : (tail.take objectBytes).length = objectBytes := by
      rw [List.length_take]
      omega
    have idSlice : GitObjects.slice payload (cursor + mode.length + 1 + name.length + 1)
        (cursor + mode.length + 1 + name.length + 1 + objectBytes) = tail.take objectBytes := by
      have cut := slice_of_drop (afterName.trans (List.take_append_drop objectBytes tail).symm)
      rwa [taken] at cut
    rw [idEnd, idStart, idSlice, Int.toNat_natCast, Int.toNat_natCast, slice_of_drop split,
      slice_of_drop afterMode]

/-- A record is cut off exactly where one is ahead. -/
theorem readRecord_iff {record : TreeRecord} :
    readRecord objectBytes payload cursor = some record ↔
      ∃ rest, payload.drop cursor = record.entry.encode ++ rest ∧
        SPACE ∉ record.entry.mode ∧ NUL ∉ record.entry.name ∧ record.entry.mode ≠ [] ∧
        record.entry.name ≠ [] ∧ record.entry.id.length = objectBytes ∧
        record.objectEnd = cursor + record.entry.encode.length := by
  constructor
  · intro read
    cases space : find payload SPACE cursor with
    | none =>
      simp only [readRecord, space, found] at read
      rw [if_pos (Or.inl (by omega))] at read
      cases read
    | some index =>
      obtain ⟨mode, afterSpace, split, noSpace, rfl⟩ := find_iff.mp space
      cases nul : find payload NUL (cursor + mode.length + 1) with
      | none =>
        have toNat : ((cursor + mode.length : Nat) + 1 : Int).toNat = cursor + mode.length + 1 := rfl
        simp only [readRecord, space, found, toNat, nul] at read
        rw [if_pos (Or.inr (Or.inl (by split <;> omega)))] at read
        cases read
      | some index =>
        obtain ⟨name, tail, splitName, noNul, rfl⟩ := find_iff.mp nul
        rw [drop_past split] at splitName
        rw [splitName] at split
        rw [readRecord_ahead split noSpace noNul] at read
        split_ifs at read with short
        cases read
        push Not at short
        have taken : (tail.take objectBytes).length = objectBytes := by
          rw [List.length_take, Nat.min_eq_left short.2.2]
        refine ⟨tail.drop objectBytes, ?_, noSpace, noNul, short.1, short.2.1, taken, ?_⟩
        · rw [split, Entry.encode, List.append_assoc, List.cons_append, List.append_assoc,
            List.cons_append, List.take_append_drop]
        · simp only [Entry.encode, List.length_append, List.length_cons, taken]
          omega
  · rintro ⟨rest, split, noSpace, noNul, modeFull, nameFull, idLength, objectEnd⟩
    obtain ⟨⟨mode, name, id⟩, objectEnd'⟩ := record
    dsimp only at *
    subst objectEnd'
    have shape : payload.drop cursor = mode ++ SPACE :: (name ++ NUL :: (id ++ rest)) := by
      rw [split, Entry.encode, List.append_assoc, List.cons_append, List.append_assoc,
        List.cons_append]
    rw [readRecord_ahead shape noSpace noNul, if_neg, ← idLength, List.take_left]
    · simp only [Entry.encode, List.length_append, List.length_cons]
      congr 2
      omega
    · rw [List.length_append]
      push Not
      exact ⟨modeFull, nameFull, by omega⟩

end

/-! ## Directories -/

/-- An entry a directory may have, in a repository whose identifiers are `width` bytes. -/
structure Wellformed (width : Nat) (entry : Entry) : Prop where
  mode : entry.mode ∈ MODES
  nonempty : entry.name ≠ []
  plain : SLASH ∉ entry.name
  terminated : NUL ∉ entry.name
  proper : entry.name ∉ DOTS
  identified : entry.id.length = width

theorem space_not_mem_mode {mode : Bytes} (permitted : mode ∈ MODES) : SPACE ∉ mode := by
  have all : ∀ mode ∈ MODES, SPACE ∉ mode := by decide
  exact all mode permitted

theorem mode_ne_nil {mode : Bytes} (permitted : mode ∈ MODES) : mode ≠ [] := by
  rintro rfl
  exact absurd permitted (by decide)

/-- What makes a record safe. -/
theorem unsafeEntry_eq_false_iff {entry : Entry} {entries : TreeEntries} :
    unsafeEntry entry entries = false ↔ entry.mode ∈ MODES ∧ entry.name ≠ [] ∧
      SLASH ∉ entry.name ∧ entry.name ∉ DOTS ∧ entry.name ∉ entries.map Prod.fst := by
  have seen : entries.any (·.1 == entry.name) = false ↔ entry.name ∉ entries.map Prod.fst := by
    rw [← Bool.not_eq_true, List.any_eq_true, List.mem_map]
    simp only [beq_iff_eq]
  rw [← seen]
  simp [unsafeEntry, and_assoc]

/-- Entries that the loop takes up after those it has. -/
structure Accepted (width : Nat) (done : TreeEntries) (entries : List Entry) : Prop where
  wellformed : ∀ entry ∈ entries, Wellformed width entry
  distinct : (done.map Prod.fst ++ entries.map Entry.name).Nodup
  limited : done.length + entries.length ≤ MAX_GIT_TREE_ENTRIES

section
variable {width cursor : Nat} {payload : Bytes} {done result : TreeEntries}

/-- One entry is taken up, and the others after it. -/
theorem accepted_cons {entry : Entry} {rest : List Entry} :
    Accepted width done (entry :: rest) ↔ Wellformed width entry ∧
      done.length < MAX_GIT_TREE_ENTRIES ∧ Accepted width (done ++ [binding entry]) rest := by
  have names : (done ++ [binding entry]).map Prod.fst ++ rest.map Entry.name =
      done.map Prod.fst ++ (entry :: rest).map Entry.name := by
    rw [List.map_append, List.append_assoc]
    rfl
  have lengths : (done ++ [binding entry]).length + rest.length =
      done.length + (entry :: rest).length := by
    rw [List.length_append, List.length_singleton, List.length_cons]
    omega
  constructor
  · rintro ⟨wellformed, distinct, limited⟩
    rw [List.forall_mem_cons] at wellformed
    refine ⟨wellformed.1, ?_, wellformed.2, names ▸ distinct, lengths ▸ limited⟩
    rw [List.length_cons] at limited
    omega
  · rintro ⟨wellformed, -, others, distinct, limited⟩
    exact ⟨List.forall_mem_cons.mpr ⟨wellformed, others⟩, names ▸ distinct, lengths ▸ limited⟩

/-- A record is refused where no directory has its entry. -/
theorem wellformed_of_record {record : TreeRecord}
    (read : readRecord width payload cursor = some record)
    (safe : unsafeEntry record.entry done = false) : Wellformed width record.entry := by
  obtain ⟨_, _, _, terminated, _, nonempty, identified, _⟩ := readRecord_iff.mp read
  obtain ⟨mode, _, plain, proper, _⟩ := unsafeEntry_eq_false_iff.mp safe
  exact ⟨mode, nonempty, plain, terminated, proper, identified⟩

/-- The record ahead of the cursor is the first entry of what is encoded there. -/
theorem readRecord_of_encode {entry : Entry} {rest : List Entry} (wellformed : Wellformed width entry)
    (ahead : payload.drop cursor = encode (entry :: rest)) :
    readRecord width payload cursor = some ⟨entry, cursor + entry.encode.length⟩ :=
  readRecord_iff.mpr ⟨encode rest, ahead, space_not_mem_mode wellformed.mode, wellformed.terminated,
    mode_ne_nil wellformed.mode, wellformed.nonempty, wellformed.identified, rfl⟩

theorem encode_ne_nil {entry : Entry} {rest : List Entry} : encode (entry :: rest) ≠ [] := by
  intro empty
  have lengths := congrArg List.length empty
  simp only [encode, Entry.encode, List.flatMap_cons, List.length_append, List.length_cons,
    List.length_nil] at lengths
  omega

/-- The loop accepts what remains exactly if it encodes entries that may be taken up. -/
theorem readEntries_iff (inside : cursor ≤ payload.length) (unique : (done.map Prod.fst).Nodup)
    (room : done.length ≤ MAX_GIT_TREE_ENTRIES) :
    readEntries width payload cursor done = .ok result ↔
      ∃ entries, payload.drop cursor = encode entries ∧ Accepted width done entries ∧
        result = done ++ entries.map binding := by
  -- the induction follows the loop: a turn that fails, the turn that takes up a record, the end
  fun_induction readEntries width payload cursor done with
  | case1 cursor done within unread =>
    constructor
    · intro passes
      cases passes
    · rintro ⟨entries, ahead, accepted, -⟩
      cases entries with
      | nil => exact absurd (List.drop_eq_nil_iff.mp ahead) (by omega)
      | cons entry rest =>
        rw [readRecord_of_encode (accepted_cons.mp accepted).1 ahead] at unread
        cases unread
  | case2 cursor done within record read full =>
    constructor
    · intro passes
      cases passes
    · rintro ⟨entries, ahead, accepted, -⟩
      cases entries with
      | nil => exact absurd (List.drop_eq_nil_iff.mp ahead) (by omega)
      | cons entry rest => exact absurd (accepted_cons.mp accepted).2.1 (by omega)
  | case3 cursor done within record read notFull unsafeHere =>
    constructor
    · intro passes
      cases passes
    · rintro ⟨entries, ahead, accepted, -⟩
      cases entries with
      | nil => exact absurd (List.drop_eq_nil_iff.mp ahead) (by omega)
      | cons entry rest =>
        obtain ⟨wellformed, _, accepted⟩ := accepted_cons.mp accepted
        rw [readRecord_of_encode wellformed ahead] at read
        cases read
        have fresh : entry.name ∉ done.map Prod.fst := by
          have before := (List.nodup_append.mp accepted.distinct).1
          rw [List.map_append, List.map_singleton, List.nodup_append] at before
          exact fun seen => before.2.2 _ seen _ (List.mem_singleton_self _) rfl
        have safe := unsafeEntry_eq_false_iff.mpr ⟨wellformed.mode, wellformed.nonempty,
          wellformed.plain, wellformed.proper, fresh⟩
        rw [safe] at unsafeHere
        cases unsafeHere
  | case4 cursor done within record read notFull safe ih =>
    rw [Bool.not_eq_true] at safe
    have wellformed := wellformed_of_record read safe
    have fresh := (unsafeEntry_eq_false_iff.mp safe).2.2.2.2
    obtain ⟨rest, ahead, -, -, -, -, -, objectEnd⟩ := readRecord_iff.mp read
    have later : payload.drop record.objectEnd = rest := by
      rw [objectEnd, ← List.drop_drop, ahead, List.drop_left]
    have unique' : ((done ++ [binding record.entry]).map Prod.fst).Nodup := by
      rw [List.map_append, List.nodup_append]
      refine ⟨unique, List.nodup_singleton _, fun seen listed other here same => fresh ?_⟩
      rw [List.map_singleton, List.mem_singleton] at here
      rw [same, here] at listed
      exact listed
    rw [ih (cursor_advances read).2 unique' (by rw [List.length_append, List.length_singleton]; omega)]
    constructor
    · rintro ⟨entries, encoded, accepted, rfl⟩
      refine ⟨record.entry :: entries, ?_, accepted_cons.mpr ⟨wellformed, by omega, accepted⟩, ?_⟩
      · rw [ahead, ← later, encoded]
        rfl
      · rw [List.append_assoc]
        rfl
    · rintro ⟨entries, encoded, accepted, rfl⟩
      cases entries with
      | nil => exact absurd (List.drop_eq_nil_iff.mp encoded) (by omega)
      | cons entry entries =>
        obtain ⟨wellformed, _, accepted⟩ := accepted_cons.mp accepted
        have same := readRecord_of_encode wellformed encoded
        rw [read] at same
        cases same
        refine ⟨entries, ?_, accepted, ?_⟩
        · rw [← List.drop_drop, encoded]
          exact List.drop_left
        · rw [List.append_assoc]
          rfl
  | case5 cursor done beyond =>
    have nothing : payload.drop cursor = [] := List.drop_eq_nil_iff.mpr (by omega)
    constructor
    · intro passes
      cases passes
      refine ⟨[], nothing, ⟨fun _ listed => absurd listed List.not_mem_nil, ?_, room⟩, ?_⟩
      · rwa [List.map_nil, List.append_nil]
      · rw [List.map_nil, List.append_nil]
    · rintro ⟨entries, encoded, -, rfl⟩
      cases entries with
      | nil => rw [List.map_nil, List.append_nil]
      | cons entry rest => exact absurd (encoded.symm.trans nothing) encode_ne_nil

end

/-- A directory that the code lists, in a repository whose identifiers are `width` bytes. -/
structure GitDirectory (width : Nat) where
  entries : List Entry
  wellformed : ∀ entry ∈ entries, Wellformed width entry
  distinct : (entries.map Entry.name).Nodup
  limited : entries.length ≤ MAX_GIT_TREE_ENTRIES

/-- The payload of the tree object. -/
def GitDirectory.payload {width : Nat} (d : GitDirectory width) : Bytes := encode d.entries

/-- The entries by name, in their order. -/
def GitDirectory.bindings {width : Nat} (d : GitDirectory width) : TreeEntries := d.entries.map binding

/-- The decoder accepts the encodings of directories and nothing else. -/
theorem decode_iff {width : Nat} {payload : Bytes} {result : TreeEntries} :
    readEntries width payload 0 [] = .ok result ↔
      ∃ d : GitDirectory width, payload = d.payload ∧ result = d.bindings := by
  have unique : (([] : TreeEntries).map Prod.fst).Nodup := List.nodup_nil
  rw [readEntries_iff (Nat.zero_le _) unique (Nat.zero_le _), List.drop_zero]
  constructor
  · rintro ⟨entries, encoded, ⟨wellformed, distinct, limited⟩, rfl⟩
    exact ⟨⟨entries, wellformed, distinct, by rwa [List.length_nil, Nat.zero_add] at limited⟩,
      encoded, List.nil_append _⟩
  · rintro ⟨d, encoded, rfl⟩
    exact ⟨d.entries, encoded, ⟨d.wellformed, d.distinct, by
      rw [List.length_nil, Nat.zero_add]
      exact d.limited⟩, (List.nil_append _).symm⟩

theorem binding_inj : Function.Injective binding := by
  rintro ⟨mode, name, id⟩ ⟨mode', name', id'⟩ same
  simp only [binding, Prod.mk.injEq] at same
  rw [same.1, same.2.1, hexText_inj same.2.2]

/-- The payload determines the directory. -/
theorem payload_inj {width : Nat} {d d' : GitDirectory width} (same : d.payload = d'.payload) :
    d.entries = d'.entries := by
  have first := decode_iff.mpr ⟨d, rfl, rfl⟩
  have second := decode_iff.mpr ⟨d', same, rfl⟩
  rw [first] at second
  exact List.map_injective_iff.mpr binding_inj (Except.ok.inj second)

/-! ## Identifiers -/

/-- An identifier of a SHA-1 or a SHA-256 repository. -/
structure IsObjectId (id : String) : Prop where
  size : id.length = 40 ∨ id.length = 64
  digits : ∀ c ∈ id.toList, c ∈ "0123456789abcdef".toList

theorem hex_ascii {c : Char} (digit : c ∈ "0123456789abcdef".toList) : c.toNat < 128 := by
  have small : ("0123456789abcdef".toList.all (·.toNat < 128)) = true := by decide
  exact of_decide_eq_true (List.all_eq_true.mp small c digit)

theorem decodeAscii_ascii {cs : List Char} (plain : ∀ c ∈ cs, c.toNat < 128) :
    decodeAscii (ascii cs) = String.ofList cs := by
  rw [decodeAscii, ascii, List.map_map]
  congr 1
  conv_rhs => rw [← List.map_id cs]
  refine List.map_congr_left fun c listed => ?_
  have code : (UInt8.ofNat c.toNat).toNat = c.toNat := by
    rw [UInt8.toNat_ofNat']
    exact Nat.mod_eq_of_lt (Nat.lt_trans (plain c listed) (by decide))
  simp only [Function.comp_apply, code, Char.ofNat_toNat, id]

/-- The digits of a raw identifier are those of its text. -/
theorem digit_iff {c : Char} (plain : c.toNat < 128) :
    UInt8.ofNat c.toNat ∈ objectIdDigits ↔ c ∈ "0123456789abcdef".toList := by
  constructor
  · intro listed
    obtain ⟨d, member, same⟩ := List.mem_map.mp listed
    have codes := congrArg UInt8.toNat same
    rw [UInt8.toNat_ofNat', UInt8.toNat_ofNat', Nat.mod_eq_of_lt (Nat.lt_trans plain (by decide)),
      Nat.mod_eq_of_lt (Nat.lt_trans (hex_ascii member) (by decide))] at codes
    rwa [← Char.toNat_inj.mp codes]
  · exact fun digit => List.mem_map_of_mem digit

theorem newline_not_mem {cs : List Char} (plain : ∀ c ∈ cs, c.toNat < 128 ∧ c.toNat ≠ 10) :
    NEWLINE ∉ ascii cs := by
  intro listed
  obtain ⟨c, member, same⟩ := List.mem_map.mp listed
  have code := congrArg UInt8.toNat same
  rw [UInt8.toNat_ofNat', Nat.mod_eq_of_lt (Nat.lt_trans (plain c member).1 (by decide))] at code
  exact (plain c member).2 code

/-- Raw digits are the ASCII text of what is decoded. -/
theorem ascii_of_digits {raw : Bytes} (digits : ∀ byte ∈ raw, byte ∈ objectIdDigits) :
    ∃ cs : List Char, raw = ascii cs ∧ ∀ c ∈ cs, c.toNat < 128 := by
  induction raw with
  | nil => exact ⟨[], rfl, fun c listed => absurd listed List.not_mem_nil⟩
  | cons byte raw ih =>
    rw [List.forall_mem_cons] at digits
    obtain ⟨cs, rfl, plain⟩ := ih digits.2
    obtain ⟨c, member, rfl⟩ := List.mem_map.mp digits.1
    exact ⟨c :: cs, rfl, List.forall_mem_cons.mpr ⟨hex_ascii member, plain⟩⟩

theorem digits_of_validated {raw : Bytes} {expected : Option Nat} {id : String}
    (valid : validatedObjectId raw expected = .ok id) : ∀ byte ∈ raw, byte ∈ objectIdDigits := by
  unfold validatedObjectId at valid
  split_ifs at valid with refused
  intro byte listed
  by_contra foreign
  have found : raw.any (fun byte => !objectIdDigits.contains byte) = true :=
    List.any_eq_true.mpr ⟨byte, listed, by simpa using foreign⟩
  rw [found, Bool.or_true] at refused
  exact refused rfl

theorem validatedObjectId_iff {cs : List Char} (plain : ∀ c ∈ cs, c.toNat < 128)
    {expected : Option Nat} {id : String} :
    validatedObjectId (ascii cs) expected = .ok id ↔
      id = String.ofList cs ∧ IsObjectId id ∧ ∀ length, expected = some length → id.length = length := by
  have size : (ascii cs).length = cs.length := List.length_map _
  have digits : (ascii cs).any (fun byte => !objectIdDigits.contains byte) = false ↔
      ∀ c ∈ cs, c ∈ "0123456789abcdef".toList := by
    rw [List.any_eq_false]
    refine ⟨fun all c listed => ?_, fun all byte listed => ?_⟩
    · have member := all _ (List.mem_map_of_mem listed)
      rw [Bool.not_eq_true, Bool.not_eq_false', List.contains_iff_mem] at member
      exact (digit_iff (plain c listed)).mp member
    · obtain ⟨c, member, rfl⟩ := List.mem_map.mp listed
      rw [Bool.not_eq_true, Bool.not_eq_false', List.contains_iff_mem]
      exact (digit_iff (plain c member)).mpr (all c member)
  unfold validatedObjectId
  rw [decodeAscii_ascii plain, size]
  constructor
  · intro passes
    split_ifs at passes with refused
    cases passes
    simp only [Bool.or_eq_true, not_or, Bool.not_eq_true, Bool.and_eq_false_iff, bne_eq_false_iff_eq]
      at refused
    obtain ⟨⟨sizes, expects⟩, rest⟩ := refused
    refine ⟨rfl, ⟨?_, ?_⟩, ?_⟩
    · rwa [String.length_ofList]
    · rw [String.toList_ofList]
      exact digits.mp rest
    · rintro length rfl
      rw [String.length_ofList]
      simpa using expects
  · rintro ⟨rfl, ⟨sizes, all⟩, expects⟩
    rw [String.length_ofList] at sizes expects
    rw [String.toList_ofList] at all
    rw [if_neg]
    simp only [Bool.or_eq_true, not_or, Bool.not_eq_true, Bool.and_eq_false_iff, bne_eq_false_iff_eq]
    refine ⟨⟨sizes, ?_⟩, digits.mpr all⟩
    cases expected with
    | none => rfl
    | some length => simpa using expects length rfl

section
variable [Sha1] [Sha256] {root : Repository} {id : String}

/-- The identifier of an object. -/
def Names (type : ObjectType) (id : String) (payload : Bytes) : Prop :=
  objectDigest id.length (framed type payload) = id

/-- An identifier names one object of its type. -/
theorem names_unique (sha1 : Sha1.CollisionFree) (sha256 : Sha256.CollisionFree) {type : ObjectType}
    {a b : Bytes} (ha : Names type id a) (hb : Names type id b) : a = b := by
  have same := ha.trans hb.symm
  unfold objectDigest at same
  split at same
  · exact framed_inj (sha1.inj _ _ same)
  · exact framed_inj (sha256.inj _ _ same)

/-- The object of an identifier, as far as Git serves it. -/
structure Served (root : Repository) (type : ObjectType) (id : String) (payload : Bytes)
    (maxBytes : Nat) : Prop where
  identified : IsObjectId id
  served : root.catFile type id = some payload
  bounded : payload.length ≤ maxBytes
  named : Names type id payload

theorem verifiedGitObject_iff {type : ObjectType} {payload : Bytes} {maxBytes : Nat} :
    verifiedGitObject root type id maxBytes = .ok payload ↔ Served root type id payload maxBytes := by
  constructor
  · intro passes
    obtain ⟨raw, encoded, validates⟩ := of_bind_ok passes
    obtain ⟨id', valid, reads⟩ := of_bind_ok validates
    obtain ⟨bytes, ran, compares⟩ := of_bind_ok reads
    unfold encodeAscii at encoded
    split_ifs at encoded with plain
    cases encoded
    have plain' : ∀ c ∈ id.toList, c.toNat < 128 := by simpa using plain
    obtain ⟨rfl, isId, -⟩ := (validatedObjectId_iff plain').mp valid
    rw [String.ofList_toList] at isId
    unfold runGit at ran
    split at ran
    · cases ran
    · next served =>
      split_ifs at ran with short
      cases ran
      split_ifs at compares with differs
      cases compares
      exact ⟨isId, served, by omega, by simpa [Names] using differs⟩
  · rintro ⟨isId, served, bounded, named⟩
    have plain : ∀ c ∈ id.toList, c.toNat < 128 := fun c listed => hex_ascii (isId.digits c listed)
    have valid : validatedObjectId (ascii id.toList) none = .ok id :=
      (validatedObjectId_iff plain).mpr ⟨String.ofList_toList.symm, isId, fun _ none => nomatch none⟩
    have encoded : encodeAscii id = .ok (ascii id.toList) := by
      rw [encodeAscii, if_pos (by simpa using plain)]
    have ran : runGit (root.catFile type id) maxBytes = .ok payload := by
      rw [served]
      exact if_neg (by omega)
    have same : (objectDigest id.length (framed type payload) != id) = false :=
      bne_eq_false_iff_eq.mpr named
    unfold verifiedGitObject
    rw [encoded, ok_bind, valid, ok_bind, ran, ok_bind, same]
    rfl

/-- A tree is returned exactly if Git serves a directory's encoding under the identifier. -/
theorem verifiedTreeEntries_iff {result : TreeEntries} :
    verifiedTreeEntries root id = .ok result ↔ ∃ d : GitDirectory (id.length / 2),
      Served root .tree id d.payload MAX_GIT_TREE_BYTES ∧ result = d.bindings := by
  unfold verifiedTreeEntries
  rw [bind_ok_iff]
  constructor
  · rintro ⟨payload, verified, decoded⟩
    obtain ⟨d, rfl, rfl⟩ := decode_iff.mp decoded
    exact ⟨d, verifiedGitObject_iff.mp verified, rfl⟩
  · rintro ⟨d, served, rfl⟩
    exact ⟨d.payload, verifiedGitObject_iff.mpr served, decode_iff.mpr ⟨d, rfl, rfl⟩⟩

end

/-! ## Commits and paths -/

/-- The root tree of a commit: its first line says `tree` and the identifier. -/
structure RootTree (commit : Bytes) (revision treeId : String) : Prop where
  identified : IsObjectId treeId
  sized : treeId.length = revision.length
  line : ∃ rest, commit = ascii "tree ".toList ++ (ascii treeId.toList ++ NEWLINE :: rest)

theorem rootTree_iff {commit : Bytes} {revision treeId : String} :
    rootTree commit revision = .ok treeId ↔ RootTree commit revision treeId := by
  constructor
  · intro passes
    unfold rootTree at passes
    split at passes
    · cases passes
    next index located =>
    obtain ⟨front, rest, split, -, rfl⟩ := find_iff.mp located
    rw [List.drop_zero] at split
    have line : commit.take (0 + front.length) = front := by
      rw [Nat.zero_add, split, List.take_left]
    dsimp only at passes
    rw [line] at passes
    split_ifs at passes with refused
    rw [Bool.not_eq_true, Bool.not_eq_false', List.isPrefixOf_iff_prefix] at refused
    obtain ⟨raw, rfl⟩ := refused
    rw [List.drop_left' (show (ascii "tree ".toList).length = 5 by decide)] at passes
    obtain ⟨cs, rfl, plain⟩ := ascii_of_digits (digits_of_validated passes)
    obtain ⟨rfl, identified, sized⟩ := (validatedObjectId_iff plain).mp passes
    refine ⟨identified, sized _ rfl, rest, ?_⟩
    have text : (String.ofList cs).toList = cs := String.toList_ofList
    rw [text, split, List.append_assoc]
  · rintro ⟨identified, sized, rest, rfl⟩
    have plain : ∀ c ∈ treeId.toList, c.toNat < 128 :=
      fun c listed => hex_ascii (identified.digits c listed)
    have noNewline : NEWLINE ∉ ascii "tree ".toList ++ ascii treeId.toList := by
      rw [List.mem_append, not_or]
      refine ⟨by decide, newline_not_mem fun c listed => ⟨plain c listed, ?_⟩⟩
      have printable : ("0123456789abcdef".toList.all (·.toNat ≠ 10)) = true := by decide
      exact of_decide_eq_true (List.all_eq_true.mp printable c (identified.digits c listed))
    have located : find (ascii "tree ".toList ++ (ascii treeId.toList ++ NEWLINE :: rest)) NEWLINE 0 =
        some (0 + (ascii "tree ".toList ++ ascii treeId.toList).length) :=
      find_iff.mpr ⟨_, rest, by rw [List.drop_zero, List.append_assoc], noNewline, rfl⟩
    unfold rootTree
    rw [located]
    dsimp only
    rw [Nat.zero_add, ← List.append_assoc, List.take_left, if_neg,
      List.drop_left' (show (ascii "tree ".toList).length = 5 by decide)]
    · exact (validatedObjectId_iff plain).mpr ⟨String.ofList_toList.symm, identified,
        fun length same => sized.trans (Option.some.inj same)⟩
    · rw [Bool.not_eq_true, Bool.not_eq_false', List.isPrefixOf_iff_prefix]
      exact List.prefix_append _ _

/-- The entries of the directory that a tree has under a path, where `object` says which payload an
identifier stands for. -/
def TreeAt (object : ObjectType → String → Bytes → Prop) :
    List Bytes → String → List Entry → Prop
  | [], treeId, entries =>
    ∃ d : GitDirectory (treeId.length / 2), object .tree treeId d.payload ∧ entries = d.entries
  | component :: rest, treeId, entries =>
    ∃ d : GitDirectory (treeId.length / 2), object .tree treeId d.payload ∧
      ∃ entry ∈ d.entries, entry.name = component ∧ entry.mode = ascii "40000".toList ∧
        TreeAt object rest (hexText entry.id) entries

/-- The entries of the directory that a commit has under a path. -/
def CommitAt (object : ObjectType → String → Bytes → Prop) (revision : String)
    (components : List Bytes) (entries : List Entry) : Prop :=
  ∃ commit treeId, object .commit revision commit ∧ RootTree commit revision treeId ∧
    TreeAt object components treeId entries

/-- A name of a directory is looked up where the loop has bound it. -/
theorem find_binding {entries : List Entry} (distinct : (entries.map Entry.name).Nodup)
    {entry : Entry} (listed : entry ∈ entries) :
    (entries.map binding).find? (·.1 == entry.name) = some (binding entry) := by
  induction entries with
  | nil => exact absurd listed List.not_mem_nil
  | cons head rest ih =>
    rw [List.map_cons, List.nodup_cons] at distinct
    rw [List.map_cons, List.find?_cons]
    rcases List.mem_cons.mp listed with rfl | later
    · rw [show ((binding entry).1 == entry.name) = true from beq_self_eq_true _]
    · have other : ((binding head).1 == entry.name) = false := by
        rw [beq_eq_false_iff_ne]
        intro same
        exact distinct.1 (List.mem_map.mpr ⟨entry, later, same.symm⟩)
      rw [other]
      exact ih distinct.2 later

section
variable [Sha1] [Sha256] {root : Repository}

/-- The output limit of a type of objects. -/
def outputLimit : ObjectType → Nat
  | .commit => MAX_GIT_COMMIT_BYTES
  | _ => MAX_GIT_TREE_BYTES

/-- The payload that Git serves for an identifier within the limit of its type. -/
def ServedBy (root : Repository) (type : ObjectType) (id : String) (payload : Bytes) : Prop :=
  Served root type id payload (outputLimit type)

theorem descend_iff {components : List Bytes} {treeId : String} {result : TreeEntries} :
    (descend root components treeId >>= verifiedTreeEntries root) = .ok result ↔
      ∃ entries, TreeAt (ServedBy root) components treeId entries ∧ result = entries.map binding := by
  induction components generalizing treeId with
  | nil =>
    change verifiedTreeEntries root treeId = .ok result ↔ _
    rw [verifiedTreeEntries_iff]
    constructor
    · rintro ⟨d, served, rfl⟩
      exact ⟨d.entries, ⟨d, served, rfl⟩, rfl⟩
    · rintro ⟨_, ⟨d, served, rfl⟩, rfl⟩
      exact ⟨d, served, rfl⟩
  | cons component rest ih =>
    unfold descend
    constructor
    · intro passes
      obtain ⟨treeId', selects, last⟩ := of_bind_ok passes
      obtain ⟨bindings, read, selects⟩ := of_bind_ok selects
      obtain ⟨d, served, rfl⟩ := verifiedTreeEntries_iff.mp read
      split at selects
      · next name mode objectId located =>
        split_ifs at selects with directory
        obtain ⟨entry, listed, same⟩ := List.mem_map.mp (List.mem_of_find?_eq_some located)
        have named := List.find?_some located
        rw [← same] at named
        simp only [binding, Prod.mk.injEq] at same
        obtain ⟨-, rfl, rfl⟩ := same
        obtain ⟨entries, below, rfl⟩ := ih.mp (bind_ok_iff.mpr ⟨treeId', selects, last⟩)
        exact ⟨entries, ⟨d, served, entry, listed, beq_iff_eq.mp named, beq_iff_eq.mp directory,
          below⟩, rfl⟩
      · cases selects
    · rintro ⟨entries, ⟨d, served, entry, listed, rfl, directory, below⟩, rfl⟩
      have read := verifiedTreeEntries_iff.mpr ⟨d, served, rfl⟩
      obtain ⟨treeId', selects, last⟩ := of_bind_ok (ih.mpr ⟨entries, below, rfl⟩)
      rw [read, ok_bind, GitDirectory.bindings, find_binding d.distinct listed]
      simp only [binding, directory, beq_self_eq_true, if_true]
      rw [selects, ok_bind, last]

/-- What is returned for a path of a commit. -/
theorem verifiedTreeAtRevision_iff {revision : String} {components : List Bytes}
    {result : TreeEntries} :
    verifiedTreeAtRevision root revision components = .ok result ↔
      ∃ entries, CommitAt (ServedBy root) revision components entries ∧
        result = entries.map binding := by
  unfold verifiedTreeAtRevision
  constructor
  · intro passes
    obtain ⟨commit, verified, passes⟩ := of_bind_ok passes
    obtain ⟨treeId, line, passes⟩ := of_bind_ok passes
    obtain ⟨entries, below, rfl⟩ := descend_iff.mp passes
    exact ⟨entries, ⟨commit, treeId, verifiedGitObject_iff.mp verified, rootTree_iff.mp line, below⟩,
      rfl⟩
  · rintro ⟨entries, ⟨commit, treeId, served, line, below⟩, rfl⟩
    have verified := verifiedGitObject_iff.mpr served
    rw [show MAX_GIT_COMMIT_BYTES = outputLimit .commit from rfl, verified, ok_bind,
      rootTree_iff.mpr line, ok_bind]
    exact descend_iff.mpr ⟨entries, below, rfl⟩

/-! ## What identifiers determine -/

/-- Objects that are served are named by their identifiers. -/
theorem TreeAt.named {components : List Bytes} {treeId : String} {entries : List Entry}
    (below : TreeAt (ServedBy root) components treeId entries) :
    TreeAt Names components treeId entries := by
  induction components generalizing treeId with
  | nil =>
    obtain ⟨d, served, rfl⟩ := below
    exact ⟨d, served.named, rfl⟩
  | cons component rest ih =>
    obtain ⟨d, served, entry, listed, name, directory, below⟩ := below
    exact ⟨d, served.named, entry, listed, name, directory, ih below⟩

theorem treeAt_unique (sha1 : Sha1.CollisionFree) (sha256 : Sha256.CollisionFree)
    {components : List Bytes} {treeId : String} {entries entries' : List Entry}
    (one : TreeAt Names components treeId entries) (other : TreeAt Names components treeId entries') :
    entries = entries' := by
  induction components generalizing treeId with
  | nil =>
    obtain ⟨d, named, rfl⟩ := one
    obtain ⟨d', named', rfl⟩ := other
    exact payload_inj (names_unique sha1 sha256 named named')
  | cons component rest ih =>
    obtain ⟨d, named, entry, listed, rfl, -, below⟩ := one
    obtain ⟨d', named', entry', listed', same, -, below'⟩ := other
    have entries := payload_inj (names_unique sha1 sha256 named named')
    -- one name is bound to one entry, so both walks go on with the same subtree
    have bound := find_binding d.distinct listed
    have bound' := find_binding d'.distinct listed'
    rw [same, ← entries] at bound'
    have subtree := binding_inj (Option.some.inj (bound.symm.trans bound'))
    rw [← subtree] at below'
    exact ih below below'

theorem commitAt_unique (sha1 : Sha1.CollisionFree) (sha256 : Sha256.CollisionFree)
    {revision : String} {components : List Bytes} {entries entries' : List Entry}
    (one : CommitAt Names revision components entries)
    (other : CommitAt Names revision components entries') : entries = entries' := by
  obtain ⟨commit, treeId, named, line, below⟩ := one
  obtain ⟨commit', treeId', named', line', below'⟩ := other
  obtain rfl := names_unique sha1 sha256 named named'
  have trees := (rootTree_iff.mpr line).symm.trans (rootTree_iff.mpr line')
  cases trees
  exact treeAt_unique sha1 sha256 below below'

end

/-! ## A tree that Git may not list -/

namespace GitTree.Samples

attribute [local instance] Credentials.Samples.spelledBytes

def zeros : String := "0000000000000000000000000000000000000000"

/-- SHA-1 as if one object had the identifier of zeros: the digest of any other spells it out. -/
@[reducible]
def pinnedSha1 (object : Bytes) : Sha1 :=
  ⟨fun bytes => if bytes = object then zeros else "x" ++ Credentials.Samples.spelledBytes.hexdigest bytes⟩

theorem pinned_ideal (object : Bytes) : @Sha1.CollisionFree (pinnedSha1 object) := by
  let := pinnedSha1 object
  have marked : ∀ text : String, zeros ≠ "x" ++ text := by
    intro text same
    have heads := congrArg (fun s : String => s.toList.head?) same
    simp only [String.toList_append] at heads
    exact absurd (show some '0' = some 'x' from heads) (by decide)
  refine ⟨fun a b same => ?_⟩
  change (if a = object then zeros else _) = (if b = object then zeros else _) at same
  split_ifs at same with ha hb hb
  · rw [ha, hb]
  · exact absurd same (marked _)
  · exact absurd same.symm (marked _)
  · have chars := congrArg String.toList same
    rw [String.toList_append, String.toList_append] at chars
    exact Credentials.Samples.ideal.inj _ _
      (String.toList_injective (List.append_cancel_left chars))

/-- A repository with one tree. -/
def holding (payload : Bytes) : Repository :=
  ⟨fun type id => if type = .tree ∧ id = zeros then some payload else none⟩

def emptyTree : GitDirectory 20 where
  entries := []
  wellformed _ listed := absurd listed List.not_mem_nil
  distinct := List.nodup_nil
  limited := Nat.zero_le _

theorem zeros_isObjectId : IsObjectId zeros := by
  have digits : (zeros.toList.all (· ∈ "0123456789abcdef".toList)) = true := by decide
  exact ⟨.inl (by decide), fun c listed => of_decide_eq_true (List.all_eq_true.mp digits c listed)⟩

/-- A tree of one file with a long name. -/
def longName (size : Nat) (positive : 0 < size) : GitDirectory 20 where
  entries := [⟨ascii "100644".toList, List.replicate size 97, List.replicate 20 0⟩]
  wellformed := by
    rw [List.forall_mem_singleton]
    refine ⟨(by decide : ascii "100644".toList ∈ MODES), ?_, ?_, ?_, ?_, List.length_replicate⟩
    · exact fun empty => absurd (List.replicate_eq_nil_iff _ |>.mp empty) (by omega)
    · exact fun listed => absurd (List.eq_of_mem_replicate listed) (by decide)
    · exact fun listed => absurd (List.eq_of_mem_replicate listed) (by decide)
    · intro dots
      have first : (97 : UInt8) ∈ List.replicate size (97 : UInt8) :=
        List.mem_replicate.mpr ⟨by omega, rfl⟩
      have foreign : ∀ name ∈ DOTS, (97 : UInt8) ∉ name := by decide
      exact foreign _ dots first
  distinct := List.nodup_singleton _
  limited := (by decide : 1 ≤ MAX_GIT_TREE_ENTRIES)

theorem longName_payload (size : Nat) (positive : 0 < size) :
    (longName size positive).payload.length = size + 28 := by
  simp only [GitDirectory.payload, longName, encode, Entry.encode, List.flatMap_cons,
    List.flatMap_nil, List.append_nil, List.length_append, List.length_cons, List.length_replicate]
  change 6 + (size + (20 + 1) + 1) = _
  omega

theorem refused_of_long {payload : Bytes} (long : MAX_GIT_TREE_BYTES < payload.length) :
    @Names (pinnedSha1 (framed .tree payload)) _ .tree zeros payload ∧
      @verifiedTreeEntries (pinnedSha1 (framed .tree payload)) _ (holding payload) zeros =
        .error (copilotRepositoryScanRejected "repository state command failed") := by
  let := pinnedSha1 (framed .tree payload)
  have named : objectDigest zeros.length (framed .tree payload) = zeros := by
    rw [objectDigest, if_pos (by decide)]
    exact if_pos rfl
  have ran : runGit ((holding payload).catFile .tree zeros) MAX_GIT_TREE_BYTES =
      .error (copilotRepositoryScanRejected "repository state command failed") := if_pos long
  have encoded : encodeAscii zeros = .ok (ascii zeros.toList) := by decide
  have valid : validatedObjectId (ascii zeros.toList) none = .ok zeros := by decide
  refine ⟨named, ?_⟩
  unfold verifiedTreeEntries verifiedGitObject
  rw [encoded, ok_bind, valid, ok_bind, ran]
  rfl

end GitTree.Samples

end MasterAgent.Advisory
