import MasterAgent.Base.Terminated
import MasterAgent.Base.Traversal
import MasterAgent.Base.Urls
import MasterAgent.Credentials.Broker

/-!
# Digests of source trees

What the bootstrap script reads of a local source tree and hashes: the files below `src` and `config`,
each as its path and its content with a NUL byte after both.

Results:

1. `digest_determines_iff`: when a digest of terminated records determines what was read;
2. `same_iff_of_digest`: when two readings with one digest are the same;
3. `installationDigest_build`: what an installation digest says about its source.
-/

namespace MasterAgent.Bootstrap
open Base Base.Traversal Base.Terminated Credentials

abbrev Bytes := List UInt8

/-- Names from a directory downwards. -/
abbrev Path := List String

def MAX_SOURCE_FILES : Nat := 10000

def MAX_SOURCE_BYTES : Nat := 128 * 1024 * 1024

def bootstrapError (message : String) : Exn := ⟨.runtime, "BootstrapError", message⟩

/-! ## Directory trees -/

/-- What stands under a name. A symbolic link may lead to a regular file. -/
inductive Node where
  | file (content : Bytes)
  | directory (children : List (String × Node))
  | link (target : Option Bytes)
  | special

namespace Node

def isDirectory : Node → Bool
  | .directory _ => true
  | _ => false

def isLink : Node → Bool
  | .link _ => true
  | _ => false

/-- The content that `path.resolve()` leads to, when that is a regular file. -/
def resolved : Node → Option Bytes
  | .file content => some content
  | .link target => target
  | _ => none

/-- `path.is_file()` -/
def isFile (node : Node) : Bool := node.resolved.isSome

/-- `path / name`; a link is not followed. -/
def child (node : Node) (name : String) : Option Node :=
  match node with
  | .directory children => children.lookup name
  | _ => none

def at? (node : Node) : Path → Option Node
  | [] => some node
  | name :: path => (node.child name).bind fun inner => inner.at? path

mutual
def size : Node → Nat
  | .directory children => sizes children + 1
  | _ => 1
def sizes : List (String × Node) → Nat
  | [] => 0
  | (_, node) :: children => node.size + sizes children
end

end Node

/-- The directories within a directory, with their paths. -/
def subdirectories (located : Path × Node) : List (Path × Node) :=
  match located.2 with
  | .directory children =>
    ((children.filter (·.2.isDirectory)).map fun c => (located.1 ++ [c.1], c.2)).reverse
  | _ => []

theorem subdirectories_smaller (located : Path × Node) :
    ((subdirectories located).map (·.2.size)).sum < located.2.size := by
  have counted (parent : Path) (children : List (String × Node)) :
      ((((children.filter (·.2.isDirectory)).map fun c => (parent ++ [c.1], c.2)).reverse).map
        (·.2.size)).sum ≤ Node.sizes children := by
    rw [List.map_reverse, List.sum_reverse, List.map_map]
    induction children with
    | nil => exact Nat.le_refl 0
    | cons c children ih =>
      rw [List.filter_cons, Node.sizes]
      split
      · rw [List.map_cons, List.sum_cons]
        exact Nat.add_le_add_left ih _
      · exact ih.trans (Nat.le_add_left ..)
  obtain ⟨parent, node⟩ := located
  cases node with
  | directory children =>
    change _ < (Node.directory children).size
    rw [Node.size]
    exact Nat.lt_succ_of_le (counted parent children)
  | _ => simp [subdirectories, Node.size]

/-- Directories and those within them. The last one that was found is looked at first. -/
def directories : Shape (Path × Node) where
  children := subdirectories
  size located := located.2.size
  smaller := subdirectories_smaller

/-- The files and the entries that were found so far. -/
structure Listing where
  files : List (Path × Node)
  entries : List Path

/-- One entry of a directory. -/
def listEntry (description : String) (maximumEntries : Nat) (path : Path) (node : Node) (l : Listing) :
    Except Exn Listing :=
  if l.entries.length + 1 > maximumEntries then
    .error (bootstrapError (description ++ " contains too many entries"))
  else
    match node with
    | .link _ => .error (bootstrapError (description ++ " contains a symbolic link"))
    | .directory _ => .ok ⟨l.files, l.entries ++ [path]⟩
    | .file content => .ok ⟨l.files ++ [(path, .file content)], l.entries ++ [path]⟩
    | .special => .error (bootstrapError (description ++ " contains a special file"))

/-- What the loop does with a directory that is pending. -/
def listDirectory (description : String) (maximumEntries : Nat) (located : Path × Node) (l : Listing) :
    Except Exn Listing :=
  match located.2 with
  | .directory children =>
    children.foldlM (fun l c => listEntry description maximumEntries (located.1 ++ [c.1]) c.2 l) l
  | _ => .ok l

/-- `_bounded_regular_tree` -/
def boundedRegularTree (root : Path) (tree : Node) (maximumEntries : Nat) (description : String) :
    Except Exn Listing :=
  if !tree.isDirectory then
    .error (bootstrapError (description ++ " contains a symbolic or non-directory root"))
  else
    Traversal.run directories ⟨listDirectory description maximumEntries, fun _ l => l⟩
      [.enter (root, tree)] ⟨[], []⟩

/-! ## Reading -/

/-- `_read_stable_regular_file` of a file that does not change meanwhile. -/
def readStableRegularFile (node : Option Node) (maximumBytes : Nat) (description : String) :
    Except Exn Bytes :=
  match node with
  | none => .error (bootstrapError (description ++ " could not be read safely"))
  | some (.file content) =>
    if content.length > maximumBytes then
      .error (bootstrapError (description ++ " is not a bounded regular file"))
    else .ok content
  | some _ => .error (bootstrapError (description ++ " is not a bounded regular file"))

/-- The loop that reads the selected files, with the texts of its errors. -/
def readAll (unread tooLarge : String) : List (String × Node) → Nat → Except Exn (List (String × Bytes))
  | [], _ => .ok []
  | (relative, node) :: rest, total =>
    match readStableRegularFile (some node) (MAX_SOURCE_BYTES - total) unread with
    | .error _ => .error (bootstrapError unread)
    | .ok payload =>
      if total + payload.length > MAX_SOURCE_BYTES then .error (bootstrapError tooLarge)
      else readAll unread tooLarge rest (total + payload.length) >>= fun later =>
        .ok ((relative, payload) :: later)

/-! ## Source trees -/

/-- `path.as_posix()` of a relative path. -/
def asPosix (path : Path) : String := "/".intercalate path

/-- `path.suffix` of a path with this last name. -/
def suffixOf (name : String) : String :=
  let ending := name.toList.reverse.takeWhile (· != '.')
  match name.toList.reverse.dropWhile (· != '.') with
  | _ :: stem => if stem.isEmpty || ending.isEmpty then "" else String.ofList ('.' :: ending.reverse)
  | [] => ""

/-- The files that are hashed: no caches, no package metadata, no compiled modules. -/
def isBuildSource (parts : Path) : Bool :=
  !parts.contains "__pycache__" && !parts.any (fun part => ".egg-info".toList.isSuffixOf part.toList) &&
    !([".pyc", ".pyo"].contains (suffixOf (parts.getLastD "")))

/-- A resolved path, by its parts, and what is there. No name holds a NUL character. -/
structure Source where
  parts : Path
  node : Node
  named : ∀ part ∈ parts, '\x00' ∉ part.toList

/-- `str(path)` -/
def Source.text (source : Source) : String := "/" ++ asPosix source.parts

/-- The files below one of the two hashed directories. -/
def selectedBelow (source : Source) (rootName : String) : Except Exn (List (Path × Node)) :=
  match source.node.child rootName with
  | none => .ok []
  | some tree =>
    if tree.isLink then .error (bootstrapError "local package source contains a symbolic link")
    else boundedRegularTree [rootName] tree (MAX_SOURCE_FILES * 2) "local package source" >>= fun l =>
      .ok (l.files.filter fun f => isBuildSource (source.parts ++ f.1))

/-- The candidates in the order in which they are hashed, with their relative paths. -/
def candidates (source : Source) : Except Exn (List (String × Node)) :=
  if source.node.isFile then .ok [(source.parts.getLastD "", source.node)]
  else
    selectedBelow source "src" >>= fun below =>
      selectedBelow source "config" >>= fun configured =>
        .ok (sortBy (·.1) ((below ++ configured).map fun f => (asPosix f.1, f.2)))

/-- The hashed files of a source in the order of their paths, as `_source_build_digest` reads them. -/
def hashedFiles (source : Source) : Except Exn (List (String × Bytes)) :=
  candidates source >>= fun selected =>
    if selected.length > MAX_SOURCE_FILES then
      .error (bootstrapError "local package source contains too many files")
    else readAll "local package source could not be hashed"
      "local package source exceeds the build digest limit" selected 0

/-- What is written for files: each path and each content before a NUL byte. -/
def records (files : List (String × Bytes)) : List Bytes := files.flatMap fun f => [utf8 f.1, f.2]

section
variable [Sha256]

/-- `_source_build_digest` -/
def sourceBuildDigest (source : Source) : Except Exn String :=
  hashedFiles source >>= fun files => .ok (Sha256.hexdigest (terminated 0 (records files)))

/-- `_metadata_digest` -/
def metadataDigest (root : Source) : Except Exn String :=
  ["pyproject.toml", "setup.py"].mapM (fun relative =>
    match readStableRegularFile (root.node.child relative) (4 * 1024 * 1024)
        ("project metadata " ++ relative) with
    | .error e => .error (bootstrapError ("cannot read " ++ root.text ++ "/" ++ relative ++ ": " ++ e.message))
    | .ok payload => .ok (relative, payload)) >>= fun files =>
      .ok (Sha256.hexdigest (terminated 0 (records files)))

/-- `_installation_digest` -/
def installationDigest (root source : Source) : Except Exn String :=
  metadataDigest (if source.node.isDirectory then source else root) >>= fun metadata =>
    sourceBuildDigest source >>= fun build =>
      .ok (Sha256.hexdigest (terminated 0 [utf8 metadata, utf8 source.text] ++ utf8 build))

end

/-! ## What a digest determines -/

theorem text_plain (source : Source) : '\x00' ∉ source.text.toList := by
  unfold Source.text asPosix
  rw [String.toList_append, String.toList_intercalate, List.mem_append, not_or]
  refine ⟨by decide, fun held => ?_⟩
  rcases Urls.mem_intercalate held with found | ⟨segment, member, found⟩
  · exact absurd found (by decide)
  · obtain ⟨part, listed, rfl⟩ := List.mem_map.mp member
    exact source.named part listed found

/-- A hexadecimal digest holds no NUL character. -/
def Hexadecimal [Sha256] : Prop := ∀ bytes, '\x00' ∉ (Sha256.hexdigest bytes).toList

/-- No two of the hashed byte strings share a digest. -/
def Separates [Sha256] (hashed : Bytes → Prop) : Prop :=
  ∀ x y, hashed x → hashed y → Sha256.hexdigest x = Sha256.hexdigest y → x = y

section
variable [Sha256] {hashed : Bytes → Prop} {X : Type}

/-- The digest of what was read, written as terminated records. -/
def digestOf (code : X → List Bytes) (read : Except Exn X) : Except Exn String :=
  read >>= fun x => .ok (Sha256.hexdigest (terminated 0 (code x)))

/-- What is written of what was read is among the hashed byte strings. -/
def Within (hashed : Bytes → Prop) (code : X → List Bytes) (read : Except Exn X) : Prop :=
  ∀ x, read = .ok x → hashed (terminated 0 (code x))

/-- What was read is the same texts between NUL bytes, cut at others. -/
def Recuttable (code : X → List Bytes) (a b : Except Exn X) : Prop :=
  ∃ x y, a = .ok x ∧ b = .ok y ∧ Recut 0 (code x) (code y)

variable {code : X → List Bytes}

theorem digestOf_ok {read : Except Exn X} {digest : String} : digestOf code read = .ok digest ↔
    ∃ x, read = .ok x ∧ Sha256.hexdigest (terminated 0 (code x)) = digest := by
  unfold digestOf
  rw [bind_ok_iff]
  simp only [Except.ok.injEq]

/-- Contents with one digest are the same unless one is the other recut. -/
theorem same_iff_of_digest (apart : Separates hashed) (inj : ∀ x y, code x = code y → x = y)
    {a b : Except Exn X} (inA : Within hashed code a) (inB : Within hashed code b) {digest : String}
    (ha : digestOf code a = .ok digest) (hb : digestOf code b = .ok digest) :
    a = b ↔ ¬ Recuttable code a b := by
  obtain ⟨x, rfl, hx⟩ := digestOf_ok.mp ha
  obtain ⟨y, rfl, hy⟩ := digestOf_ok.mp hb
  have written := apart _ _ (inA x rfl) (inB y rfl) (hx.trans hy.symm)
  have kept := eq_iff_not_recut written
  constructor
  · rintro same ⟨x', y', isX, isY, recut⟩
    cases isX
    cases isY
    exact kept.mp (congrArg code (Except.ok.inj same)) recut
  · intro whole
    exact congrArg _ (inj x y (kept.mpr fun recut => whole ⟨x, y, rfl, rfl, recut⟩))

/-- A digest determines what was read unless it can be recut. -/
theorem digest_determines_iff (apart : Separates hashed) (inj : ∀ x y, code x = code y → x = y)
    {a b : Except Exn X} (inA : Within hashed code a) (inB : Within hashed code b) :
    (∀ digest, digestOf code a = .ok digest → digestOf code b = .ok digest → a = b) ↔
      ¬ Recuttable code a b := by
  constructor
  · rintro determined ⟨x, y, rfl, rfl, recut⟩
    have written := terminated_eq_iff.mpr recut.texts
    have equal := Except.ok.inj (determined _ rfl (digestOf_ok.mpr ⟨y, rfl, by rw [written]⟩))
    exact recut.cuts (by rw [equal])
  · exact fun kept digest ha hb => (same_iff_of_digest apart inj inA inB ha hb).mpr kept

end

/-- Files are determined by their records. -/
theorem records_inj : ∀ xs ys : List (String × Bytes), records xs = records ys → xs = ys
  | [], [], _ => rfl
  | [], _ :: _, same => nomatch same
  | _ :: _, [], same => nomatch same
  | f :: xs, g :: ys, same => by
    obtain ⟨names, rest⟩ := List.cons.inj same
    obtain ⟨contents, later⟩ := List.cons.inj rest
    have first : f = g := Prod.ext (utf8_inj names) contents
    rw [first, records_inj xs ys later]

section
variable [Sha256] {hashed : Bytes → Prop}

/-- What `_installation_digest` hashes. -/
def installationMaterial (root source : Source) : Except Exn Bytes :=
  metadataDigest (if source.node.isDirectory then source else root) >>= fun metadata =>
    sourceBuildDigest source >>= fun build =>
      .ok (terminated 0 [utf8 metadata, utf8 source.text] ++ utf8 build)

theorem installationDigest_ok {root source : Source} {digest : String} :
    installationDigest root source = .ok digest ↔
      ∃ material, installationMaterial root source = .ok material ∧ Sha256.hexdigest material = digest := by
  unfold installationDigest installationMaterial
  simp only [bind_ok_iff, Except.ok.injEq]
  grind

/-- Sources with one installation digest have one digest. -/
theorem installationDigest_build (apart : Separates hashed) (hexadecimal : Hexadecimal)
    {root root' source source' : Source} {digest : String}
    (here : installationDigest root source = .ok digest)
    (there : installationDigest root' source' = .ok digest)
    (inHere : ∀ material, installationMaterial root source = .ok material → hashed material)
    (inThere : ∀ material, installationMaterial root' source' = .ok material → hashed material) :
    ∃ build, sourceBuildDigest source = .ok build ∧ sourceBuildDigest source' = .ok build := by
  obtain ⟨material, written, made⟩ := installationDigest_ok.mp here
  obtain ⟨material', written', made'⟩ := installationDigest_ok.mp there
  have equal := apart _ _ (inHere _ written) (inThere _ written') (made.trans made'.symm)
  obtain ⟨metadata, described, rest⟩ := of_bind_ok written
  obtain ⟨build, built, shape⟩ := of_bind_ok rest
  obtain ⟨metadata', described', rest'⟩ := of_bind_ok written'
  obtain ⟨build', built', shape'⟩ := of_bind_ok rest'
  rw [← Except.ok.inj shape, ← Except.ok.inj shape'] at equal
  have plain {root : Source} (source : Source) {metadata : String}
      (described : metadataDigest root = .ok metadata) :
      ∀ r ∈ [utf8 metadata, utf8 source.text], (0 : UInt8) ∉ r := by
    obtain ⟨files, -, digest⟩ := of_bind_ok described
    cases digest
    rw [List.forall_mem_cons, List.forall_mem_singleton]
    exact ⟨fun zero => hexadecimal _ (zero_mem_utf8 zero), fun zero => text_plain source (zero_mem_utf8 zero)⟩
  have same := (terminated_cut (by rfl) (plain source described) (plain source' described') equal).2
  exact ⟨build, built, by rw [built', utf8_inj same]⟩

end

end MasterAgent.Bootstrap
