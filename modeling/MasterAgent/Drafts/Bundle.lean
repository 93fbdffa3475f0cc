import Mathlib.Algebra.Ring.Nat
import Mathlib.Data.List.Nodup
import MasterAgent.Base.Transfer
import MasterAgent.Errors

/-!
# Artifact bundles

`_write_bundle` and `_create_bytes` on POSIX: every file of a bundle is created under its final name,
and the files of a bundle that fails are removed again. One step of the file system may raise.

Results:

1. `wp_createBytes`: what one creation leaves, and what it can be blamed on when it raises;
2. `bundle_all_or_nothing_iff`: which failing step leaves a bundle half done, and what a budget has
   used after any number of bundles.
-/

namespace MasterAgent.Drafts
open Base Base.Effect

/-! ## State -/

abbrev Bytes := List UInt8

/-- A regular file of the current user with one name. -/
structure Node where
  inode : Nat
  content : Bytes
deriving DecidableEq

/-- The entries of the output directory, and the number that the next file gets. -/
structure Directory where
  entries : List (String × Node)
  nextInode : Nat

/-- `ArtifactBudget`: it never retains more than its ceiling. -/
structure ArtifactBudget where
  maxBytes : Nat
  usedBytes : Nat
  within : usedBytes ≤ maxBytes

/-- `reserve` -/
def ArtifactBudget.reserve (budget : ArtifactBudget) (amount : Nat) : Except Exn ArtifactBudget :=
  if fits : budget.usedBytes + amount ≤ budget.maxBytes then
    .ok { budget with usedBytes := budget.usedBytes + amount, within := fits }
  else .error (connectorError "aggregate generated artifact budget would be exceeded")

/-- `release` -/
def ArtifactBudget.release (budget : ArtifactBudget) (amount : Nat) : Except Exn ArtifactBudget :=
  if budget.usedBytes < amount then
    .error (runtimeError "artifact budget release is inconsistent")
  else .ok
    { budget with
      usedBytes := budget.usedBytes - amount
      within := Nat.le_trans (Nat.sub_le _ _) budget.within }

/-- One file of a bundle; `inRoot` says whether its path is a name in the pinned directory. -/
structure BundleFile where
  name : String
  inRoot : Bool
  payload : Bytes
  mediaType : String

/-- `GeneratedArtifact` of a file, with its digest. -/
structure GeneratedArtifact where
  name : String
  sha256 : String
  mediaType : String
  size : Nat

/-! ## Failing steps -/

/-- The steps of one creation. -/
inductive FilePoint where
  | pinned | opened | fchmod | fstat | write (round : Nat) | fsync | validate | stat | lseek
  | read (round : Nat) | readEnd | fsyncDirectory | validateAgain
deriving DecidableEq

/-- The steps that look at a file and remove it. -/
inductive RemovePoint where
  | stat | unlink
deriving DecidableEq

/-- A step of the file system, with the file it is made for. -/
inductive Step where
  | create (i : Nat) (point : FilePoint)
  | undo (i : Nat) (point : RemovePoint)
  | rollback (i : Nat) (point : RemovePoint)
deriving DecidableEq

def osError (message : String) : Exn := ⟨.osError, "OSError", message⟩

/-- The step raises when it is the one that fails. -/
def stepAt (failing : Option Step) (step : Step) : Effect Directory Exn Unit :=
  .point (if failing = some step then .raises (osError "input/output error") else .passes)

/-! ## One file -/

def Directory.lookup (d : Directory) (name : String) : Option Node := d.entries.lookup name

/-- A new file without bytes. -/
def Directory.create (d : Directory) (name : String) : Directory :=
  ⟨d.entries ++ [(name, ⟨d.nextInode, []⟩)], d.nextInode + 1⟩

/-- More bytes at the end of a file that is open. -/
def Directory.append (d : Directory) (inode : Nat) (more : Bytes) : Directory :=
  { d with entries := d.entries.map fun (name, node) =>
      if node.inode = inode then (name, { node with content := node.content ++ more })
      else (name, node) }

def Directory.unlink (d : Directory) (name : String) : Directory :=
  { d with entries := d.entries.filter fun entry => entry.1 ≠ name }

/-- The bytes of the file that is open. -/
def Directory.contentOf (d : Directory) (inode : Nat) : Bytes :=
  ((d.entries.find? fun entry => entry.2.inode = inode).map (·.2.content)).getD []

/-- `while remaining: written = os.write(…)` -/
def writeAll (failing : Option Step) (i inode : Nat) (transfers : Transfers) (payload : Bytes) :
    Effect Directory Exn Unit :=
  writeRounds (fun round => stepAt failing (.create i (.write round)))
    (fun more d => d.append inode more) transfers payload.length 0 payload

/-- `while remaining_bytes: chunk = os.read(…)`, from the bytes that have not been read. -/
def readAll (failing : Option Step) (i : Nat) (transfers : Transfers) :
    (fuel round remaining : Nat) → (unread observed : Bytes) → Effect Directory Exn (Bytes × Bytes)
  | 0, _, _, unread, observed => pure (unread, observed)
  | fuel + 1, round, remaining, unread, observed =>
      if remaining = 0 then pure (unread, observed)
      else
        let wanted := min (min (1024 * 1024) remaining) (transfers.amount round)
        let chunk := unread.take wanted
        (stepAt failing (.create i (.read round))).bind fun _ =>
          if chunk = [] then
            Effect.raise (configurationError "generated artifact bytes changed during write")
          else readAll failing i transfers fuel (round + 1) (remaining - chunk.length)
            (unread.drop wanted) (observed ++ chunk)

/-- `_unlink_if_identity` -/
def unlinkIfIdentity (stat unlink : Effect Directory Exn Unit) (name : String) (inode : Nat) :
    Effect Directory Exn Unit := do
  stat
  let d ← Effect.get
  match d.lookup name with
  | none => pure ()
  | some node =>
      if node.inode ≠ inode then pure ()
      else do
        unlink
        Effect.modify fun d => d.unlink name

/-- What follows the creation, until the file is completed. -/
def completeFile (digest : Bytes → String) (failing : Option Step) (transfers : Transfers) (i : Nat)
    (name : String) (payload : Bytes) (inode : Nat) : Effect Directory Exn Unit := do
  writeAll failing i inode transfers payload
  stepAt failing (.create i .fsync)
  stepAt failing (.create i .validate)
  stepAt failing (.create i .stat)
  let d ← Effect.get
  if (d.lookup name).map (·.inode) ≠ some inode then
    Effect.raise (configurationError "generated artifact publication was replaced")
  else do
    stepAt failing (.create i .lseek)
    let (unread, observed) ← readAll failing i transfers payload.length 0 payload.length
      (d.contentOf inode) []
    stepAt failing (.create i .readEnd)
    if unread ≠ [] ∨ observed.length ≠ payload.length ∨ digest observed ≠ digest payload then
      Effect.raise (configurationError "generated artifact bytes changed during write")
    else do
      stepAt failing (.create i .fsyncDirectory)
      stepAt failing (.create i .validateAgain)

/-- The exceptions that `_create_bytes` turns into its own. -/
def changedError (raised : Exn) : Exn :=
  if raised.kind = .connector then raised
  else connectorError "generated artifact destination changed"

/-- `_create_bytes`: the file's number, which stands for its identity. The identity is known only
after `fchmod` and the first `fstat`; before that nothing removes the file. -/
def createBytes (digest : Bytes → String) (failing : Option Step) (transfers : Transfers) (i : Nat)
    (name : String) (payload : Bytes) : Effect Directory Exn Nat := do
  let inode ← Effect.handle
    (do
      stepAt failing (.create i .opened)
      let d ← Effect.get
      if (d.lookup name).isSome then
        Effect.raise (connectorError
          "generated artifact already exists; use a fresh output name or directory")
      else do
        Effect.modify fun d => d.create name
        stepAt failing (.create i .fchmod)
        stepAt failing (.create i .fstat)
        pure d.nextInode)
    fun raised => Effect.raise (changedError raised)
  Effect.cleanup
    (Effect.handle (completeFile digest failing transfers i name payload inode) fun raised =>
      Effect.raise (changedError raised))
    (unlinkIfIdentity (stepAt failing (.undo i .stat)) (stepAt failing (.undo i .unlink)) name inode)
  pure inode

/-- One file of a bundle: `_pinned_name`, then its creation. -/
def createFile (digest : Bytes → String) (failing : Option Step) (transfers : Transfers) (i : Nat)
    (file : BundleFile) : Effect Directory Exn Nat := do
  stepAt failing (.create i .pinned)
  if file.inRoot = false then
    Effect.raise (connectorError "generated artifact escaped the output root")
  else createBytes digest failing transfers i file.name file.payload

/-! ## Bundles -/

/-- A file that the bundle has created: its place in the bundle, its name and its identity. -/
structure Owned where
  place : Nat
  name : String
  inode : Nat

/-- The loop over the files, up to the first that raises. -/
def createAll (digest : Bytes → String) (failing : Option Step) (transfers : Transfers) :
    Nat → List BundleFile → List Owned → Effect Directory Exn (List Owned × Option Exn)
  | _, [], owned => pure (owned, none)
  | i, file :: rest, owned => do
      match ← Effect.attempt (createFile digest failing transfers i file) with
      | .error raised => pure (owned, some raised)
      | .ok inode => createAll digest failing transfers (i + 1) rest (owned ++ [⟨i, file.name, inode⟩])

/-- The removal of the files in the order they are given. -/
def rollback (failing : Option Step) : List Owned → Effect Directory Exn Unit
  | [] => pure ()
  | file :: rest => do
      unlinkIfIdentity (stepAt failing (.rollback file.place .stat))
        (stepAt failing (.rollback file.place .unlink)) file.name file.inode
      rollback failing rest

def MAX_LOCAL_ARTIFACT_BYTES : Int := 16 * 1024 * 1024

def totalBytes (files : List BundleFile) : Nat := (files.map (·.payload.length)).sum

/-- `_write_bundle`: the directory and the budget it leaves, and how it ends. -/
def writeBundle (digest : Bytes → String) (failing : Option Step) (transfers : Transfers)
    (files : List BundleFile) (maxOutputBytes : Int) (d : Directory) (budget : ArtifactBudget) :
    (Directory × ArtifactBudget) × Except Exn (List GeneratedArtifact) :=
  if files = [] then
    ((d, budget), .error (connectorError "generated artifact bundle must not be empty"))
  else if maxOutputBytes ≤ 0 ∨ MAX_LOCAL_ARTIFACT_BYTES < maxOutputBytes then
    ((d, budget), .error (connectorError "generated artifact output quota is invalid"))
  else if maxOutputBytes < totalBytes files then
    ((d, budget), .error (connectorError
      "generated artifact bundle exceeds the capability output quota"))
  else match budget.reserve (totalBytes files) with
    | .error raised => ((d, budget), .error raised)
    | .ok reserved =>
        match createAll digest failing transfers 0 files [] d with
        | (d, .ok (_, none)) => ((d, reserved), .ok (files.map fun file =>
            ⟨file.name, digest file.payload, file.mediaType, file.payload.length⟩))
        | (d, .ok (owned, some raised)) =>
            match rollback failing owned.reverse d with
            | (d, .ok ()) =>
                match reserved.release (totalBytes files) with
                | .ok released => ((d, released), .error raised)
                | .error inconsistent => ((d, reserved), .error inconsistent)
            | (d, .raised failed) => ((d, reserved), .error failed)
            | (d, .crashed) => ((d, reserved), .error raised)
        | (d, .raised raised) => ((d, reserved), .error raised)
        | (d, .crashed) => ((d, reserved), .error (osError "stopped"))

/-! ## The directory with a new file -/

/-- The directory after a file has been created and so much has been written. -/
def Directory.adding (d : Directory) (name : String) (content : Bytes) : Directory :=
  ⟨d.entries ++ [(name, ⟨d.nextInode, content⟩)], d.nextInode + 1⟩

/-- Numbers of files are not used again. -/
def Directory.Numbered (d : Directory) : Prop := ∀ entry ∈ d.entries, entry.2.inode < d.nextInode

def Directory.Fresh (d : Directory) (name : String) : Prop := ∀ entry ∈ d.entries, entry.1 ≠ name

section
variable {d : Directory} {name : String} {content : Bytes}

theorem lookup_none_iff : d.lookup name = none ↔ d.Fresh name := by
  unfold Directory.lookup Directory.Fresh
  rw [List.lookup_eq_none_iff]
  refine forall₂_congr fun entry _ => ?_
  rw [bne_iff_ne]
  exact ne_comm

theorem numbered_adding (h : d.Numbered) : (d.adding name content).Numbered := by
  intro entry listed
  rcases List.mem_append.mp listed with old | new
  · exact Nat.lt_succ_of_lt (h entry old)
  · rw [List.mem_singleton.mp new]
    exact Nat.lt_succ_self _

theorem append_adding (h : d.Numbered) (more : Bytes) :
    (d.adding name content).append d.nextInode more = d.adding name (content ++ more) := by
  unfold Directory.append Directory.adding
  congr 1
  rw [List.map_append]
  congr 1
  · refine (List.map_congr_left ?_).trans (List.map_id _)
    rintro ⟨other, node⟩ listed
    exact if_neg (Nat.ne_of_lt (h _ listed))
  · simp

theorem lookup_adding (fresh : d.Fresh name) :
    (d.adding name content).lookup name = some ⟨d.nextInode, content⟩ := by
  have missing : d.entries.lookup name = none := lookup_none_iff.mpr fresh
  unfold Directory.lookup Directory.adding
  rw [List.lookup_append, missing]
  simp

theorem contentOf_adding (h : d.Numbered) :
    (d.adding name content).contentOf d.nextInode = content := by
  have others : d.entries.find? (fun entry => entry.2.inode = d.nextInode) = none := by
    rw [List.find?_eq_none]
    intro entry listed same
    exact absurd (of_decide_eq_true same) (Nat.ne_of_lt (h entry listed))
  unfold Directory.contentOf Directory.adding
  rw [List.find?_append, others]
  simp

theorem unlink_adding (fresh : d.Fresh name) :
    ((d.adding name content).unlink name).entries = d.entries := by
  unfold Directory.unlink Directory.adding
  rw [List.filter_append]
  have kept : d.entries.filter (fun entry => decide (entry.1 ≠ name)) = d.entries :=
    List.filter_eq_self.mpr fun entry listed => decide_eq_true (fresh entry listed)
  rw [kept]
  simp

end

/-! ## Rules for the steps -/

section
variable {failing : Option Step} {digest : Bytes → String} {transfers : Transfers} {i : Nat}
  {name : String} {payload : Bytes} {d : Directory}

open Effect

theorem wp_stepAt {step : Step} {Q : Unit → Directory → Prop} {X : Exn → Directory → Prop}
    {C : Directory → Prop} (passes : failing ≠ some step → Q () d)
    (raises : ∀ e, failing = some step → X e d) : wp (stepAt failing step) Q X C d := by
  unfold stepAt
  refine wp_point.mpr ?_
  by_cases fails : failing = some step
  · rw [if_pos fails]
    refine ⟨nofun, ?_, nofun⟩
    intro e _
    exact raises e fails
  · rw [if_neg fails]
    exact ⟨fun _ => passes fails, fun _ => nofun, nofun⟩

/-- A step of the creation of this file has failed. -/
def Blamed (failing : Option Step) (i : Nat) : Prop := ∃ point, failing = some (.create i point)

theorem wp_writeAll (h : d.Numbered) :
    wp (writeAll failing i d.nextInode transfers payload)
      (fun _ s => s = d.adding name payload)
      (fun _ s => (∃ partially, s = d.adding name partially) ∧ Blamed failing i) (fun _ => False)
      (d.adding name []) := by
  refine wp_mono (wp_writeRounds (fun _ written s => s = d.adding name written) ?_ (Nat.le_refl _)
    (List.nil_append payload) rfl) ?_ (fun _ _ raised => raised) fun _ => id
  · rintro round written remaining _ - - rfl
    refine wp_stepAt (fun _ => append_adding h _) fun _ fails => ⟨⟨written, rfl⟩, _, fails⟩
  · rintro _ s ⟨-, whole⟩
    exact whole

theorem wp_readAll {fuel round : Nat} {unread observed : Bytes} (enough : unread.length ≤ fuel) :
    wp (readAll failing i transfers fuel round unread.length unread observed)
      (fun r s => r = ([], observed ++ unread) ∧ s = d)
      (fun _ s => s = d ∧ Blamed failing i) (fun _ => False) d := by
  induction fuel generalizing round unread observed with
  | zero =>
      obtain rfl := List.length_eq_zero_iff.mp (Nat.le_zero.mp enough)
      exact ⟨by rw [List.append_nil], rfl⟩
  | succ fuel ih =>
  unfold readAll
  split
  · next done =>
      obtain rfl := List.length_eq_zero_iff.mp done
      exact ⟨by rw [List.append_nil], rfl⟩
  next more =>
  dsimp only
  refine wp_bind.mpr (wp_stepAt (fun _ => ?_) fun _ fails => ⟨rfl, _, fails⟩)
  generalize wanted_ : min (min (1024 * 1024) unread.length) (transfers.amount round) = wanted
  have moves := transfers.moves round
  have some_ : 0 < wanted := by omega
  have within : wanted ≤ unread.length := by omega
  have taken : (unread.take wanted).length = wanted := by
    rw [List.length_take]
    omega
  rw [if_neg fun empty => by rw [empty] at taken; exact absurd taken.symm (Nat.ne_of_gt some_)]
  have rest := @ih (round + 1) (unread.drop wanted) (observed ++ unread.take wanted) (by
    rw [List.length_drop]
    omega)
  rw [List.append_assoc, List.take_append_drop, List.length_drop] at rest
  rwa [taken]

/-- The rest of a creation completes the file, or raises for a step of its own. -/
theorem wp_completeFile (h : d.Numbered) (fresh : d.Fresh name) :
    wp (completeFile digest failing transfers i name payload d.nextInode)
      (fun _ s => s = d.adding name payload)
      (fun _ s => (∃ partially, s = d.adding name partially) ∧ Blamed failing i) (fun _ => False)
      (d.adding name []) := by
  have whole : ∀ {point : FilePoint} (_ : Exn), failing = some (.create i point) →
      (∃ partially, d.adding name payload = d.adding name partially) ∧ Blamed failing i :=
    fun _ fails => ⟨⟨payload, rfl⟩, _, fails⟩
  unfold completeFile
  refine wp_bind.mpr (wp_mono (wp_writeAll h) ?_ (fun _ _ raised => raised) fun _ => id)
  rintro _ s rfl
  refine wp_bind.mpr (wp_stepAt (fun _ => ?_) whole)
  refine wp_bind.mpr (wp_stepAt (fun _ => ?_) whole)
  refine wp_bind.mpr (wp_stepAt (fun _ => ?_) whole)
  refine wp_bind.mpr (wp_get.mpr ?_)
  rw [lookup_adding fresh, if_neg (by simp)]
  refine wp_bind.mpr (wp_stepAt (fun _ => ?_) whole)
  rw [contentOf_adding h]
  refine wp_bind.mpr (wp_mono (wp_readAll (Nat.le_refl _)) ?_ ?_ fun _ => id)
  · rintro _ s ⟨rfl, rfl⟩
    refine wp_bind.mpr (wp_stepAt (fun _ => ?_) whole)
    rw [List.nil_append, if_neg (by simp)]
    refine wp_bind.mpr (wp_stepAt (fun _ => ?_) whole)
    exact wp_stepAt (fun _ => rfl) whole
  · rintro _ s ⟨rfl, blamed⟩
    exact ⟨⟨payload, rfl⟩, blamed⟩

/-- One of the two steps that come before the identity of the file is known. -/
def Unprotected (failing : Option Step) (i : Nat) : Prop :=
  failing = some (.create i .fchmod) ∨ failing = some (.create i .fstat)

/-- The removal of a file that is there succeeds when its steps do. -/
theorem wp_unlinkIfIdentity {statStep unlinkStep : Step} {node : Node}
    (found : d.lookup name = some node) {Q : Unit → Directory → Prop} {X : Exn → Directory → Prop}
    (removed : failing ≠ some statStep → failing ≠ some unlinkStep → Q () (d.unlink name))
    (kept : (failing = some statStep ∨ failing = some unlinkStep) → ∀ e, X e d) :
    wp (unlinkIfIdentity (stepAt failing statStep) (stepAt failing unlinkStep) name node.inode)
      Q X (fun _ => False) d := by
  unfold unlinkIfIdentity
  refine wp_bind.mpr (wp_stepAt (fun seen => ?_) fun e fails => kept (.inl fails) e)
  refine wp_bind.mpr (wp_get.mpr ?_)
  rw [found]
  dsimp only
  rw [if_neg (not_not.mpr rfl)]
  refine wp_bind.mpr (wp_stepAt (fun unlinks => ?_) fun e fails => kept (.inr fails) e)
  exact wp_modify.mpr (removed seen unlinks)

/-- What a creation leaves: the whole file; or, when it raises, the entries there were, unless one
of the unprotected steps has failed, which leaves an empty file. -/
theorem wp_createBytes (h : d.Numbered) :
    wp (createBytes digest failing transfers i name payload)
      (fun inode s => d.Fresh name ∧ ¬Unprotected failing i ∧ inode = d.nextInode ∧
        s = d.adding name payload)
      (fun _ s => (d.Fresh name ∧ Unprotected failing i ∧ s = d.adding name []) ∨
        ((d.Fresh name → ¬Unprotected failing i ∧ Blamed failing i) ∧ s.entries = d.entries))
      (fun _ => False) d := by
  unfold createBytes
  refine wp_bind.mpr (wp_handle.mpr (wp_mono (Q := fun inode s => d.Fresh name ∧
    ¬Unprotected failing i ∧ inode = d.nextInode ∧ s = d.adding name []) (X := fun _ s =>
      (d.Fresh name ∧ Unprotected failing i ∧ s = d.adding name []) ∨
        ((d.Fresh name → ¬Unprotected failing i ∧ Blamed failing i) ∧ s.entries = d.entries))
    (C := fun _ => False) ?_ ?_ (fun _ _ raised => raised) fun _ => id))
  · refine wp_bind.mpr (wp_stepAt (fun _ => ?_) fun _ fails => ?_)
    swap
    · refine .inr ⟨fun _ => ⟨?_, _, fails⟩, rfl⟩
      rintro (other | other) <;> rw [fails] at other <;> cases other
    refine wp_bind.mpr (wp_get.mpr ?_)
    cases found : d.lookup name with
    | some node =>
        refine wp_raise.mpr (.inr ⟨fun fresh => ?_, rfl⟩)
        rw [lookup_none_iff.mpr fresh] at found
        cases found
    | none =>
    have fresh := lookup_none_iff.mp found
    refine wp_bind.mpr (wp_modify.mpr ?_)
    refine wp_bind.mpr (wp_stepAt (fun chmod => ?_) fun _ fails => .inl ⟨fresh, .inl fails, rfl⟩)
    refine wp_bind.mpr (wp_stepAt (fun stat => ?_) fun _ fails => .inl ⟨fresh, .inr fails, rfl⟩)
    exact ⟨fresh, fun fails => fails.elim chmod stat, rfl, rfl⟩
  · rintro inode s ⟨fresh, protected_, rfl, rfl⟩
    refine wp_bind.mpr (wp_cleanup.mpr (wp_handle.mpr (wp_mono (wp_completeFile h fresh) ?_ ?_
      fun _ => id)))
    · rintro _ s rfl
      exact ⟨fresh, protected_, rfl, rfl⟩
    · rintro e s ⟨⟨partially, rfl⟩, blamed⟩
      have gone : ∀ s : Directory, s.entries = d.entries →
          (d.Fresh name ∧ Unprotected failing i ∧ s = d.adding name []) ∨
            ((d.Fresh name → ¬Unprotected failing i ∧ Blamed failing i) ∧ s.entries = d.entries) :=
        fun s entries => .inr ⟨fun _ => ⟨protected_, blamed⟩, entries⟩
      refine wp_raise.mpr (wp_unlinkIfIdentity (lookup_adding fresh)
        (fun _ _ => gone _ (unlink_adding fresh)) ?_)
      -- the failing step is one of the creation, so the removal does not fail
      obtain ⟨point, fails⟩ := blamed
      rintro (other | other) <;> rw [fails] at other <;> cases other

/-- The file is a name in the directory that is not taken. -/
def Creatable (d : Directory) (file : BundleFile) : Prop := file.inRoot = true ∧ d.Fresh file.name

theorem wp_createFile {file : BundleFile} (h : d.Numbered) :
    wp (createFile digest failing transfers i file)
      (fun inode s => Creatable d file ∧ ¬Unprotected failing i ∧ inode = d.nextInode ∧
        s = d.adding file.name file.payload)
      (fun _ s => (Creatable d file ∧ Unprotected failing i ∧ s = d.adding file.name []) ∨
        ((Creatable d file → ¬Unprotected failing i ∧ Blamed failing i) ∧ s.entries = d.entries))
      (fun _ => False) d := by
  unfold createFile
  refine wp_bind.mpr (wp_stepAt (fun _ => ?_) fun _ fails => ?_)
  · by_cases outside : file.inRoot = false
    · rw [if_pos outside]
      refine wp_raise.mpr (.inr ⟨fun creatable => ?_, rfl⟩)
      exact absurd (outside.symm.trans creatable.1) Bool.false_ne_true
    · rw [if_neg outside]
      have inside : file.inRoot = true := by simpa using outside
      refine wp_mono (wp_createBytes h) ?_ ?_ fun _ => id
      · rintro inode s ⟨fresh, rest⟩
        exact ⟨⟨inside, fresh⟩, rest⟩
      · rintro e s (⟨fresh, rest⟩ | ⟨blamed, entries⟩)
        · exact .inl ⟨⟨inside, fresh⟩, rest⟩
        · exact .inr ⟨fun creatable => blamed creatable.2, entries⟩
  · refine .inr ⟨fun _ => ⟨?_, _, fails⟩, rfl⟩
    rintro (other | other) <;> rw [fails] at other <;> cases other

/-! ## Rolling back -/

/-- A file that the bundle has created, with its content. -/
structure Created where
  owned : Owned
  content : Bytes

def Created.entry (c : Created) : String × Node := (c.owned.name, ⟨c.owned.inode, c.content⟩)

theorem lookup_split {entries before after : List (String × Node)} {node : Node}
    (shape : entries = before ++ (name, node) :: after)
    (distinct : (entries.map Prod.fst).Nodup) : entries.lookup name = some node := by
  subst shape
  rw [List.map_append, List.map_cons, List.nodup_append] at distinct
  have missing : before.lookup name = none := by
    rw [List.lookup_eq_none_iff]
    intro entry listed
    rw [bne_iff_ne]
    exact (distinct.2.2 _ (List.mem_map_of_mem listed) name List.mem_cons_self).symm
  rw [List.lookup_append, missing]
  simp

theorem filter_split {before after : List (String × Node)} {node : Node}
    (distinct : ((before ++ (name, node) :: after).map Prod.fst).Nodup) :
    (before ++ (name, node) :: after).filter (fun entry => decide (entry.1 ≠ name)) =
      before ++ after := by
  rw [List.map_append, List.map_cons, List.nodup_append, List.nodup_cons] at distinct
  obtain ⟨-, ⟨later, -⟩, apart⟩ := distinct
  have kept (entries : List (String × Node)) (fresh : ∀ entry ∈ entries, entry.1 ≠ name) :
      entries.filter (fun entry => decide (entry.1 ≠ name)) = entries :=
    List.filter_eq_self.mpr fun entry listed => decide_eq_true (fresh entry listed)
  rw [List.filter_append, List.filter_cons_of_neg (by simp),
    kept before fun entry listed => apart _ (List.mem_map_of_mem listed) name List.mem_cons_self,
    kept after fun entry listed same => later (List.mem_map.mpr ⟨entry, listed, same⟩)]

/-- The files are removed from the last to the first. A removal that fails ends it. -/
theorem wp_rollback {base extra : List (String × Node)} : ∀ {created : List Created}
    {s : Directory}, s.entries = base ++ (created.reverse.map Created.entry) ++ extra →
      (s.entries.map Prod.fst).Nodup →
      wp (rollback failing (created.map Created.owned))
        (fun _ s => s.entries = base ++ extra ∧ ∀ c ∈ created, ∀ point,
          failing ≠ some (.rollback c.owned.place point))
        (fun _ s => ∃ c ∈ created, (∃ point, failing = some (.rollback c.owned.place point)) ∧
          c.entry ∈ s.entries) (fun _ => False) s
  | [], s, shape, _ => ⟨by simpa using shape, fun _ none_ => nomatch none_⟩
  | c :: created, s, shape, distinct => by
      have split : s.entries = (base ++ created.reverse.map Created.entry) ++
          (c.owned.name, ⟨c.owned.inode, c.content⟩) :: extra := by
        rw [shape]
        simp [Created.entry]
      have listed : c.entry ∈ s.entries := by
        rw [split]
        exact List.mem_append_right _ List.mem_cons_self
      have found : s.lookup c.owned.name = some ⟨c.owned.inode, c.content⟩ :=
        lookup_split split distinct
      refine wp_bind.mpr (wp_unlinkIfIdentity found (fun seen unlinks => ?_) fun fails _ => ?_)
      · have entries : (s.unlink c.owned.name).entries =
            base ++ created.reverse.map Created.entry ++ extra := by
          show s.entries.filter _ = _
          rw [split] at distinct ⊢
          exact filter_split distinct
        have fewer : ((s.unlink c.owned.name).entries.map Prod.fst).Nodup :=
          distinct.sublist (List.Sublist.map _ List.filter_sublist)
        refine wp_mono (wp_rollback entries fewer) ?_ ?_ fun _ => id
        · rintro _ s' ⟨gone, quiet⟩
          refine ⟨gone, fun c' member point => ?_⟩
          rcases List.mem_cons.mp member with rfl | later
          · cases point with
            | stat => exact seen
            | unlink => exact unlinks
          · exact quiet c' later point
        · rintro e s' ⟨c', later, failed, still⟩
          exact ⟨c', List.mem_cons_of_mem _ later, failed, still⟩
      · refine ⟨c, List.mem_cons_self, ?_, listed⟩
        rcases fails with fails | fails <;> exact ⟨_, fails⟩

/-! ## The loop over the files -/

/-- Entries have different names, and numbers are not used again. -/
structure Directory.Valid (d : Directory) : Prop where
  distinct : (d.entries.map Prod.fst).Nodup
  numbered : d.Numbered

theorem valid_adding {content : Bytes} (h : d.Valid) (fresh : d.Fresh name) :
    (d.adding name content).Valid := by
  refine ⟨?_, numbered_adding h.numbered⟩
  show ((d.entries ++ [(name, (⟨d.nextInode, content⟩ : Node))]).map Prod.fst).Nodup
  rw [List.map_append]
  refine h.distinct.append (List.nodup_singleton _) ?_
  intro other listed same
  obtain ⟨entry, member, rfl⟩ := List.mem_map.mp listed
  exact fresh entry member (List.mem_singleton.mp same)

/-- How many of the files can be created one after the other: those before the first that is outside
the root or has a name that is taken. -/
def creatableCount (taken : List String) : List BundleFile → Nat
  | [] => 0
  | file :: rest =>
      if file.inRoot = true ∧ file.name ∉ taken then creatableCount (taken ++ [file.name]) rest + 1
      else 0

theorem creatable_iff {file : BundleFile} :
    Creatable d file ↔ file.inRoot = true ∧ file.name ∉ d.entries.map Prod.fst := by
  refine and_congr_right fun _ => ?_
  unfold Directory.Fresh
  rw [List.mem_map]
  exact ⟨fun fresh ⟨entry, listed, same⟩ => fresh entry listed same,
    fun absent entry listed same => absent ⟨entry, listed, same⟩⟩

/-- The files of the bundle that have been created stand in their places, from the given one on. -/
structure Placed (i : Nat) (created : List Created) : Prop where
  within : ∀ c ∈ created, i ≤ c.owned.place ∧ c.owned.place < i + created.length
  filled : ∀ j, i ≤ j → j < i + created.length → ∃ c ∈ created, c.owned.place = j

theorem Placed.cons {c : Created} {created : List Created} (h : Placed (i + 1) created)
    (first : c.owned.place = i) : Placed i (c :: created) := by
  constructor
  · intro c' member
    rw [List.length_cons]
    rcases List.mem_cons.mp member with rfl | later
    · omega
    · have := h.within c' later
      omega
  · intro j least most
    rw [List.length_cons] at most
    by_cases here : j = i
    · exact ⟨c, List.mem_cons_self, first.trans here.symm⟩
    · obtain ⟨c', later, place⟩ := h.filled j (by omega) (by omega)
      exact ⟨c', List.mem_cons_of_mem c later, place⟩

/-- All files are there. -/
structure Complete (failing : Option Step) (d : Directory) (i : Nat) (files : List BundleFile)
    (s : Directory) : Prop where
  entries : ∃ created : List Created, s.entries = d.entries ++ created.map Created.entry ∧
    created.map (fun c => (c.owned.name, c.content)) = files.map fun f => (f.name, f.payload)
  distinct : (s.entries.map Prod.fst).Nodup
  count : creatableCount (d.entries.map Prod.fst) files = files.length
  quiet : ∀ k < files.length, ¬Unprotected failing (i + k)

/-- A file has failed; the ones before it are there. -/
structure Stopped (failing : Option Step) (d : Directory) (i : Nat) (files : List BundleFile)
    (created : List Created) (extra : List (String × Node)) (s : Directory) : Prop where
  entries : s.entries = d.entries ++ created.map Created.entry ++ extra
  distinct : (s.entries.map Prod.fst).Nodup
  placed : Placed i created
  short : created.length < files.length
  count : created.length ≤ creatableCount (d.entries.map Prod.fst) files
  quiet : ∀ k < created.length, ¬Unprotected failing (i + k)
  cause : (extra = [] ∧ (created.length < creatableCount (d.entries.map Prod.fst) files →
      ¬Unprotected failing (i + created.length) ∧ Blamed failing (i + created.length))) ∨
    (created.length < creatableCount (d.entries.map Prod.fst) files ∧
      Unprotected failing (i + created.length) ∧ extra ≠ [])

theorem wp_createAll : ∀ {files : List BundleFile} {i : Nat} {owned : List Owned} {d : Directory},
    d.Valid → wp (createAll digest failing transfers i files owned)
      (fun r s => (r.2 = none ∧ Complete failing d i files s) ∨ ∃ raised created extra,
        r = (owned ++ created.map Created.owned, some raised) ∧
          Stopped failing d i files created extra s)
      (fun _ _ => False) (fun _ => False) d
  | [], i, owned, d, h => .inl ⟨rfl, ⟨[], by simp, rfl⟩, h.distinct, rfl, fun _ few => nomatch few⟩
  | file :: rest, i, owned, d, h => by
      refine wp_bind.mpr (wp_attempt.mpr (wp_mono (wp_createFile h.numbered) ?_ ?_ fun _ => id))
      · rintro inode s ⟨creatable, protected_, rfl, rfl⟩
        have known := creatable_iff.mp creatable
        have names : (d.adding file.name file.payload).entries.map Prod.fst =
            d.entries.map Prod.fst ++ [file.name] := List.map_append
        have count : creatableCount (d.entries.map Prod.fst) (file :: rest) =
            creatableCount ((d.adding file.name file.payload).entries.map Prod.fst) rest + 1 := by
          rw [names, creatableCount, if_pos known]
        have quiet {n : Nat} (later : ∀ k < n, ¬Unprotected failing (i + 1 + k)) :
            ∀ k < n + 1, ¬Unprotected failing (i + k) := by
          intro k few
          cases k with
          | zero => exact protected_
          | succ k => rw [Nat.add_comm k 1, ← Nat.add_assoc]; exact later k (by omega)
        refine wp_mono (wp_createAll (valid_adding h creatable.2)) ?_ (fun _ _ => id) fun _ => id
        rintro r s (⟨ended, complete⟩ | ⟨raised, created, extra, shape, stopped⟩)
        · obtain ⟨created, entries, same⟩ := complete.entries
          refine .inl ⟨ended, ⟨⟨⟨i, file.name, d.nextInode⟩, file.payload⟩ :: created, ?_, ?_⟩,
            complete.distinct, ?_, quiet complete.quiet⟩
          · rw [entries]
            simp [Directory.adding, Created.entry]
          · rw [List.map_cons, List.map_cons, same]
          · rw [count, complete.count]
            rfl
        · refine .inr ⟨raised, ⟨⟨i, file.name, d.nextInode⟩, file.payload⟩ :: created, extra, ?_, ?_⟩
          · rw [shape]
            simp
          · have place : i + 1 + created.length = i + (created.length + 1) := by omega
            refine ⟨?_, stopped.distinct, stopped.placed.cons rfl, Nat.succ_lt_succ stopped.short,
              ?_, quiet stopped.quiet, ?_⟩
            · rw [stopped.entries]
              simp [Directory.adding, Created.entry]
            · rw [count]
              exact Nat.succ_le_succ stopped.count
            · rw [count, List.length_cons, ← place]
              refine stopped.cause.imp (fun clean => ⟨clean.1, fun few => clean.2 (by omega)⟩) ?_
              exact fun left => ⟨Nat.succ_lt_succ left.1, left.2⟩
      · rintro e s failed
        refine .inr ⟨e, [], ?_⟩
        have start : Placed i [] := by
          refine ⟨nofun, fun j least most => ?_⟩
          exact absurd (Nat.lt_of_le_of_lt least most) (Nat.lt_irrefl _)
        have possible : Creatable d file ↔ 0 < creatableCount (d.entries.map Prod.fst) (file :: rest) := by
          rw [creatable_iff, creatableCount]
          split
          · next known => exact iff_of_true known (Nat.succ_pos _)
          · next unknown => exact iff_of_false unknown (Nat.lt_irrefl _)
        rcases failed with ⟨creatable, unprotected, rfl⟩ | ⟨blamed, entries⟩
        · refine ⟨[(file.name, ⟨d.nextInode, []⟩)], by simp, ?_⟩
          exact
            { entries := by simp [Directory.adding]
              distinct := (valid_adding h creatable.2).distinct
              placed := start
              short := Nat.succ_pos _
              count := Nat.zero_le _
              quiet := fun _ few => nomatch few
              cause := .inr ⟨possible.mp creatable, unprotected, by simp⟩ }
        · refine ⟨[], by simp, ?_⟩
          exact
            { entries := by simp [entries]
              distinct := entries ▸ h.distinct
              placed := start
              short := Nat.succ_pos _
              count := Nat.zero_le _
              quiet := fun _ few => nomatch few
              cause := .inl ⟨rfl, fun few => blamed (possible.mpr few)⟩ }

/-! ## Whole bundles -/

/-- `_write_bundle` gets as far as its first file. -/
structure Admitted (files : List BundleFile) (maxOutputBytes : Int) (budget : ArtifactBudget) :
    Prop where
  some_file : files ≠ []
  positive : 0 < maxOutputBytes
  bounded : maxOutputBytes ≤ MAX_LOCAL_ARTIFACT_BYTES
  quota : (totalBytes files : Int) ≤ maxOutputBytes
  fits : budget.usedBytes + totalBytes files ≤ budget.maxBytes

/-- The failing step comes between the creation of a file and the moment its identity is known, or
it is a step of the rollback after a file that could not be created. -/
def HalfDone (failing : Option Step) (taken : List String) (files : List BundleFile) : Prop :=
  (∃ i < creatableCount taken files, Unprotected failing i) ∨
    (creatableCount taken files < files.length ∧
      ∃ i < creatableCount taken files, ∃ point, failing = some (.rollback i point))

section
variable {files : List BundleFile} {maxOutputBytes : Int} {s : Directory} {created : List Created}
  {extra : List (String × Node)} {budget : ArtifactBudget}

theorem Complete.not_halfDone (h : Complete failing d 0 files s) :
    ¬HalfDone failing (d.entries.map Prod.fst) files := by
  rintro (⟨i, few, unprotected⟩ | ⟨short, -⟩)
  · rw [h.count] at few
    exact h.quiet i few (by rwa [Nat.zero_add])
  · exact absurd h.count (Nat.ne_of_lt short)

theorem not_blamed {place j : Nat} {point : RemovePoint}
    (fails : failing = some (.rollback place point)) : ¬Blamed failing j := by
  rintro ⟨other, same⟩
  rw [fails] at same
  cases same

/-- A bundle that has stopped and whose files could be removed is half done when a file is left
that nobody owns. -/
theorem Stopped.halfDone_iff (h : Stopped failing d 0 files created extra s)
    (removed : ∀ c ∈ created, ∀ point, failing ≠ some (.rollback c.owned.place point)) :
    HalfDone failing (d.entries.map Prod.fst) files ↔ extra ≠ [] := by
  have cause := h.cause
  rw [Nat.zero_add] at cause
  rcases cause with ⟨clean, blamed⟩ | ⟨few, unprotected, left⟩
  swap
  · exact iff_of_true (.inl ⟨_, few, unprotected⟩) left
  refine iff_of_false ?_ (not_not_intro clean)
  rintro (⟨i, few, unprotected⟩ | ⟨-, i, few, point, fails⟩) <;>
    rcases Nat.lt_or_ge i created.length with before | after
  · exact h.quiet i before (by rwa [Nat.zero_add])
  · obtain ⟨protected_, point, fails⟩ := blamed (Nat.lt_of_le_of_lt after few)
    have here : i = created.length := by
      rcases unprotected with same | same <;> rw [fails] at same <;> cases same <;> rfl
    exact protected_ (here ▸ unprotected)
  · obtain ⟨c, member, place⟩ := h.placed.filled i (Nat.zero_le _) (by omega)
    exact removed c member point (place ▸ fails)
  · exact not_blamed fails (blamed (Nat.lt_of_le_of_lt after few)).2

/-- So is one whose files could not all be removed. -/
theorem Stopped.halfDone (h : Stopped failing d 0 files created extra s) {c : Created}
    (member : c ∈ created) {point : RemovePoint}
    (fails : failing = some (.rollback c.owned.place point)) :
    HalfDone failing (d.entries.map Prod.fst) files := by
  have place := (h.placed.within c member).2
  have cause := h.cause
  rw [Nat.zero_add] at cause place
  rcases cause with ⟨-, blamed⟩ | ⟨-, unprotected, -⟩
  · have all : ¬created.length < creatableCount (d.entries.map Prod.fst) files :=
      fun few => not_blamed fails (blamed few).2
    exact .inr ⟨Nat.lt_of_le_of_lt (Nat.ge_of_not_lt all) h.short, c.owned.place,
      Nat.lt_of_lt_of_le place h.count, point, fails⟩
  · rcases unprotected with same | same <;> rw [fails] at same <;> cases same

theorem Stopped.not_old (h : Stopped failing d 0 files created extra s) {c : Created}
    (member : c ∈ created) : c.entry ∉ d.entries := by
  intro old
  have distinct := h.distinct
  rw [h.entries, List.map_append, List.map_append] at distinct
  have apart := (List.nodup_append.mp (List.nodup_append.mp distinct).1).2.2
  exact apart _ (List.mem_map_of_mem old) _
    (List.mem_map_of_mem (List.mem_map_of_mem member)) rfl

theorem Complete.published (h : Complete failing d 0 files s) :
    (∀ file ∈ files, (s.lookup file.name).map (·.content) = some file.payload) ∧
      ∀ entry ∈ d.entries, entry ∈ s.entries := by
  obtain ⟨created, entries, same⟩ := h.entries
  refine ⟨fun file member => ?_, fun entry old => ?_⟩
  · have pair : (file.name, file.payload) ∈ created.map fun c => (c.owned.name, c.content) := by
      rw [same]
      exact List.mem_map_of_mem (f := fun f => (f.name, f.payload)) member
    obtain ⟨c, made, shape⟩ := List.mem_map.mp pair
    obtain ⟨name, content⟩ := Prod.mk.inj shape
    have listed : c.entry ∈ s.entries := by
      rw [entries]
      exact List.mem_append_right _ (List.mem_map_of_mem made)
    obtain ⟨before, after, split⟩ := List.append_of_mem listed
    rw [Directory.lookup, ← name, lookup_split split h.distinct, ← content]
    rfl
  · rw [entries]
    exact List.mem_append_left _ old

end

/-! ## Calls -/

/-- A call of `_write_bundle`, with the directory it finds. -/
structure Call where
  directory : { d : Directory // d.Valid }
  failing : Option Step
  transfers : Transfers
  files : List BundleFile
  maxOutputBytes : Int

def Call.run (digest : Bytes → String) (call : Call) (budget : ArtifactBudget) :
    (Directory × ArtifactBudget) × Except Exn (List GeneratedArtifact) :=
  writeBundle digest call.failing call.transfers call.files call.maxOutputBytes call.directory.val
    budget

/-- All files of the bundle are there and counted, or nothing has changed. -/
def Call.AllOrNothing (digest : Bytes → String) (call : Call) (budget : ArtifactBudget) : Prop :=
  match call.run digest budget with
  | ((s, after), .ok _) =>
      ((∀ file ∈ call.files, (s.lookup file.name).map (·.content) = some file.payload) ∧
        ∀ entry ∈ call.directory.val.entries, entry ∈ s.entries) ∧
      after.usedBytes = budget.usedBytes + totalBytes call.files
  | ((s, after), .error _) =>
      s.entries = call.directory.val.entries ∧ after.usedBytes = budget.usedBytes

def Call.Spoilt (call : Call) (budget : ArtifactBudget) : Prop :=
  Admitted call.files call.maxOutputBytes budget ∧
    HalfDone call.failing (call.directory.val.entries.map Prod.fst) call.files

theorem allOrNothing_iff (call : Call) (budget : ArtifactBudget) :
    call.AllOrNothing digest budget ↔ ¬call.Spoilt budget := by
  obtain ⟨⟨d, valid⟩, failing, transfers, files, maxOutputBytes⟩ := call
  unfold Call.AllOrNothing Call.run Call.Spoilt writeBundle
  dsimp only
  by_cases empty : files = []
  · rw [if_pos empty]
    exact iff_of_true ⟨rfl, rfl⟩ fun spoilt => spoilt.1.some_file empty
  rw [if_neg empty]
  by_cases invalid : maxOutputBytes ≤ 0 ∨ MAX_LOCAL_ARTIFACT_BYTES < maxOutputBytes
  · rw [if_pos invalid]
    refine iff_of_true ⟨rfl, rfl⟩ fun spoilt => ?_
    have := spoilt.1.positive
    have := spoilt.1.bounded
    omega
  rw [if_neg invalid]
  by_cases excess : maxOutputBytes < totalBytes files
  · rw [if_pos excess]
    exact iff_of_true ⟨rfl, rfl⟩ fun spoilt => absurd spoilt.1.quota (Int.not_le.mpr excess)
  rw [if_neg excess]
  by_cases fits : budget.usedBytes + totalBytes files ≤ budget.maxBytes
  swap
  · have refused : budget.reserve (totalBytes files) =
        .error (connectorError "aggregate generated artifact budget would be exceeded") :=
      dif_neg fits
    rw [refused]
    exact iff_of_true ⟨rfl, rfl⟩ fun spoilt => fits spoilt.1.fits
  have granted : budget.reserve (totalBytes files) =
      .ok { budget with usedBytes := budget.usedBytes + totalBytes files, within := fits } :=
    dif_pos fits
  have admitted : Admitted files maxOutputBytes budget :=
    ⟨empty, by omega, by omega, by omega, fits⟩
  rw [granted]
  have all : wp (createAll digest failing transfers 0 files []) _ _ _ d := wp_createAll valid
  unfold wp at all
  dsimp only
  rcases ended : createAll digest failing transfers 0 files [] d with ⟨s, ⟨owned, stopped⟩ | e | _⟩
  all_goals rw [ended] at all
  swap
  · exact all.elim
  swap
  · exact all.elim
  rcases all with ⟨none_, complete⟩ | ⟨raised, created, extra, shape, stopped⟩
  · cases none_
    exact iff_of_true ⟨complete.published, rfl⟩ fun spoilt => complete.not_halfDone spoilt.2
  obtain ⟨rfl, rfl⟩ := Prod.mk.inj shape
  have entries : s.entries =
      d.entries ++ created.reverse.reverse.map Created.entry ++ extra := by
    rw [List.reverse_reverse]
    exact stopped.entries
  have back : wp (rollback failing (created.reverse.map Created.owned)) _ _ _ s :=
    wp_rollback entries stopped.distinct
  rw [List.map_reverse] at back
  unfold wp at back
  dsimp only [List.nil_append]
  rcases gone : rollback failing (created.map Created.owned).reverse s with ⟨s', _ | e | _⟩
  all_goals rw [gone] at back
  · obtain ⟨entries, removed⟩ := back
    have free := stopped.halfDone_iff fun c member => removed c (List.mem_reverse.mpr member)
    have released : ¬budget.usedBytes + totalBytes files < totalBytes files := by omega
    dsimp only [ArtifactBudget.release]
    rw [if_neg released]
    dsimp only
    rw [entries, List.append_right_eq_self, Nat.add_sub_cancel, and_iff_left rfl, and_iff_right admitted,
      free, not_not]
  · obtain ⟨c, member, ⟨point, fails⟩, still⟩ := back
    rw [List.mem_reverse] at member
    refine iff_of_false (fun unchanged => ?_) (not_not_intro ⟨admitted, ?_⟩)
    · exact stopped.not_old member (unchanged.1 ▸ still)
    · exact stopped.halfDone member fails
  · exact back.elim

/-! ## Runs -/

/-- The budget after calls one after the other, and the bytes of the bundles that were published.
Between two calls their directories may change as they like. -/
def runCalls (digest : Bytes → String) : List Call → ArtifactBudget → ArtifactBudget × Nat
  | [], budget => (budget, 0)
  | call :: rest, budget =>
      let ((_, after), result) := call.run digest budget
      let (last, published) := runCalls digest rest after
      match result with
      | .ok _ => (last, totalBytes call.files + published)
      | .error _ => (last, published)

/-- No call is spoilt, each with the budget it finds. -/
def Unspoilt (digest : Bytes → String) : List Call → ArtifactBudget → Prop
  | [], _ => True
  | call :: rest, budget =>
      ¬call.Spoilt budget ∧ Unspoilt digest rest (call.run digest budget).1.2

theorem maxBytes_run (call : Call) (budget : ArtifactBudget) :
    (call.run digest budget).1.2.maxBytes = budget.maxBytes := by
  unfold Call.run writeBundle ArtifactBudget.reserve
  by_cases fits : budget.usedBytes + totalBytes call.files ≤ budget.maxBytes
  · rw [dif_pos fits]
    dsimp only
    split_ifs
    iterate 3 rfl
    rcases createAll digest call.failing call.transfers 0 call.files [] call.directory.val with
      ⟨s, ⟨owned, _ | raised⟩ | e | _⟩
    · rfl
    · dsimp only
      rcases rollback call.failing owned.reverse s with ⟨s', _ | e | _⟩
      · dsimp only
        unfold ArtifactBudget.release
        split_ifs <;> rfl
      · rfl
      · rfl
    · rfl
    · rfl
  · rw [dif_neg fits]
    dsimp only
    split_ifs <;> rfl

theorem usedBytes_runCalls : ∀ (calls : List Call) (budget : ArtifactBudget),
    Unspoilt digest calls budget →
      (runCalls digest calls budget).1.usedBytes =
        budget.usedBytes + (runCalls digest calls budget).2
  | [], _, _ => rfl
  | call :: rest, budget, ⟨sound, later⟩ => by
      have held : call.AllOrNothing digest budget := (allOrNothing_iff call budget).mpr sound
      have tail := usedBytes_runCalls rest _ later
      unfold Call.AllOrNothing at held
      unfold runCalls
      rcases ended : call.run digest budget with ⟨⟨s, after⟩, result⟩
      rw [ended] at held tail
      cases result with
      | ok _ =>
          dsimp only at held tail ⊢
          rw [tail, held.2, Nat.add_assoc]
      | error _ =>
          dsimp only at held tail ⊢
          rw [tail, held.2]

theorem maxBytes_runCalls : ∀ (calls : List Call) (budget : ArtifactBudget),
    (runCalls digest calls budget).1.maxBytes = budget.maxBytes
  | [], _ => rfl
  | call :: rest, budget => by
      have first : (call.run digest budget).1.2.maxBytes = budget.maxBytes := maxBytes_run call budget
      have tail := maxBytes_runCalls rest (call.run digest budget).1.2
      unfold runCalls
      rcases ended : call.run digest budget with ⟨⟨s, after⟩, result⟩
      rw [ended] at first tail
      cases result <;> exact tail.trans first

end

/-- A call whose failing step is not one of the two kinds leaves all of its bundle or nothing, and
over any number of them the budget has used what was published. -/
theorem bundle_all_or_nothing_iff (digest : Bytes → String) :
    (∀ call budget, Call.AllOrNothing digest call budget ↔ ¬call.Spoilt budget) ∧
      ∀ calls budget, Unspoilt digest calls budget →
        (runCalls digest calls budget).1.usedBytes =
          budget.usedBytes + (runCalls digest calls budget).2 ∧
        (runCalls digest calls budget).1.usedBytes ≤ budget.maxBytes := by
  refine ⟨allOrNothing_iff, fun calls budget sound => ⟨usedBytes_runCalls calls budget sound, ?_⟩⟩
  have kept : (runCalls digest calls budget).1.maxBytes = budget.maxBytes :=
    maxBytes_runCalls calls budget
  rw [← kept]
  exact (runCalls digest calls budget).1.within

/-! ## A file without an owner -/

namespace Samples

/-- `fchmod` fails for the only file of a bundle in an empty directory. -/
def unprotectedCall : Call where
  directory := ⟨⟨[], 1⟩, ⟨List.nodup_nil, nofun⟩⟩
  failing := some (.create 0 .fchmod)
  transfers := ⟨fun _ => 1, fun _ => Nat.one_pos⟩
  files := [⟨"note.md", true, [104, 105], "text/markdown"⟩]
  maxOutputBytes := 1000

end Samples

theorem empty_file_remains :
    ¬∀ digest call budget, Call.AllOrNothing digest call budget := by
  intro claimed
  have unchanged := claimed (fun _ => "") Samples.unprotectedCall ⟨1000, 0, Nat.zero_le _⟩
  exact absurd unchanged.1 (by decide)

end MasterAgent.Drafts
