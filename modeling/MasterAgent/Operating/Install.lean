import MasterAgent.Base.Transfer
import MasterAgent.Errors
import Mathlib.Data.List.Infix
import Mathlib.Logic.Function.Basic

/-!
# Profile installation

`install_organization_profile` on POSIX, with the directories it provisions and the file it creates
under its final name. A call may be cut at one step of the file system, by a crash of the process or
by an exception. Nobody else changes what it works on, so the comparisons of identities hold.
-/

namespace MasterAgent.Operating
open Base Base.Effect

/-! ## State -/

abbrev Bytes := List UInt8
abbrev Path := List String

/-- An object of the current user: a directory, or a regular file with one name. -/
inductive Entry where
  | directory (mode : Nat)
  | file (mode : Nat) (content : Bytes)
deriving DecidableEq

/-- What stands at each path; the root is the empty one. -/
abbrev World := Path → Option Entry

def World.set (w : World) (path : Path) (entry : Entry) : World :=
  Function.update w path (some entry)

def World.remove (w : World) (path : Path) : World := Function.update w path none

/-- The mode of a directory that `mkdir` makes with 0700: the set-group-ID bit comes from the
directory above. -/
def World.madeMode (w : World) (path : Path) : Nat :=
  match w path.dropLast with
  | some (.directory mode) => 0o700 ||| (mode &&& 0o2000)
  | _ => 0o700

def _MAX_PROFILE_BYTES : Nat := 256 * 1024
def _MAX_DIRECTORY_DEPTH : Nat := 64

/-- A source that the checks before the first step accept, with its destination. -/
structure Profile where
  payload : Bytes
  bounded : payload.length ≤ _MAX_PROFILE_BYTES
  nonempty : payload ≠ []
  parent : Path
  name : String
  stateRoot : Path
  parent_ne : parent ≠ []
  stateRoot_ne : stateRoot ≠ []
  parent_depth : parent.length ≤ _MAX_DIRECTORY_DEPTH
  stateRoot_depth : stateRoot.length + 1 ≤ _MAX_DIRECTORY_DEPTH
  apart : ¬parent ++ [name] <+: stateRoot

namespace Profile

def target (p : Profile) : Path := p.parent ++ [p.name]

def runs (p : Profile) : Path := p.stateRoot ++ ["runs"]

end Profile

/-! ## Points -/

/-- The places that call `_ensure_private_directory` or read the destination. -/
inductive Visit where
  | first | existingBefore | stateRoot | runs | installing | existingAfter
deriving DecidableEq

inductive DirectoryPoint where
  | open_ | mkdir | fsyncParent | reopen | fstat | stat | fchmod | fsync | fstatAgain
deriving DecidableEq

inductive ReadPoint where
  | openParent | opened | fstat | read (round : Nat) | fstatAgain | readEnd | stat
deriving DecidableEq

inductive FilePoint where
  | openParent | opened | fchmod | fstat | write (round : Nat) | fsync | fstatFinal | stat | lseek
  | read (round : Nat) | fstatAfter | statAfter | fsyncDirectory | statParent | fstatParent | close
  | rollbackStat | rollbackUnlink | rollbackFsync
deriving DecidableEq

inductive Point where
  | root (visit : Visit)
  | directory (visit : Visit) (path : Path) (point : DirectoryPoint)
  | lexists
  | read (visit : Visit) (point : ReadPoint)
  | file (point : FilePoint)
deriving DecidableEq

/-- How a call is cut. -/
inductive Halt where
  | raises | crashes
deriving DecidableEq

abbrev CutAt := Option (Point × Halt)

def osError (message : String) : Exn := ⟨.osError, "OSError", message⟩

def stepAt (cut : CutAt) (point : Point) : Effect World Exn Unit :=
  .point (if cut = some (point, .raises) then .raises (osError "input/output error")
    else if cut = some (point, .crashes) then .crashes else .passes)

/-- `except OSError as error: raise ConfigurationError(message) from error` -/
def configured (message : String) (raised : Exn) : Exn :=
  if raised.kind = .osError then configurationError message else raised

/-! ## Directories -/

/-- `os.mkdir`, up to the descriptor of the new directory. -/
def makeDirectory (cut : CutAt) (visit : Visit) (path : Path) : Effect World Exn Unit := do
  stepAt cut (.directory visit path .mkdir)
  Effect.modify fun w => w.set path (.directory (w.madeMode path))
  stepAt cut (.directory visit path .fsyncParent)
  stepAt cut (.directory visit path .reopen)

def checkDirectory (cut : CutAt) (visit : Visit) (path : Path) : Effect World Exn Unit := do
  stepAt cut (.directory visit path .fstat)
  stepAt cut (.directory visit path .stat)

/-- `os.fchmod(child, 0o700)`, for a directory that the call has created. -/
def makePrivate (cut : CutAt) (visit : Visit) (path : Path) : Effect World Exn Unit := do
  stepAt cut (.directory visit path .fchmod)
  Effect.modify fun w => w.set path (.directory 0o700)
  stepAt cut (.directory visit path .fsync)
  stepAt cut (.directory visit path .fstatAgain)

/-- One component of the path. -/
def enter (cut : CutAt) (visit : Visit) (path : Path) : Effect World Exn Unit := do
  stepAt cut (.directory visit path .open_)
  let w ← Effect.get
  match w path with
  | some (.file _ _) => Effect.raise (osError "not a directory")
  | some (.directory _) => checkDirectory cut visit path
  | none => do
      makeDirectory cut visit path
      checkDirectory cut visit path
      makePrivate cut visit path

/-- The components after those above; the last directory must have mode 0700. -/
def walk (cut : CutAt) (visit : Visit) : Path → Path → Effect World Exn Unit
  | above, [] => do
      let w ← Effect.get
      if w above = some (.directory 0o700) then pure ()
      else Effect.raise (configurationError "private state directory must have mode 0700")
  | above, component :: rest => do
      enter cut visit (above ++ [component])
      walk cut visit (above ++ [component]) rest

/-- `_ensure_private_directory` -/
def ensurePrivateDirectory (cut : CutAt) (visit : Visit) (path : Path) : Effect World Exn Unit :=
  if path = [] then Effect.raise (configurationError "private state directory path is invalid")
  else if _MAX_DIRECTORY_DEPTH < path.length then
    Effect.raise (configurationError "private state directory path is too deep")
  else do
    stepAt cut (.root visit)
    Effect.handle (walk cut visit [] path) fun raised =>
      Effect.raise (configured "private state path must contain only no-follow directories" raised)

/-! ## The file -/

def notPrivate : Exn :=
  configurationError "organization profile must be a current-user mode-0600 regular file"

def differentBytes : Exn :=
  configurationError "organization profile destination already contains different bytes"

def rollbackRefused : Exn :=
  configurationError "organization profile rollback refused after identity change"

/-- What follows the open in `_read_private_file`. -/
def readEntry (cut : CutAt) (visit : Visit) (transfers : Transfers) :
    Option Entry → Effect World Exn Bytes
  | none => Effect.raise (osError "no such file or directory")
  | some (.directory _) => do
      stepAt cut (.read visit .fstat)
      Effect.raise notPrivate
  | some (.file mode content) => do
      stepAt cut (.read visit .fstat)
      if mode ≠ 0o600 then Effect.raise notPrivate
      else if _MAX_PROFILE_BYTES < content.length then
        Effect.raise (configurationError "installed organization profile is too large")
      else do
        let (unread, payload) ← readBlocks (fun round => stepAt cut (.read visit (.read round)))
          (64 * 1024) _MAX_PROFILE_BYTES transfers (content.length + 1) 0 content []
        stepAt cut (.read visit .fstatAgain)
        stepAt cut (.read visit .readEnd)
        if unread ≠ [] then
          Effect.raise (configurationError "installed organization profile changed during read")
        else do
          stepAt cut (.read visit .stat)
          pure payload

/-- `_read_private_file` -/
def readPrivateFile (cut : CutAt) (visit : Visit) (transfers : Transfers) (path : Path) :
    Effect World Exn Bytes :=
  Effect.handle
    (do
      stepAt cut (.read visit .opened)
      let w ← Effect.get
      readEntry cut visit transfers (w path))
    fun raised => Effect.raise (configured
      "installed organization profile must be a no-follow private file" raised)

/-- The destination has these bytes. -/
def compareExisting (cut : CutAt) (visit : Visit) (transfers : Transfers) (p : Profile) :
    Effect World Exn Unit := do
  let existing ← readPrivateFile cut visit transfers p.target
  if existing = p.payload then pure () else Effect.raise differentBytes

/-- `_validate_existing_profile_file` -/
def validateExistingProfileFile (cut : CutAt) (visit : Visit) (transfers : Transfers)
    (p : Profile) : Effect World Exn Unit := do
  ensurePrivateDirectory cut visit p.parent
  stepAt cut (.read visit .openParent)
  compareExisting cut visit transfers p

/-- `provision_organization_state` -/
def provisionOrganizationState (cut : CutAt) (p : Profile) : Effect World Exn Unit := do
  ensurePrivateDirectory cut .stateRoot p.stateRoot
  ensurePrivateDirectory cut .runs p.runs

/-- What follows in `_install_private_file` once the file is owned. -/
def completeFile (cut : CutAt) (transfers : Transfers) (p : Profile) : Effect World Exn Unit := do
  writeRounds (fun round => stepAt cut (.file (.write round)))
    (fun more w => match w p.target with
      | some (.file mode content) => w.set p.target (.file mode (content ++ more))
      | _ => w) transfers p.payload.length 0 p.payload
  stepAt cut (.file .fsync)
  stepAt cut (.file .fstatFinal)
  let w ← Effect.get
  match w p.target with
  | some (.file mode content) =>
      if mode ≠ 0o600 ∨ content.length ≠ p.payload.length then Effect.raise notPrivate
      else do
        stepAt cut (.file .stat)
        stepAt cut (.file .lseek)
        let (_, observed) ← readBlocks (fun round => stepAt cut (.file (.read round))) (64 * 1024)
          _MAX_PROFILE_BYTES transfers (content.length + 1) 0 content []
        stepAt cut (.file .fstatAfter)
        stepAt cut (.file .statAfter)
        if observed ≠ p.payload then
          Effect.raise (configurationError "organization profile bytes changed during publication")
        else do
          stepAt cut (.file .fsyncDirectory)
          stepAt cut (.file .statParent)
          stepAt cut (.file .fstatParent)
  | _ => Effect.raise notPrivate

/-- The removal of a file that is owned. -/
def unlinkOwned (cut : CutAt) (path : Path) : Effect World Exn Unit :=
  Effect.handle
    (do
      stepAt cut (.file .rollbackUnlink)
      Effect.modify fun w => w.remove path
      stepAt cut (.file .rollbackFsync))
    fun raised =>
      Effect.raise (configured "organization profile rollback was incomplete" raised)

/-- `_unlink_private_file_if_owned` -/
def unlinkPrivateFileIfOwned (cut : CutAt) (path : Path) : Effect World Exn Unit := do
  stepAt cut (.file .rollbackStat)
  let w ← Effect.get
  match w path with
  | none => pure ()
  | some (.directory _) => Effect.raise rollbackRefused
  | some (.file mode _) =>
      if mode = 0o600 then unlinkOwned cut path else Effect.raise rollbackRefused

/-- The exclusive creation, with the mode that is left of 0600: whether it has created the file. -/
def openExclusive (cut : CutAt) (openMode : Nat) (path : Path) : Effect World Exn Bool := do
  stepAt cut (.file .opened)
  let w ← Effect.get
  match w path with
  | some _ => pure false
  | none => do
      Effect.modify fun w => w.set path (.file openMode [])
      pure true

/-- The file of the call. It is owned after `fchmod` and the first `fstat`; before that nothing
removes it. -/
def fillFile (cut : CutAt) (transfers : Transfers) (p : Profile) : Effect World Exn Unit := do
  stepAt cut (.file .fchmod)
  Effect.modify fun w => match w p.target with
    | some (.file _ content) => w.set p.target (.file 0o600 content)
    | _ => w
  stepAt cut (.file .fstat)
  let w ← Effect.get
  if w p.target ≠ some (.file 0o600 []) then Effect.raise notPrivate
  else do
    Effect.cleanup (completeFile cut transfers p) (unlinkPrivateFileIfOwned cut p.target)
    stepAt cut (.file .close)

/-- What follows the exclusive creation. -/
def publish (cut : CutAt) (transfers : Transfers) (p : Profile) (created : Bool) :
    Effect World Exn Bool := do
  (if created then fillFile cut transfers p else compareExisting cut .installing transfers p)
  pure created

/-- `_install_private_file` -/
def installPrivateFile (cut : CutAt) (transfers : Transfers) (openMode : Nat) (p : Profile) :
    Effect World Exn Bool := do
  ensurePrivateDirectory cut .installing p.parent
  stepAt cut (.file .openParent)
  let created ← openExclusive cut openMode p.target
  publish cut transfers p created

/-- `os.path.lexists`: a failing `lstat` counts as absence. -/
def lexists (cut : CutAt) (path : Path) : Effect World Exn Bool :=
  Effect.handle
    (do
      stepAt cut .lexists
      let w ← Effect.get
      pure (w path).isSome)
    fun _ => pure false

/-- What follows `lexists`: whether the call has created the profile. -/
def provision (cut : CutAt) (transfers : Transfers) (openMode : Nat) (p : Profile) :
    Bool → Effect World Exn Bool
  | true => do
      validateExistingProfileFile cut .existingBefore transfers p
      provisionOrganizationState cut p
      validateExistingProfileFile cut .existingAfter transfers p
      pure false
  | false => do
      provisionOrganizationState cut p
      installPrivateFile cut transfers openMode p

/-- `install_organization_profile`: whether it has created the profile. -/
def installOrganizationProfile (cut : CutAt) (transfers : Transfers) (openMode : Nat)
    (p : Profile) : Effect World Exn Bool := do
  ensurePrivateDirectory cut .first p.parent
  let destinationExists ← lexists cut p.target
  provision cut transfers openMode p destinationExists

end MasterAgent.Operating
