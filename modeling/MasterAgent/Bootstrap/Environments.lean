import MasterAgent.Base.GitObjects
import MasterAgent.Base.JsonLoads
import MasterAgent.Bootstrap.Trees
import MasterAgent.Drafts.Patch
import MasterAgent.Host

/-!
# Managed environments

The environment that the bootstrap script installs into, the digest it takes of it, and the
attestation that lets a later run use it again.

Results:

1. `Contents.records_inj`: what is hashed of an environment, as records;
2. `recorded_read`: what is read of a marker that was recorded;
3. `reusable_ok`: what was compared when an environment is used again;
4. `bootstrap_digests_identify_iff`: when the digests identify the files.
-/

namespace MasterAgent.Bootstrap
open Base Base.Terminated Credentials

def MARKER_NAME : String := ".master-agent-bootstrap-v1"

def MARKER_SCHEMA : String := "master-agent/bootstrap-attestation@2"

def MAX_MARKER_BYTES : Nat := 64 * 1024

def MINIMUM_PYTHON : Int × Int := (3, 12)

/-- The names by which a run knows its platform. -/
inductive Platform where
  | nt | posix
deriving DecidableEq

/-- An environment and the `st_nlink` of its marker. Where the script does not ask whether a directory
is a link, it is the directory that the link leads to. -/
structure Environment where
  node : Node
  markerLinks : Nat

/-- A header of parsed metadata. One with bytes that are not ASCII is no text. -/
inductive HeaderValue where
  | missing
  | text (value : String)
  | encoded

/-- What the script takes from the standard library and learns from the operating system. -/
class Machine where
  /-- `payload.decode("utf-8", errors="replace")` -/
  decodeReplacing : Bytes → String
  /-- `int(text)`, `none` where it raises `ValueError`. -/
  intOf : String → Option Int
  /-- `json.loads(text)` -/
  loads : String → Except Exn Json
  /-- A document without floats is read as it stands. -/
  loads_json : ∀ text value, Json.loads (Json.dictReader fun _ => none) text = some value →
    loads text = .ok value
  /-- `Name` and `Version` of `BytesParser(policy=compat32).parsebytes(payload, headersonly=True)`. -/
  parsebytes : Bytes → Except Exn (HeaderValue × HeaderValue)
  /-- What the validation of owners, modes and access lists raises. -/
  validatePermissions : Environment → Path → Except Exn Unit
  /-- What the isolated interpreter, once it is started, has to say of itself. -/
  identityProbe : Environment → Path → Int × Int → Except Exn Unit

section
variable [Host] [Machine]

/-! ## Configuration -/

/-- `line.partition("=")`, when there is the separator. -/
def keyAndValue (line : String) : Option (String × String) :=
  match line.toList.dropWhile (· != '=') with
  | _ :: value => some (String.ofList (line.toList.takeWhile (· != '=')), String.ofList value)
  | [] => none

/-- The keys and the values of `pyvenv.cfg`. The last line of a key counts. -/
def configurationValues (text : String) : List (String × String) :=
  ((Drafts.splitlines text.toList).filterMap fun line =>
    (keyAndValue (String.ofList line)).map fun pair => (casefold (strip pair.1), strip pair.2)).reverse

/-- `_python_version_from_configuration` -/
def pythonVersionFromConfiguration (payload : Bytes) : Except Exn (Int × Int) :=
  match String.fromUTF8? ⟨payload.toArray⟩ with
  | none => .error (bootstrapError "managed environment configuration is invalid")
  | some text =>
    let values := configurationValues text
    let declared := (values.lookup "version_info").getD ((values.lookup "version").getD "")
    match (declared.toList.splitOn '.').map fun part => Machine.intOf (String.ofList part) with
    | some major :: some minor :: _ =>
      if major < MINIMUM_PYTHON.1 || major == MINIMUM_PYTHON.1 && minor < MINIMUM_PYTHON.2 then
        .error (bootstrapError "managed environment Python version is unsupported")
      else .ok (major, minor)
    | _ => .error (bootstrapError "managed environment Python version is invalid")

def readConfiguration (environment : Environment) : Except Exn Bytes :=
  readStableRegularFile (environment.node.child "pyvenv.cfg") (16 * 1024)
    "managed environment configuration"

/-- `_configured_python_version` -/
def configuredPythonVersion (environment : Environment) : Except Exn (Int × Int) :=
  readConfiguration environment >>= pythonVersionFromConfiguration

/-! ## Distributions -/

namespace HeaderValue

/-- `bool(value)` -/
def given : HeaderValue → Bool
  | missing => false
  | text value => !value.isEmpty
  | encoded => true

/-- `"\n" in value`, and the value. -/
def line : HeaderValue → Except Exn (Bool × String)
  | text value => .ok (value.toList.contains '\n', value)
  | missing => .error (typeError "argument of type 'NoneType' is not iterable")
  | encoded => .error (typeError "argument of type 'Header' is not iterable")

end HeaderValue

/-- `path.name == "METADATA" and path.parent.name.endswith(".dist-info")` -/
def isMetadata (file : String × Bytes) : Bool :=
  match (file.1.toList.splitOn '/').reverse with
  | name :: parent :: _ => name == "METADATA".toList && ".dist-info".toList.isSuffixOf parent
  | _ => false

def invalidMetadata : Exn := bootstrapError "managed environment distribution metadata is invalid"

/-- The distribution that a metadata file describes. -/
def identityOf (file : String × Bytes) : Except Exn (String × String) :=
  match Machine.parsebytes file.2 with
  | .error e => .error (if e.kind.isTypeError || e.kind.isValueError then invalidMetadata else e)
  | .ok (name, version) =>
    if !name.given || !version.given then .error invalidMetadata
    else name.line >>= fun n =>
      if n.1 then .error invalidMetadata
      else version.line >>= fun v =>
        if v.1 then .error invalidMetadata else .ok (n.2, v.2)

/-- The order of `(name.casefold(), version)`. -/
def identityLe (a b : String × String) : Bool :=
  casefold a.1 < casefold b.1 || casefold a.1 == casefold b.1 && a.2 ≤ b.2

def sortIdentities (identities : List (String × String)) : List (String × String) :=
  identities.insertionSort fun a b => identityLe a b

/-- The versions of the distribution itself. -/
def masterVersions (identities : List (String × String)) : List String :=
  (identities.filter fun i =>
    String.ofList ((casefold i.1).toList.map fun c => if c = '_' then '-' else c) == "master-agent").map (·.2)

end

/-! ## Contents -/

/-- `payloads[relative] = payload` -/
def assign (payloads : List (String × Bytes)) (file : String × Bytes) : List (String × Bytes) :=
  match payloads with
  | [] => [file]
  | known :: rest => if known.1 = file.1 then file :: rest else known :: assign rest file

/-- What is hashed of an environment: its distributions and its files, both in their order. -/
structure Contents where
  identities : List (String × String)
  payloads : List (String × Bytes)
  counted : identities.length = payloads.countP isMetadata
deriving DecidableEq

namespace Contents

/-- The distributions, written as files are. -/
def described (contents : Contents) : List (String × Bytes) :=
  contents.identities.map fun i => (i.1, utf8 i.2)

def records (contents : Contents) : List Bytes :=
  Bootstrap.records contents.described ++ Bootstrap.records contents.payloads

end Contents

theorem records_append (xs ys : List (String × Bytes)) : records (xs ++ ys) = records xs ++ records ys :=
  List.flatMap_append

namespace Contents

/-- No file takes the place of a distribution: each distribution has its metadata file. -/
theorem not_shifted {x y : Contents} {between : List (String × Bytes)}
    (more : y.described = x.described ++ between) (later : x.payloads = between ++ y.payloads) :
    between = [] := by
  have counted := congrArg (List.countP isMetadata) later
  have sizes := congrArg List.length more
  rw [List.countP_append, ← x.counted, ← y.counted] at counted
  rw [List.length_append, described, described, List.length_map, List.length_map] at sizes
  exact List.eq_nil_of_length_eq_zero (by omega)

theorem eq_of_described {x y : Contents} (identities : x.described = y.described)
    (payloads : x.payloads = y.payloads) : x = y := by
  have inj : Function.Injective fun i : String × String => (i.1, utf8 i.2) := by
    intro i j same
    obtain ⟨name, version⟩ := Prod.mk.inj same
    exact Prod.ext name (utf8_inj version)
  have same : x.identities = y.identities := List.map_injective_iff.mpr inj identities
  cases x
  cases y
  cases same
  cases payloads
  rfl

/-- What is hashed determines the distributions and the files, once its records are known. -/
theorem records_inj (x y : Contents) (same : x.records = y.records) : x = y := by
  have flat : x.described ++ x.payloads = y.described ++ y.payloads := by
    refine Bootstrap.records_inj _ _ ?_
    rw [records_append, records_append]
    exact same
  -- were the distributions of one longer, its files would be fewer than their metadata files say
  rcases List.append_eq_append_iff.mp flat with ⟨between, more, later⟩ | ⟨between, more, later⟩
  · cases not_shifted more later
    rw [List.append_nil] at more
    exact eq_of_described more.symm later
  · cases not_shifted more later
    rw [List.append_nil] at more
    exact eq_of_described more later.symm

end Contents

section
variable [Host] [Machine]

/-! ## Reading an environment -/

theorem identities_counted {payloads : List (String × Bytes)} {found : List (String × String)}
    (read : (payloads.filter isMetadata).mapM identityOf = .ok found) :
    (sortIdentities found).length = (sortBy (·.1) payloads).countP isMetadata := by
  have each : ∀ {files : List (String × Bytes)} {found : List (String × String)},
      files.mapM identityOf = .ok found → found.length = files.length := by
    intro files
    induction files with
    | nil =>
      intro found read
      cases read
      rfl
    | cons file files ih =>
      intro found read
      rw [List.mapM_cons] at read
      obtain ⟨identity, -, later⟩ := of_bind_ok read
      obtain ⟨others, ofOthers, made⟩ := of_bind_ok later
      cases made
      rw [List.length_cons, List.length_cons, ih ofOthers]
  have sorted : (sortBy (·.1) payloads).Perm payloads := List.perm_insertionSort _ payloads
  calc (sortIdentities found).length
      = found.length := List.length_insertionSort _ found
    _ = (payloads.filter isMetadata).length := each read
    _ = payloads.countP isMetadata := List.countP_eq_length_filter.symm
    _ = (sortBy (·.1) payloads).countP isMetadata := (sorted.countP_eq _).symm

/-- The distributions of the files that were read, and what is hashed of both. -/
def contentsOf (payloads : List (String × Bytes)) (expectedVersion : String) : Except Exn Contents :=
  match read : (payloads.filter isMetadata).mapM identityOf with
  | .error e => .error e
  | .ok found =>
    let identities := sortIdentities found
    if identities.length > 512 then
      .error (bootstrapError "managed environment has too many distributions")
    else if masterVersions identities != [expectedVersion] then
      .error (bootstrapError "managed environment MasterAgent version does not match")
    else .ok ⟨identities, sortBy (·.1) payloads, identities_counted read⟩

/-- `_environment_commands`, below the environment. -/
def environmentCommands : Platform → Path × Path
  | .nt => (["Scripts", "python.exe"], ["Scripts", "master-agent.exe"])
  | .posix => (["bin", "python"], ["bin", "master-agent"])

/-- `windows_layout` -/
def windowsLayout (interpreter : Path) : Bool := casefold (interpreter.dropLast.getLastD "") == "scripts"

def sitePackages (interpreter : Path) (pythonVersion : Int × Int) : Path :=
  if windowsLayout interpreter then ["Lib", "site-packages"]
  else ["lib", "python" ++ toString pythonVersion.1 ++ "." ++ toString pythonVersion.2, "site-packages"]

def launcher (interpreter : Path) : Path :=
  interpreter.dropLast ++ [if windowsLayout interpreter then "master-agent.exe" else "master-agent"]

/-- The files that are read beside `pyvenv.cfg`, in the order in which they are read. -/
def selectedFiles (environment : Environment) (interpreter : Path) (pythonVersion : Int × Int) :
    Except Exn (List (String × Node)) :=
  match environment.node.at? (sitePackages interpreter pythonVersion) with
  | none => .error (bootstrapError "managed environment site packages are unavailable")
  | some site =>
    if !site.isDirectory then .error (bootstrapError "managed environment site packages are invalid")
    else
      boundedRegularTree (sitePackages interpreter pythonVersion) site (MAX_SOURCE_FILES * 2)
          "managed environment" >>= fun l =>
        match (environment.node.at? interpreter).bind Node.resolved,
            environment.node.at? (launcher interpreter) with
        | some target, some (.file command) =>
          Machine.validatePermissions environment interpreter >>= fun _ =>
            .ok (sortBy (·.1) (l.files.map fun f => (asPosix f.1, f.2)) ++
              [("interpreter-target", .file target), (asPosix (launcher interpreter), .file command)])
        | _, _ => .error (bootstrapError "managed environment executable identity is invalid")

/-- What `_installed_environment_digest` hashes of an environment that does not change meanwhile. -/
def installedContents (environment : Environment) (interpreter : Path) (pythonVersion : Int × Int)
    (expectedVersion : String) : Except Exn Contents :=
  if !(environment.node.at? interpreter).isSome then
    .error (bootstrapError "managed environment identity is unavailable")
  else
    readConfiguration environment >>= fun config =>
      if !((casefold (Machine.decodeReplacing config)).toList.tails.any
          ("include-system-site-packages = false".toList.isPrefixOf ·)) then
        .error (bootstrapError "managed environment must exclude system site packages")
      else
        pythonVersionFromConfiguration config >>= fun configured =>
          if configured != pythonVersion then
            .error (bootstrapError "managed environment Python version changed during validation")
          else
            selectedFiles environment interpreter pythonVersion >>= fun selected =>
              readAll "managed environment contents could not be hashed"
                  "managed environment exceeds the identity limit" selected config.length >>= fun read =>
                contentsOf (read.foldl assign [("pyvenv.cfg", config)]) expectedVersion

/-! ## Attestations -/

structure EnvironmentAttestation where
  installationSha256 : String
  dependencyPolicySha256 : String
  projectVersion : String
  runtimeProbeSha256 : String
deriving DecidableEq

namespace EnvironmentAttestation

/-- What a parsed attestation is asked for. -/
def isValid (a : EnvironmentAttestation) : Bool :=
  isSha256 a.installationSha256 && isSha256 a.dependencyPolicySha256 && isSha256 a.runtimeProbeSha256 &&
    !a.projectVersion.isEmpty && a.projectVersion.length ≤ 128

def members (a : EnvironmentAttestation) : Fields :=
  [("schema", .str MARKER_SCHEMA), ("installation_sha256", .str a.installationSha256),
    ("dependency_policy_sha256", .str a.dependencyPolicySha256), ("project_version", .str a.projectVersion),
    ("runtime_probe_sha256", .str a.runtimeProbeSha256)]

/-- `EnvironmentAttestation.to_json` -/
def toJson (a : EnvironmentAttestation) : String := Json.dumpsSorted (.obj a.members)

end EnvironmentAttestation

/-- `_record_environment_attestation`, and the marker that it leaves. -/
def recordEnvironmentAttestation (attestation : EnvironmentAttestation) : Except Exn Node :=
  let payload := utf8 (attestation.toJson ++ "\n")
  if payload.length > MAX_MARKER_BYTES then
    .error (bootstrapError "local setup attestation is unexpectedly large")
  else .ok (.file payload)

/-- `_parse_environment_attestation` -/
def parseEnvironmentAttestation (value : String) : Except Exn (Option EnvironmentAttestation) :=
  match Machine.loads value with
  | .error e => if e.className == "JSONDecodeError" then .ok none else .error e
  | .ok raw =>
    if !hasKeys raw ["schema", "installation_sha256", "dependency_policy_sha256", "project_version",
        "runtime_probe_sha256"] || raw.get? "schema" != some (.str MARKER_SCHEMA) then .ok none
    else
      match raw.get? "installation_sha256", raw.get? "dependency_policy_sha256",
          raw.get? "runtime_probe_sha256", raw.get? "project_version" with
      | some (.str installation), some (.str policy), some (.str probe), some (.str version) =>
        let attestation : EnvironmentAttestation := ⟨installation, policy, version, probe⟩
        .ok (if attestation.isValid then some attestation else none)
      | _, _, _, _ => .ok none

/-- `_environment_attestation` -/
def environmentAttestation (environment : Environment) : Except Exn (Option EnvironmentAttestation) :=
  match environment.node.child MARKER_NAME with
  | some (.file payload) =>
    if environment.markerLinks != 1 || payload.length > MAX_MARKER_BYTES then .ok none
    else
      match String.fromUTF8? ⟨payload.toArray⟩ with
      | none => .ok none
      | some text => parseEnvironmentAttestation (strip text)
  | _ => .ok none

omit [Host] [Machine] in
/-- Stripping the line of a written object leaves the object. -/
theorem strip_line {fields : Fields} :
    strip (Json.dumpsSorted (.obj fields) ++ "\n") = Json.dumpsSorted (.obj fields) := by
  have ⟨body, braces⟩ : ∃ body, Json.render Json.compactAscii 0
      (.obj (Json.mkFields (Json.sortKeysMembers fields))) = '{' :: (body ++ ['}']) :=
    Json.render_braces 0 _
  have text : Json.dumpsSorted (.obj fields) = String.ofList ('{' :: (body ++ ['}'])) := by
    rw [Json.dumpsSorted, Json.sortKeys, braces]
  have line : (Json.dumpsSorted (.obj fields) ++ "\n").toList = '{' :: (body ++ ['}', '\n']) := by
    rw [text, String.toList_append, String.toList_ofList, List.cons_append, List.append_assoc]
    rfl
  rw [strip, line, List.dropWhile_cons_of_neg (by decide), List.reverse_cons, List.reverse_append]
  change String.ofList ((List.dropWhile isSpace ('\n' :: '}' :: (body.reverse ++ ['{']))).reverse) = _
  rw [List.dropWhile_cons_of_pos (by decide), List.dropWhile_cons_of_neg (by decide), text,
    List.reverse_cons, List.reverse_append, List.reverse_reverse]
  rfl

omit [Host] in
/-- An attestation that was written is parsed, when it is valid. -/
theorem parse_toJson (a : EnvironmentAttestation) :
    parseEnvironmentAttestation a.toJson = .ok (if a.isValid then some a else none) := by
  have readable : Json.Readable (Json.dictReader fun _ => none) (.obj a.members) :=
    ⟨trivial, trivial, trivial, trivial, trivial, trivial⟩
  have read := Machine.loads_json _ _ (Json.loads_dumpsSorted (Json.dictReader_keepsOrder _) readable)
  have keys : hasKeys (Json.sortKeys (.obj a.members)) ["schema", "installation_sha256",
      "dependency_policy_sha256", "project_version", "runtime_probe_sha256"] = true :=
    hasKeys_mkObj fun _ => Iff.rfl
  have member {key : String} : (Json.sortKeys (.obj a.members)).get? key =
      (a.members.lookup key).map Json.sortKeys := Json.get?_sortKeys
  unfold parseEnvironmentAttestation EnvironmentAttestation.toJson
  rw [read]
  dsimp only
  rw [keys, member, member, member, member, member]
  rfl

omit [Host] in
/-- What is read of a marker that was recorded. -/
theorem recorded_read {attestation : EnvironmentAttestation} {environment : Environment} {marker : Node}
    (recorded : recordEnvironmentAttestation attestation = .ok marker)
    (placed : environment.node.child MARKER_NAME = some marker) :
    environmentAttestation environment = .ok
      (if environment.markerLinks = 1 ∧ attestation.isValid = true then some attestation else none) := by
  unfold recordEnvironmentAttestation at recorded
  dsimp only at recorded
  split at recorded
  · cases recorded
  next small =>
  cases recorded
  unfold environmentAttestation
  rw [placed]
  dsimp only
  rw [decide_eq_false small, Bool.or_false]
  by_cases single : environment.markerLinks = 1
  · rw [if_neg (by rw [single, bne_self_eq_false]; decide), fromUTF8?_utf8]
    dsimp only
    rw [EnvironmentAttestation.toJson, strip_line]
    simp only [single, true_and]
    exact parse_toJson attestation
  · rw [if_pos (bne_iff_ne.mpr single), if_neg fun both => single both.1]

section
variable [Sha256]

/-- `_installed_environment_digest` -/
def installedEnvironmentDigest (environment : Environment) (interpreter : Path)
    (pythonVersion : Int × Int) (expectedVersion : String) : Except Exn String :=
  installedContents environment interpreter pythonVersion expectedVersion >>= fun contents =>
    .ok (Sha256.hexdigest (terminated 0 contents.records))

/-- `_runtime_probe` -/
def runtimeProbe (environment : Environment) (interpreter : Path) (expectedVersion : String)
    (expectedRuntimeDigest : Option String) : Except Exn String :=
  configuredPythonVersion environment >>= fun pythonVersion =>
    installedEnvironmentDigest environment interpreter pythonVersion expectedVersion >>= fun digest =>
      if expectedRuntimeDigest.any (digest != ·) then
        .error (bootstrapError "managed environment contents do not match their attestation")
      else
        Machine.identityProbe environment interpreter pythonVersion >>= fun _ => .ok digest

/-- The attestation that `bootstrap` records after an installation. -/
def newAttestation (root source : Source) (policy version : String) (environment : Environment)
    (platform : Platform) : Except Exn EnvironmentAttestation :=
  installationDigest root source >>= fun installation =>
    runtimeProbe environment (environmentCommands platform).1 version none >>= fun probe =>
      .ok ⟨installation, policy, version, probe⟩

/-! ## Selection -/

/-- `path.is_file()` below an environment. -/
def isFileAt (environment : Environment) (path : Path) : Bool := (environment.node.at? path).any (·.isFile)

/-- What a run asks of an environment before it uses it again. -/
structure Expected where
  digest : String
  dependencyPolicyDigest : String
  projectVersion : String
  platform : Platform

/-- An environment that exists is used again. -/
def reusable (expected : Expected) (environment : Environment) : Except Exn Bool :=
  environmentAttestation environment >>= fun found =>
    match found with
    | none => .ok false
    | some attestation =>
      if attestation.installationSha256 != expected.digest ||
          attestation.dependencyPolicySha256 != expected.dependencyPolicyDigest ||
          attestation.projectVersion != expected.projectVersion ||
          !isFileAt environment (environmentCommands expected.platform).1 ||
          !isFileAt environment (environmentCommands expected.platform).2 ||
          (environment.node.at? (environmentCommands expected.platform).2).any (·.isLink) then .ok false
      else
        match runtimeProbe environment (environmentCommands expected.platform).1 expected.projectVersion
            (some attestation.runtimeProbeSha256) with
        | .ok _ => .ok true
        | .error e => if e.className == "BootstrapError" then .ok false else .error e

structure Selection where
  name : String
  sideBySide : Bool
  reused : Bool
deriving DecidableEq

/-- The loop over the candidates. `sideBySide` says that the primary one was passed over. -/
def selectFrom (environments : String → Option Environment) (expected : Expected) :
    List String → Bool → Except Exn Selection
  | [], _ => .error (bootstrapError
      "no safe local environment path is available; existing environments were left unchanged")
  | name :: names, sideBySide =>
    match environments name with
    | none => .ok ⟨name, sideBySide, false⟩
    | some environment =>
      if !environment.node.isDirectory then selectFrom environments expected names true
      else
        reusable expected environment >>= fun again =>
          if again then .ok ⟨name, sideBySide, true⟩ else selectFrom environments expected names true

def environmentNames (digest : String) : List String :=
  ".venv" :: ["", "-2", "-3", "-4"].map fun suffix =>
    ".venv-master-agent-" ++ String.ofList (digest.toList.take 12) ++ suffix

/-- `_select_environment` among what stands under the names of the root. -/
def selectEnvironment (environments : String → Option Environment) (expected : Expected) :
    Except Exn Selection :=
  selectFrom environments expected (environmentNames expected.digest) false

/-! ## What the digests determine -/

/-- What the runtime probe of an environment hashes. -/
def probedContents (environment : Environment) (interpreter : Path) (version : String) : Except Exn Contents :=
  configuredPythonVersion environment >>= fun pythonVersion =>
    installedContents environment interpreter pythonVersion version

variable {environment environment' : Environment} {interpreter : Path} {version : String}

/-- A probe that returns has taken the digest, and it is the expected one. -/
theorem runtimeProbe_ok {expected : Option String} {digest : String}
    (probed : runtimeProbe environment interpreter version expected = .ok digest) :
    digestOf Contents.records (probedContents environment interpreter version) = .ok digest ∧
      ∀ d, expected = some d → d = digest := by
  obtain ⟨pythonVersion, configured, rest⟩ := of_bind_ok probed
  obtain ⟨taken, made, rest⟩ := of_bind_ok rest
  obtain ⟨contents, read, hashes⟩ := of_bind_ok made
  split at rest
  · cases rest
  next matched =>
  obtain ⟨-, -, result⟩ := of_bind_ok rest
  cases result
  refine ⟨digestOf_ok.mpr ⟨contents, bind_ok_iff.mpr ⟨_, configured, read⟩, Except.ok.inj hashes⟩, ?_⟩
  rintro d rfl
  simpa using Eq.symm (by simpa using matched)

/-- A probe returns the digest where it is the expected one and the interpreter answers. -/
theorem runtimeProbe_of_read {contents : Contents} {expected : Option String}
    (read : probedContents environment interpreter version = .ok contents)
    (matched : ∀ d, expected = some d → d = Sha256.hexdigest (terminated 0 contents.records))
    (answers : ∀ python, Machine.identityProbe environment interpreter python = .ok ()) :
    runtimeProbe environment interpreter version expected =
      .ok (Sha256.hexdigest (terminated 0 contents.records)) := by
  obtain ⟨python, configured, installed⟩ := of_bind_ok read
  refine bind_ok_iff.mpr ⟨python, configured,
    bind_ok_iff.mpr ⟨_, bind_ok_iff.mpr ⟨_, installed, rfl⟩, ?_⟩⟩
  have same : expected.any (Sha256.hexdigest (terminated 0 contents.records) != ·) = false := by
    cases expected with
    | none => rfl
    | some d => rw [Option.any_some, matched d rfl, bne_self_eq_false]
  rw [same]
  exact bind_ok_iff.mpr ⟨(), answers python, rfl⟩

/-- An environment is used again only after its attestation was compared and its digest taken. -/
theorem reusable_ok {expected : Expected} (again : reusable expected environment = .ok true) :
    ∃ attestation, environmentAttestation environment = .ok (some attestation) ∧
      attestation.installationSha256 = expected.digest ∧
      attestation.projectVersion = expected.projectVersion ∧
      digestOf Contents.records (probedContents environment (environmentCommands expected.platform).1
        expected.projectVersion) = .ok attestation.runtimeProbeSha256 := by
  obtain ⟨found, read, rest⟩ := of_bind_ok again
  cases found with
  | none => cases rest
  | some attestation =>
    refine ⟨attestation, read, ?_⟩
    dsimp only at rest
    split at rest
    · cases rest
    next matched =>
    simp only [Bool.or_eq_true, bne_iff_ne, ne_eq, not_or, Decidable.not_not] at matched
    refine ⟨matched.1.1.1.1.1, matched.1.1.1.2, ?_⟩
    split at rest
    · next digest probed =>
      obtain ⟨taken, same⟩ := runtimeProbe_ok probed
      rw [same _ rfl, taken]
    · split at rest <;> cases rest

/-- An environment is used again when its attestation is the expected one and its probe passes. -/
theorem reusable_of_probed {expected : Expected} {attestation : EnvironmentAttestation} {digest : String}
    (read : environmentAttestation environment = .ok (some attestation))
    (installation : attestation.installationSha256 = expected.digest)
    (policy : attestation.dependencyPolicySha256 = expected.dependencyPolicyDigest)
    (project : attestation.projectVersion = expected.projectVersion)
    (started : isFileAt environment (environmentCommands expected.platform).1 = true)
    (launched : isFileAt environment (environmentCommands expected.platform).2 = true)
    (whole : (environment.node.at? (environmentCommands expected.platform).2).any (·.isLink) = false)
    (probed : runtimeProbe environment (environmentCommands expected.platform).1 expected.projectVersion
      (some attestation.runtimeProbeSha256) = .ok digest) :
    reusable expected environment = .ok true := by
  refine bind_ok_iff.mpr ⟨_, read, ?_⟩
  dsimp only
  rw [installation, policy, project, started, launched, whole, probed]
  simp only [bne_self_eq_false, Bool.not_true, Bool.or_false, Bool.false_eq_true, if_false]

/-- The loop uses an environment again that passed. -/
theorem selectFrom_reused {environments : String → Option Environment} {expected : Expected}
    {selection : Selection} (reused : selection.reused = true) :
    ∀ {names : List String} {sideBySide : Bool},
      selectFrom environments expected names sideBySide = .ok selection →
        ∃ environment, environments selection.name = some environment ∧
          reusable expected environment = .ok true := by
  intro names
  induction names with
  | nil => 
    intro sideBySide selected
    cases selected
  | cons name names ih =>
    intro sideBySide selected
    rw [selectFrom] at selected
    split at selected
    · cases selected
      cases reused
    · next environment found =>
      split at selected
      · exact ih selected
      · obtain ⟨again, passed, rest⟩ := of_bind_ok selected
        cases again with
        | false => exact ih rest
        | true =>
          cases rest
          exact ⟨environment, found, passed⟩

/-! ## Setups -/

/-- What a run of the script installs, from where, and into which environment. -/
structure Setup where
  root : Source
  source : Source
  projectVersion : String
  platform : Platform
  environment : Environment

namespace Setup

/-- The hashed files of the source. -/
def files (setup : Setup) : Except Exn (List (String × Bytes)) := hashedFiles setup.source

/-- The hashed contents of the environment. -/
def contents (setup : Setup) : Except Exn Contents :=
  probedContents setup.environment (environmentCommands setup.platform).1 setup.projectVersion

/-- What the run hashes is among these byte strings. -/
structure Hashed (setup : Setup) (hashed : Bytes → Prop) : Prop where
  material : ∀ bytes, installationMaterial setup.root setup.source = .ok bytes → hashed bytes
  files : Within hashed Bootstrap.records setup.files
  contents : Within hashed Contents.records setup.contents

/-- The run installs, and records this attestation. -/
def Attested (setup : Setup) (attestation : EnvironmentAttestation) : Prop :=
  ∃ policy, newAttestation setup.root setup.source policy setup.projectVersion setup.environment
    setup.platform = .ok attestation

/-- The run uses its environment again, whose marker was recorded with this attestation. -/
structure Reused (setup : Setup) (attestation : EnvironmentAttestation) : Prop where
  selected : ∃ environments expected selection,
    installationDigest setup.root setup.source = .ok expected.digest ∧
      expected.projectVersion = setup.projectVersion ∧ expected.platform = setup.platform ∧
      selectEnvironment environments expected = .ok selection ∧ selection.reused = true ∧
      environments selection.name = some setup.environment
  marked : ∃ marker, recordEnvironmentAttestation attestation = .ok marker ∧
    setup.environment.node.child MARKER_NAME = some marker

variable {setup : Setup} {attestation : EnvironmentAttestation}

theorem Attested.digests (attested : setup.Attested attestation) :
    installationDigest setup.root setup.source = .ok attestation.installationSha256 ∧
      digestOf Contents.records setup.contents = .ok attestation.runtimeProbeSha256 := by
  obtain ⟨policy, made⟩ := attested
  obtain ⟨installation, installed, rest⟩ := of_bind_ok made
  obtain ⟨probe, probed, result⟩ := of_bind_ok rest
  cases result
  exact ⟨installed, (runtimeProbe_ok probed).1⟩

theorem Reused.digests (reused : setup.Reused attestation) :
    installationDigest setup.root setup.source = .ok attestation.installationSha256 ∧
      digestOf Contents.records setup.contents = .ok attestation.runtimeProbeSha256 := by
  obtain ⟨environments, expected, selection, installed, version, platform, chosen, again, found⟩ :=
    reused.selected
  obtain ⟨environment, isFound, passed⟩ := selectFrom_reused again chosen
  cases found.symm.trans isFound
  obtain ⟨other, read, isInstallation, -, probed⟩ := reusable_ok passed
  obtain ⟨marker, recorded, placed⟩ := reused.marked
  have asked := Except.ok.inj (read.symm.trans (recorded_read recorded placed))
  split at asked
  on_goal 2 => cases asked
  cases Option.some.inj asked
  rw [platform, version] at probed
  exact ⟨by rw [isInstallation, installed], probed⟩

end Setup

/-- The digests identify the files of a source and the contents of an environment, and an environment
that is used again holds what was attested and was installed from the present source, unless one of
the two is the same texts between NUL bytes cut at others. -/
theorem bootstrap_digests_identify_iff {hashed : Bytes → Prop} (apart : Separates hashed)
    (hexadecimal : Hexadecimal) :
    (∀ a b : Source, Within hashed records (hashedFiles a) → Within hashed records (hashedFiles b) →
      ((∀ digest, sourceBuildDigest a = .ok digest → sourceBuildDigest b = .ok digest →
          hashedFiles a = hashedFiles b) ↔
        ¬ Recuttable records (hashedFiles a) (hashedFiles b))) ∧
    (∀ (e e' : Environment) (interpreter interpreter' : Path) (python python' : Int × Int)
        (version version' : String),
      Within hashed Contents.records (installedContents e interpreter python version) →
      Within hashed Contents.records (installedContents e' interpreter' python' version') →
      ((∀ digest, installedEnvironmentDigest e interpreter python version = .ok digest →
          installedEnvironmentDigest e' interpreter' python' version' = .ok digest →
          installedContents e interpreter python version =
            installedContents e' interpreter' python' version') ↔
        ¬ Recuttable Contents.records (installedContents e interpreter python version)
          (installedContents e' interpreter' python' version'))) ∧
    (∀ (setup earlier : Setup) (attestation : EnvironmentAttestation),
      setup.Hashed hashed → earlier.Hashed hashed →
      earlier.Attested attestation → setup.Reused attestation →
      ((setup.contents = earlier.contents ∧ setup.files = earlier.files) ↔
        ¬ Recuttable Contents.records setup.contents earlier.contents ∧
          ¬ Recuttable records setup.files earlier.files)) := by
  refine ⟨fun a b inA inB => digest_determines_iff apart records_inj inA inB,
    fun e e' interpreter interpreter' python python' version version' inE inE' =>
      digest_determines_iff apart Contents.records_inj inE inE',
    fun setup earlier attestation inNow inThen attested reused => ?_⟩
  obtain ⟨installed, probed⟩ := reused.digests
  obtain ⟨installedThen, probedThen⟩ := attested.digests
  obtain ⟨build, built, builtThen⟩ := installationDigest_build apart hexadecimal installed installedThen
    inNow.material inThen.material
  rw [same_iff_of_digest apart Contents.records_inj inNow.contents inThen.contents probed probedThen,
    same_iff_of_digest apart records_inj inNow.files inThen.files built builtThen]

end

end

/-! ## Two sources and one environment -/

namespace Samples

/-- A source whose directory `src` holds these files. -/
def sourceWith (files : List (String × Node)) : Source where
  parts := ["checkout"]
  node := .directory [("src", .directory files), ("pyproject.toml", .file (utf8 "[project]")),
    ("setup.py", .file [])]
  named := by decide

/-- One file, which holds the name of another between NUL bytes. -/
def oneFile : Source := sourceWith [("a", .file (utf8 "X\x00src/b\x00Y"))]

def twoFiles : Source := sourceWith [("a", .file (utf8 "X")), ("b", .file (utf8 "Y"))]

/-- A digest that spells the bytes out. -/
@[reducible]
def spelled : Sha256 := ⟨GitObjects.hexText⟩

/-- A digest that counts the bytes. -/
@[reducible]
def counted : Sha256 := ⟨fun bytes => (numeral bytes.length).val⟩

@[reducible]
def machine : Machine where
  decodeReplacing payload := (String.fromUTF8? ⟨payload.toArray⟩).getD ""
  intOf text := Json.readInt text.toList
  loads text :=
    match Json.loads (Json.dictReader fun _ => none) text with
    | some value => .ok value
    | none => .error ⟨.valueError, "JSONDecodeError", "Expecting value"⟩
  loads_json text value read := by rw [read]
  parsebytes _ := .ok (.text "master-agent", .text "1")
  validatePermissions _ _ := .ok ()
  identityProbe _ _ _ := .ok ()

attribute [local instance] plainHost machine counted

/-- An environment with one distribution and this marker. -/
def environmentWith (marker : String) : Environment where
  node := .directory
    [("pyvenv.cfg", .file (utf8 "include-system-site-packages = false\nversion = 3.12.1\n")),
      (MARKER_NAME, .file (utf8 marker)),
      ("bin", .directory [("python", .link (some [127])), ("master-agent", .file [35])]),
      ("lib", .directory [("python3.12", .directory [("site-packages", .directory
        [("m.dist-info", .directory [("METADATA", .file (utf8 "Name: master-agent\nVersion: 1\n"))])])])])]
  markerLinks := 1

/-- What the counted digests attest. -/
def attestation : EnvironmentAttestation := ⟨(numeral 139).val, (numeral 0).val, "1", (numeral 202).val⟩

/-- The installation, before its marker is there. -/
def installation : Setup := ⟨twoFiles, twoFiles, "1", .posix, environmentWith ""⟩

/-- A later run, which reads the marker. -/
def later : Setup := ⟨twoFiles, twoFiles, "1", .posix, environmentWith (attestation.toJson ++ "\n")⟩

/-- What is hashed of both environments. -/
def contents : Contents where
  identities := [("master-agent", "1")]
  payloads := [("bin/master-agent", [35]), ("interpreter-target", [127]),
    ("lib/python3.12/site-packages/m.dist-info/METADATA", utf8 "Name: master-agent\nVersion: 1\n"),
    ("pyvenv.cfg", utf8 "include-system-site-packages = false\nversion = 3.12.1\n")]
  counted := by decide +kernel

def files : List (String × Bytes) := [("src/a", utf8 "X"), ("src/b", utf8 "Y")]

/-- What both runs hash. -/
def hashedBytes : List Bytes :=
  [(installationMaterial twoFiles twoFiles).toOption.getD [], terminated 0 (records files),
    terminated 0 contents.records]

theorem hashedBytes_apart : Separates (· ∈ hashedBytes) := by
  have apart : ∀ x ∈ hashedBytes, ∀ y ∈ hashedBytes,
      Sha256.hexdigest x = Sha256.hexdigest y → x = y := by decide +kernel
  exact fun x y hx hy => apart x hx y hy

theorem counted_hexadecimal : Hexadecimal := fun bytes nul =>
  absurd ((numeral bytes.length).property _ nul) (by decide)

/-- What is read of the two files and of both environments. -/
theorem reads : hashedFiles twoFiles = .ok files ∧ installation.contents = .ok contents ∧
    later.contents = .ok contents := by decide +kernel

theorem twoFiles_read : hashedFiles twoFiles = .ok files := reads.1

theorem installation_read : installation.contents = .ok contents := reads.2.1

theorem later_read : later.contents = .ok contents := reads.2.2

/-- What a setup of the two files hashes once these contents were read. -/
theorem hashed_of_read (setup : Setup) (root : setup.root = twoFiles) (source : setup.source = twoFiles)
    (read : setup.contents = .ok contents) : setup.Hashed (· ∈ hashedBytes) where
  material bytes made := by
    have listed : (installationMaterial twoFiles twoFiles).toOption.getD [] ∈ hashedBytes :=
      List.mem_cons_self
    rw [root, source] at made
    rwa [made] at listed
  files found isRead := by
    rw [Setup.files, source, twoFiles_read] at isRead
    cases isRead
    exact List.mem_cons_of_mem _ List.mem_cons_self
  contents found isRead := by
    cases read.symm.trans isRead
    exact List.mem_cons_of_mem _ (List.mem_cons_of_mem _ List.mem_cons_self)

theorem digests : installationDigest twoFiles twoFiles = .ok attestation.installationSha256 ∧
    Sha256.hexdigest (terminated 0 contents.records) = attestation.runtimeProbeSha256 := by
  decide +kernel

theorem twoFiles_installed : installationDigest twoFiles twoFiles = .ok attestation.installationSha256 :=
  digests.1

theorem contents_digest :
    Sha256.hexdigest (terminated 0 contents.records) = attestation.runtimeProbeSha256 := digests.2

theorem installation_attested : installation.Attested attestation := by
  refine ⟨attestation.dependencyPolicySha256, bind_ok_iff.mpr ⟨_, twoFiles_installed,
    bind_ok_iff.mpr ⟨_, runtimeProbe_of_read installation_read (fun _ none => by cases none)
      fun _ => rfl, ?_⟩⟩⟩
  rw [contents_digest]
  rfl

theorem attestation_recorded : recordEnvironmentAttestation attestation =
    .ok (.file (utf8 (attestation.toJson ++ "\n"))) := by
  have text : (attestation.toJson ++ "\n").toList =
      Json.render Json.compactAscii 0 (Json.sortKeys (.obj attestation.members)) ++ ['\n'] :=
    String.toList_append.trans (congrArg (· ++ ['\n']) String.toList_ofList)
  have small : (utf8 (attestation.toJson ++ "\n")).length ≤ MAX_MARKER_BYTES := by
    rw [utf8_eq, text]
    decide +kernel
  unfold recordEnvironmentAttestation
  dsimp only
  rw [if_neg (Nat.not_lt.mpr small)]

theorem attestation_valid : attestation.isValid = true := by
  have installation : isSha256 attestation.installationSha256 = true := numeral_hex 139
  have policy : isSha256 attestation.dependencyPolicySha256 = true := numeral_hex 0
  have probe : isSha256 attestation.runtimeProbeSha256 = true := numeral_hex 202
  have version : (!attestation.projectVersion.isEmpty && attestation.projectVersion.length ≤ 128) = true := by
    decide
  rw [EnvironmentAttestation.isValid, installation, policy, probe, Bool.and_assoc, version]
  rfl

/-- The only environment is the primary one. -/
def environments (name : String) : Option Environment :=
  if name = ".venv" then some later.environment else none

def expected : Expected := ⟨(numeral 139).val, (numeral 0).val, "1", .posix⟩

theorem later_reusable : reusable expected later.environment = .ok true := by
  have read : environmentAttestation later.environment = .ok (some attestation) := by
    rw [recorded_read attestation_recorded rfl, if_pos ⟨rfl, attestation_valid⟩]
  exact reusable_of_probed read rfl rfl rfl (by decide +kernel) (by decide +kernel) (by decide +kernel)
    (runtimeProbe_of_read later_read (by rintro d ⟨⟩; exact contents_digest.symm) fun _ => rfl)

theorem later_reused : later.Reused attestation := by
  have selected : selectEnvironment environments expected = .ok ⟨".venv", false, true⟩ := by
    unfold selectEnvironment environmentNames
    rw [selectFrom, environments, if_pos rfl]
    dsimp only
    rw [if_neg (by decide), later_reusable]
    rfl
  exact ⟨⟨environments, expected, ⟨".venv", false, true⟩, twoFiles_installed, rfl, rfl, selected, rfl,
    if_pos rfl⟩, ⟨_, attestation_recorded, rfl⟩⟩

end Samples

section
attribute [local instance] plainHost Samples.machine Samples.counted

/-- The later run uses the environment again, and finds in it what was attested. -/
theorem attested_environment_whole : Samples.installation.Attested Samples.attestation ∧
    Samples.later.Reused Samples.attestation ∧
    ¬ Recuttable Contents.records Samples.later.contents Samples.installation.contents ∧
      ¬ Recuttable records Samples.later.files Samples.installation.files := by
  have reading := Samples.hashed_of_read Samples.later rfl rfl Samples.later_read
  have installing := Samples.hashed_of_read Samples.installation rfl rfl Samples.installation_read
  have source : Samples.later.files = .ok Samples.files := Samples.twoFiles_read
  have sourceThen : Samples.installation.files = .ok Samples.files := Samples.twoFiles_read
  exact ⟨Samples.installation_attested, Samples.later_reused,
    ((bootstrap_digests_identify_iff Samples.hashedBytes_apart Samples.counted_hexadecimal).2.2
      Samples.later Samples.installation Samples.attestation reading installing Samples.installation_attested
        Samples.later_reused).mp ⟨Samples.later_read.trans Samples.installation_read.symm,
          source.trans sourceThen.symm⟩⟩

end

section
attribute [local instance] Samples.spelled

/-- Two directories of source files that differ have one digest. -/
theorem recut_source_digest : Sha256.CollisionFree ∧
    Samples.oneFile.node.isDirectory = true ∧ Samples.twoFiles.node.isDirectory = true ∧
    ∃ digest, sourceBuildDigest Samples.oneFile = .ok digest ∧
      sourceBuildDigest Samples.twoFiles = .ok digest ∧
        hashedFiles Samples.oneFile ≠ hashedFiles Samples.twoFiles := by
  have one : hashedFiles Samples.oneFile = .ok [("src/a", utf8 "X\x00src/b\x00Y")] := by decide +kernel
  have two : hashedFiles Samples.twoFiles = .ok [("src/a", utf8 "X"), ("src/b", utf8 "Y")] := by
    decide +kernel
  have written : terminated 0 (records [("src/a", utf8 "X\x00src/b\x00Y")]) =
      terminated 0 (records [("src/a", utf8 "X"), ("src/b", utf8 "Y")]) := by decide +kernel
  refine ⟨⟨fun _ _ => GitObjects.hexText_inj⟩, rfl, rfl, _, digestOf_ok.mpr ⟨_, one, rfl⟩,
    digestOf_ok.mpr ⟨_, two, by rw [written]⟩, ?_⟩
  rw [one, two]
  exact fun same => absurd (congrArg List.length (Except.ok.inj same)) (by decide)

end

end MasterAgent.Bootstrap
