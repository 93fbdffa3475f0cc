import MasterAgent.Base.Aliases
import MasterAgent.Base.Frames
import MasterAgent.Egress.Rules
import MasterAgent.Models.Checks

/-!
# The credential store

A restricted JSON file names credentials by their declared names, by provider and field, or by
friendly names from which provider and field are inferred. What is loaded is a mapping from declared
names to values.

Results:

1. `validateCredentials_ok_iff`: which values are accepted, and what they make;
2. `parseCredentialsDocument_ok_iff` and its siblings: the same for each form of the file;
3. `credentials_loaded`: for which files the order of the keys does not matter and no value crosses
   over.
-/

namespace MasterAgent.Credentials.Store
open Base

def MAX_CREDENTIALS : Nat := 64
def MAX_VALUE_BYTES : Nat := 64 * 1024
def SCHEMA : String := "master-agent/credential-store@1"

/-- The loaded credentials, in the order in which they were stored. -/
abbrev Loaded := List (String × String)

/-! ## Declared names -/

def endsWith (text suffix : String) : Bool := suffix.toList.isSuffixOf text.toList

/-- `text.removesuffix(suffix)` -/
def removeSuffix (text suffix : String) : String :=
  if endsWith text suffix then
    String.ofList (text.toList.take (text.toList.length - suffix.toList.length))
  else text

/-- `text.removeprefix(start)` -/
def removeStart (text start : String) : String :=
  if start.toList.isPrefixOf text.toList then String.ofList (text.toList.drop start.toList.length)
  else text

/-- `username_names` -/
def usernameNames (allowed : List String) : List String :=
  allowed.dedup.filter (endsWith · "_USERNAME")

/-- The one user name that an e-mail key may stand for. -/
def emailAlias (allowed : List String) (name : String) : Option String :=
  if endsWith name "_EMAIL" then
    match (usernameNames allowed).filter fun candidate =>
        removeSuffix (removeStart candidate "MASTER_AGENT_") "_USERNAME" = removeSuffix name "_EMAIL" with
    | [candidate] => some candidate
    | _ => none
  else none

/-- `_is_descriptive_metadata_name` -/
def isDescriptiveMetadataName (name : String) : Bool :=
  endsWith name "_EMAIL" || endsWith name "_FULLNAME"

/-- The text of a JSON value, `none` where it is no text. -/
def text? : Json → Option String
  | .str text => some text
  | _ => none

/-- The checks on the value stored under `destination`. -/
def credentialValue (destination : String) (value : Option String) : Except Exn String :=
  let text := value.getD ""
  if text = "" then
    .error (configurationError ("credential store value must be a non-empty string: " ++ destination))
  else if Char.ofNat 0 ∈ text.toList then
    .error (configurationError ("credential store value contains a prohibited NUL: " ++ destination))
  else if (utf8 text).length > MAX_VALUE_BYTES then
    .error (configurationError ("credential store value exceeds the 64 KiB limit: " ++ destination))
  else .ok text

/-- What `_validate_credentials` does with an entry once its destination is known. -/
def admitEntry (allowed : List String) (name destination : String) (value : Option String) :
    Except Exn (Option String) :=
  if destination ∉ allowed then
    if isDescriptiveMetadataName name then .ok none
    else .error (configurationError "credential store contains a name not declared by integrations")
  else (credentialValue destination value).map some

def duplicateAlias (destination : String) : Exn :=
  configurationError ("credential store contains duplicate credential aliases: " ++ destination)

def entriesOf (values : Fields) : List (String × Option String) :=
  values.map fun (name, value) => (name, text? value)

/-- `_validate_credentials`. A destination is an e-mail key's user name while that is free. -/
def validateCredentials (allowed : List String) (values : Fields) : Except Exn Loaded := do
  let result ← Aliases.run (emailAlias allowed) (admitEntry allowed) duplicateAlias (entriesOf values)
  if result = [] then
    .error (configurationError "credential store contains no declared credentials")
  else .ok result

/-! ## Friendly names -/

/-- Declared names by field, for each provider. -/
abbrev ProviderAliases := List (String × List (String × String))

/-- `_FIELD_HINTS` -/
def FIELD_HINTS : List (String × List (List String)) :=
  [("token", [["token"], ["api", "key"], ["access", "key"], ["pat"], ["secret"]]),
   ("username", [["username"], ["user"], ["email"], ["login"]]),
   ("token_file", [["token", "file"]]),
   ("token_expires_at", [["token", "expires", "at"], ["expiry"]]),
   ("tenant_id", [["tenant", "id"]]),
   ("client_id", [["client", "id"]]),
   ("client_secret", [["client", "secret"]])]

/-- The characters of `[a-z0-9]`. -/
def isWordChar (c : Char) : Bool := c.isLower || c.isDigit

/-- `re.sub(r"(?<=[a-z0-9])(?=[A-Z])", "_", value)` -/
def separateCapitals : List Char → List Char
  | c :: d :: rest =>
    if isWordChar c && d.isUpper then c :: '_' :: separateCapitals (d :: rest)
    else c :: separateCapitals (d :: rest)
  | cs => cs

/-- Texts one after another. -/
def compactOf (words : List String) : List Char := words.flatMap String.toList

/-- `part in text` -/
def occursIn (part text : List Char) : Bool := decide (part <:+: text)

/-- `_hint_matches` -/
def hintMatches (words : List String) (compact : List Char) (hint : List String) : Bool :=
  hint.all (words.contains ·) || occursIn (compactOf hint) compact

/-- `field_scores` -/
def fieldScores (words : List String) (compact : List Char) : List (String × Nat) :=
  FIELD_HINTS.map fun (field, hints) =>
    (field, ((hints.filter (hintMatches words compact)).map List.length).foldr max 0)

/-- `matched_fields` -/
def matchedFields (words : List String) (compact : List Char) : List String :=
  let scores := fieldScores words compact
  let highest := (scores.map Prod.snd).foldr max 0
  (scores.filter fun (_, score) => score = highest ∧ highest > 0).map Prod.fst

/-- `tuple(sorted(fields.items()))`, which stands for the table of fields itself. -/
def identityOf (fields : List (String × String)) : List (String × String) := sortBy Prod.fst fields

/-- `_unique_provider_fields` -/
def uniqueProviderFields (aliases : ProviderAliases) : List (List (String × String)) :=
  ((aliases.map fun (_, fields) => identityOf fields).filter (· ≠ [])).dedup

variable [Host]

/-- `_name_words` -/
def nameWords (value : String) : List String :=
  let expanded := (separateCapitals value.toList).flatMap Host.foldChar
  ((expanded.splitOnP fun c => !isWordChar c).filter (· ≠ [])).map String.ofList

/-- `_provider_matches` -/
def providerMatches (provider : String) (words : List String) (compact : List Char) : Bool :=
  let providerWords := nameWords provider
  let providerCompact := compactOf providerWords
  providerCompact ≠ [] &&
    (occursIn providerCompact compact || providerWords.all (words.contains ·))

/-- `_credential_candidates` -/
def credentialCandidates (source : String) (aliases : ProviderAliases)
    (providerFields : List (List (String × String))) : List String :=
  let words := nameWords source
  let compact := compactOf words
  let matched := matchedFields words compact
  let matchedProviders := ((aliases.filter fun (provider, _) =>
    providerMatches provider words compact).map fun (_, fields) => identityOf fields).dedup
  let providerWasExplicit := !matchedProviders.isEmpty
  let candidateProviders :=
    if !providerWasExplicit && !matched.isEmpty && providerFields.length == 1 then providerFields
    else matchedProviders
  (candidateProviders.flatMap fun fields =>
    let available := matched.filter fun field => (fields.lookup field).isSome
    let available :=
      if available.isEmpty && providerWasExplicit && (fields.lookup "token").isSome then ["token"]
      else available
    available.filterMap fun field => fields.lookup field).dedup

/-- `repr(value)` of a text. -/
def reprStr (value : String) : String := Host.reprText (.str value)

/-- The declared name of a friendly key. -/
def friendlyDestination [CharTables] (allowed : List String) (aliases : ProviderAliases)
    (explicitMappings : List (String × String)) (source : String) : Except Exn String :=
  if source = "" ∨ '=' ∈ source.toList ∨ (utf8 source).length > 256 ∨
      ¬ source.toList.all CharTables.printable then
    .error (configurationError ("friendly credential keys must be printable, at most 256 bytes, " ++
      "and must not contain '='"))
  else
    match explicitMappings.lookup source with
    | some destination => .ok destination
    | none =>
      match credentialCandidates source aliases (uniqueProviderFields aliases) with
      | [destination] => .ok destination
      | candidates =>
        let possibilities := sortedSet (if candidates = [] then allowed else candidates)
        .error (configurationError ("credential key " ++ reprStr source ++
          " is ambiguous; ask which declared credential it represents, then retry with " ++
          "--credential-map " ++ source ++ "=NAME (choices: " ++
          ", ".intercalate possibilities ++ ")"))

/-! ## The forms of the file -/

/-- A key of the values so far. -/
def Named (values : Fields) (name : String) : Prop := name ∈ values.map Prod.fst

instance (values : Fields) (name : String) : Decidable (Named values name) :=
  inferInstanceAs (Decidable (name ∈ values.map Prod.fst))

/-- The object of credentials. -/
def credentialsObject : Option Json → Except Exn Fields
  | some (.obj (first :: rest)) => .ok (first :: rest)
  | _ => .error (configurationError "credential store credentials must be a non-empty object")

/-- The values of a canonical document. -/
def canonicalValues (raw : Fields) : Except Exn Fields :=
  if raw.any fun member => member.1 ≠ "schema" ∧ member.1 ≠ "credentials" then
    .error (configurationError "credential store contains unknown top-level fields")
  else if raw.lookup "schema" ≠ some (.str SCHEMA) then
    .error (configurationError "credential store schema is unsupported")
  else credentialsObject (raw.lookup "credentials")

def isCanonical (raw : Fields) : Bool :=
  (raw.lookup "schema").isSome || (raw.lookup "credentials").isSome

def tooMany : Exn := configurationError "credential store contains too many credentials"

/-- `_parse_credentials_document` -/
def parseCredentialsDocument (allowed : List String) (raw : Fields) : Except Exn Loaded := do
  let values ← canonicalValues raw
  if values.length > MAX_CREDENTIALS then .error tooMany else validateCredentials allowed values

/-- `_parse_direct_or_canonical_credentials` -/
def parseDirectOrCanonicalCredentials (allowed : List String) (raw : Fields) : Except Exn Loaded :=
  if isCanonical raw then parseCredentialsDocument allowed raw
  else if raw = [] then .error (configurationError "credential store must not be empty")
  else validateCredentials allowed raw

/-- `", ".join(sorted(set(names)))` -/
def listed (names : List String) : String := ", ".intercalate (sortedSet names)

/-- The checks on explicit mappings: names that the file lacks, then targets that are not declared. -/
def checkMappings (allowed : List String) (explicitMappings : List (String × String))
    (values : Fields) : Except Exn Unit :=
  let missing := (explicitMappings.map Prod.fst).filter fun source => ¬ Named values source
  let invalid := (explicitMappings.map Prod.snd).filter fun destination => destination ∉ allowed
  if missing ≠ [] then
    .error (configurationError ("credential mapping names are absent from the file: " ++ listed missing))
  else if invalid ≠ [] then
    .error (configurationError ("credential mappings target names not declared by integrations: " ++
      listed invalid))
  else .ok ()

/-- Storing a value under a name that is not in use yet. -/
def assignNew (refusal : Exn) (values : Fields) (name : String) (value : Json) : Except Exn Fields :=
  if Named values name then .error refusal else .ok (values ++ [(name, value)])

/-- The values of a direct or canonical store. -/
def storedValues (raw : Fields) : Except Exn Fields :=
  if isCanonical raw then canonicalValues raw else .ok raw

/-- The loop that selects the mapped values. -/
def selectMapped (explicitMappings : List (String × String)) (values : Fields) : Except Exn Fields :=
  explicitMappings.foldlM (fun selected pair =>
    assignNew (configurationError ("credential mappings target the same declared credential: " ++
      pair.2)) selected pair.2 ((values.lookup pair.1).getD .null)) []

/-- `_parse_explicitly_mapped_credentials` -/
def parseExplicitlyMappedCredentials (allowed : List String)
    (explicitMappings : List (String × String)) (raw : Fields) : Except Exn Loaded := do
  let values ← storedValues raw
  if values.length > MAX_CREDENTIALS then .error tooMany
  else do
    checkMappings allowed explicitMappings values
    let selected ← selectMapped explicitMappings values
    validateCredentials allowed selected

/-- The loop over the friendly keys. -/
def inferNames [CharTables] (allowed : List String) (aliases : ProviderAliases)
    (explicitMappings : List (String × String)) (raw : Fields) : Except Exn Fields :=
  raw.foldlM (fun values member => do
    let destination ← friendlyDestination allowed aliases explicitMappings member.1
    assignNew (configurationError ("credential keys map to the same declared credential: " ++
      destination)) values destination member.2) []

/-- `_parse_flat_provider_credentials` -/
def parseFlatProviderCredentials [CharTables] (allowed : List String) (aliases : ProviderAliases)
    (explicitMappings : List (String × String)) (raw : Fields) : Except Exn Loaded := do
  checkMappings allowed explicitMappings raw
  let values ← inferNames allowed aliases explicitMappings raw
  validateCredentials allowed values

/-- The fields that a provider's value gives. -/
def providerFieldsOf (provider : String) (fields : List (String × String)) : Json → Except Exn Fields
  | .str token =>
    if (fields.lookup "token").isNone then
      .error (configurationError ("provider credential requires named fields: " ++ provider))
    else .ok [("token", .str token)]
  | .obj [] =>
    .error (configurationError ("provider credential fields must not be empty: " ++ provider))
  | .obj members => .ok members
  | _ => .error (configurationError ("provider credential must be a string or object: " ++ provider))

/-- The loop over the fields of one provider. -/
def addFields (fields : List (String × String)) (values members : Fields) : Except Exn Fields :=
  members.foldlM (fun values (field, value) => do
    let values ← assignNew (configurationError "provider credential fields map to the same destination")
      values ((fields.lookup field).getD "") value
    if values.length > MAX_CREDENTIALS then
      .error (configurationError "provider credential store contains too many credentials")
    else .ok values) values

/-- The table of a provider, and the fields that its value gives. -/
def providerMembers (aliases : ProviderAliases) (member : String × Json) :
    Except Exn (List (String × String) × Fields) := do
  let (provider, value) := member
  let fields := (aliases.lookup provider).getD []
  if fields = [] then
    .error (configurationError "credential store contains an unselected or unknown provider")
  else do
    let members ← providerFieldsOf provider fields value
    if members.any fun given => (fields.lookup given.1).isNone then
      .error (configurationError ("provider credential contains unknown fields: " ++ provider))
    else .ok (fields, members)

/-- The body of the loop over the providers. -/
def addProvider (aliases : ProviderAliases) (values : Fields) (member : String × Json) :
    Except Exn Fields := do
  let (fields, members) ← providerMembers aliases member
  addFields fields values members

/-- `_parse_provider_credentials` -/
def parseProviderCredentials [CharTables] (allowed : List String) (aliases : ProviderAliases)
    (explicitMappings : List (String × String)) (raw : Fields) : Except Exn Loaded :=
  if raw = [] then .error (configurationError "provider credential store must not be empty")
  else if raw.length > MAX_CREDENTIALS then
    .error (configurationError "provider credential store contains too many providers")
  else if raw.all fun member => (text? member.2).isSome then
    parseFlatProviderCredentials allowed aliases explicitMappings raw
  else if explicitMappings ≠ [] then
    .error (configurationError "--credential-map applies only to flat key/value credential files")
  else do
    let values ← raw.foldlM (addProvider aliases) []
    validateCredentials allowed values

/-! ## Aliases of user names -/

section
variable {allowed : List String}

omit [Host]

theorem toList_removeSuffix {text suffix : String} (ends : endsWith text suffix = true) :
    text.toList = (removeSuffix text suffix).toList ++ suffix.toList := by
  obtain ⟨front, split⟩ := List.isSuffixOf_iff_suffix.mp ends
  rw [removeSuffix, if_pos ends, String.toList_ofList, ← split, List.length_append,
    Nat.add_sub_cancel, List.take_left]

theorem not_endsWith_both {text : String} (username : endsWith text "_USERNAME" = true) :
    endsWith text "_EMAIL" = false := by
  by_contra email
  rw [Bool.not_eq_false] at email
  obtain ⟨front, split⟩ := List.isSuffixOf_iff_suffix.mp username
  obtain ⟨front', split'⟩ := List.isSuffixOf_iff_suffix.mp email
  have last := congrArg List.getLast? (split.trans split'.symm)
  rw [List.getLast?_append_of_ne_nil _ (by decide), List.getLast?_append_of_ne_nil _ (by decide)] at last
  exact absurd last (by decide)

theorem emailAlias_eq_some {name username : String} (aliased : emailAlias allowed name = some username) :
    endsWith name "_EMAIL" = true ∧ username ∈ allowed ∧ endsWith username "_USERNAME" = true ∧
      removeSuffix (removeStart username "MASTER_AGENT_") "_USERNAME" = removeSuffix name "_EMAIL" := by
  rw [emailAlias] at aliased
  split at aliased
  · rename_i email
    split at aliased
    · rename_i candidate only
      cases aliased
      have member : username ∈ (usernameNames allowed).filter fun candidate =>
          removeSuffix (removeStart candidate "MASTER_AGENT_") "_USERNAME" =
            removeSuffix name "_EMAIL" := only ▸ List.mem_singleton_self _
      obtain ⟨known, same⟩ := List.mem_filter.mp member
      obtain ⟨declared, suffixed⟩ := List.mem_filter.mp known
      exact ⟨email, List.mem_dedup.mp declared, suffixed, of_decide_eq_true same⟩
    · cases aliased
  · cases aliased

theorem lawful (allowed : List String) :
    Aliases.Lawful (emailAlias allowed) (admitEntry allowed) where
  inj aliased aliased' := by
    obtain ⟨email, -, -, same⟩ := emailAlias_eq_some aliased
    obtain ⟨email', -, -, same'⟩ := emailAlias_eq_some aliased'
    refine String.toList_inj.mp ?_
    rw [toList_removeSuffix email, toList_removeSuffix email', ← same, ← same']
  proper aliased := by
    obtain ⟨-, -, username, -⟩ := emailAlias_eq_some aliased
    rw [emailAlias, not_endsWith_both username]
    rfl
  stored aliased from_ value := by
    obtain ⟨-, declared, -, -⟩ := emailAlias_eq_some aliased
    rw [admitEntry, if_neg (not_not.mpr declared)]
    cases credentialValue _ value <;> exact nofun

/-! ## What is loaded -/

/-- A value of the file: the key that holds it, and the declared name that it is given. -/
structure Sourced where
  key : String
  name : String
  value : Option String

def entries (sources : List Sourced) : List (String × Option String) :=
  sources.map fun s => (s.name, s.value)

/-- Where a value is stored. -/
def place (allowed : List String) (sources : List Sourced) (s : Sourced) : String :=
  Aliases.settle (emailAlias allowed) (sources.map Sourced.name) s.name

/-- No value is refused for itself, their names are different, and one is kept. -/
structure Acceptable (allowed : List String) (sources : List Sourced) : Prop where
  distinct : (sources.map Sourced.name).Nodup
  admits : Aliases.Admits (emailAlias allowed) (admitEntry allowed) (entries sources)
  kept : Aliases.kept (emailAlias allowed) (admitEntry allowed) (entries sources) ≠ []

/-- What a form of the file says about its outcome. -/
def Reads (allowed : List String) (sources : List Sourced) (outcome : Except Exn Loaded) : Prop :=
  ∀ result, outcome = .ok result ↔
    Acceptable allowed sources ∧ Aliases.TargetsFirst (emailAlias allowed) (entries sources) ∧
      result = Aliases.kept (emailAlias allowed) (admitEntry allowed) (entries sources)

theorem names_entries (sources : List Sourced) :
    (entries sources).map Prod.fst = sources.map Sourced.name := by
  rw [entries, List.map_map]
  rfl

theorem reads_nil (e : Exn) : Reads allowed [] (.error e) := fun _ =>
  ⟨nofun, fun ⟨accepted, _⟩ => absurd rfl accepted.kept⟩

/-- Which values are accepted, and what they make. -/
theorem reads_validate {values : Fields} {sources : List Sourced}
    (same : entriesOf values = entries sources) (distinct : (sources.map Sourced.name).Nodup) :
    Reads allowed sources (validateCredentials allowed values) := by
  intro result
  rw [validateCredentials, same, bind_ok_iff]
  rw [← names_entries] at distinct
  simp only [Aliases.run_ok_iff (lawful allowed) distinct]
  constructor
  · rintro ⟨made, ⟨admits, first, rfl⟩, done⟩
    split at done
    · cases done
    · rename_i kept
      cases done
      exact ⟨⟨names_entries sources ▸ distinct, admits, kept⟩, first, rfl⟩
  · rintro ⟨⟨-, admits, kept⟩, first, rfl⟩
    exact ⟨_, ⟨admits, first, rfl⟩, if_neg kept⟩

theorem credentialValue_ok {destination text : String} {value : Option String}
    (accepted : credentialValue destination value = .ok text) : value = some text := by
  rw [credentialValue] at accepted
  split at accepted
  · cases accepted
  · rename_i filled
    split at accepted
    · cases accepted
    · split at accepted
      · cases accepted
      · cases accepted
        cases value with
        | none => exact absurd rfl filled
        | some text => rfl

theorem admitEntry_some {name destination text : String} {value : Option String}
    (admitted : admitEntry allowed name destination value = .ok (some text)) :
    destination ∈ allowed ∧ value = some text := by
  rw [admitEntry] at admitted
  split at admitted
  · split at admitted <;> cases admitted
  · rename_i declared
    cases checked : credentialValue destination value with
    | error e => rw [checked] at admitted; cases admitted
    | ok text' =>
      rw [checked] at admitted
      cases admitted
      exact ⟨not_not.mp declared, credentialValue_ok checked⟩

theorem admitEntry_none {name destination : String} {value : Option String}
    (admitted : admitEntry allowed name destination value = .ok none) :
    destination ∉ allowed ∧ isDescriptiveMetadataName name = true := by
  rw [admitEntry] at admitted
  split at admitted
  · rename_i undeclared
    split at admitted
    · rename_i descriptive
      exact ⟨undeclared, descriptive⟩
    · cases admitted
  · cases checked : credentialValue destination value <;> rw [checked] at admitted <;> cases admitted

/-! ## Values that do not cross over -/

/-- A key that holds descriptive metadata: a full name, or an e-mail address that stands for no
user name. -/
def Metadata (allowed : List String) (key : String) : Prop :=
  endsWith key "_FULLNAME" = true ∨ endsWith key "_EMAIL" = true ∧ emailAlias allowed key = none

/-- Every loaded name is declared and has the value of exactly one key, and every value that is not
metadata is loaded. -/
structure Wired (allowed : List String) (sources : List Sourced) (result : Loaded) : Prop where
  names : (result.map Prod.fst).Nodup
  declared : ∀ pair ∈ result, pair.1 ∈ allowed
  sourced : ∀ pair ∈ result, ∃ s ∈ sources, place allowed sources s = pair.1 ∧
    s.value = some pair.2 ∧ ∀ other ∈ sources, place allowed sources other = pair.1 → other = s
  complete : ∀ s ∈ sources, Metadata allowed s.key ∨
    ∃ text, s.value = some text ∧ (place allowed sources s, text) ∈ result

variable {sources : List Sourced}

theorem place_inj (distinct : (sources.map Sourced.name).Nodup) {s other : Sourced}
    (member : s ∈ sources) (member' : other ∈ sources)
    (same : place allowed sources s = place allowed sources other) : s = other :=
  List.inj_on_of_nodup_map distinct member member'
    (Aliases.settle_inj (lawful allowed) (List.mem_map_of_mem member) (List.mem_map_of_mem member') same)

theorem mem_kept {name text : String} :
    (name, text) ∈ Aliases.kept (emailAlias allowed) (admitEntry allowed) (entries sources) ↔
      ∃ s ∈ sources, place allowed sources s = name ∧
        admitEntry allowed s.name name s.value = .ok (some text) := by
  rw [Aliases.kept, names_entries, entries, List.mem_filterMap]
  constructor
  · rintro ⟨entry, member, made⟩
    obtain ⟨s, listed, rfl⟩ := List.mem_map.mp member
    rw [Aliases.contribution] at made
    split at made
    · rename_i value admitted
      cases made
      exact ⟨s, listed, rfl, admitted⟩
    · cases made
  · rintro ⟨s, member, rfl, admitted⟩
    refine ⟨(s.name, s.value), List.mem_map_of_mem member, ?_⟩
    rw [place] at admitted ⊢
    rw [Aliases.contribution, admitted]

theorem wired_kept_iff (accepted : Acceptable allowed sources) :
    Wired allowed sources (Aliases.kept (emailAlias allowed) (admitEntry allowed) (entries sources)) ↔
      ∀ s ∈ sources, place allowed sources s ∈ allowed ∨ Metadata allowed s.key := by
  constructor
  · intro wired s member
    rcases wired.complete s member with described | ⟨text, -, stored⟩
    · exact .inr described
    · exact .inl (wired.declared _ stored)
  · intro settled
    refine ⟨Aliases.kept_nodup (lawful allowed) (names_entries sources ▸ accepted.distinct),
      fun pair member => ?_, fun pair member => ?_, fun s member => ?_⟩
    · obtain ⟨s, -, -, admitted⟩ := mem_kept.mp member
      exact (admitEntry_some admitted).1
    · obtain ⟨s, listed, here, admitted⟩ := mem_kept.mp member
      exact ⟨s, listed, here, (admitEntry_some admitted).2, fun other listed' here' =>
        place_inj accepted.distinct listed' listed (here'.trans here.symm)⟩
    · refine (settled s member).symm.imp_right fun declared => ?_
      obtain ⟨outcome, admitted⟩ := accepted.admits (s.name, s.value) (List.mem_map_of_mem member)
      rw [names_entries] at admitted
      cases outcome with
      | none => exact absurd declared (admitEntry_none admitted).1
      | some text =>
        exact ⟨text, (admitEntry_some admitted).2, mem_kept.mpr ⟨s, member, rfl, admitted⟩⟩

/-! ## Other orders of the keys -/

/-- The same value, where the members of an object may stand in another order. -/
def SameValue : Json → Json → Prop
  | .obj members, .obj members' => members.Perm members'
  | value, value' => value = value'

/-- Members under one key with the same value. -/
def Alike (member member' : String × Json) : Prop :=
  member.1 = member'.1 ∧ SameValue member.2 member'.2

/-- The members of an object in another order, those of the objects in it included. -/
def Reordered (raw raw' : Fields) : Prop :=
  ∃ shuffled, raw.Perm shuffled ∧ List.Forall₂ Alike shuffled raw'

/-- The members of an object, and of the objects in it, from the last to the first. -/
def turnedValue : Json → Json
  | .obj members => .obj members.reverse
  | value => value

def turned (raw : Fields) : Fields := (raw.map fun (key, value) => (key, turnedValue value)).reverse

/-- The keys of an object are different. -/
def distinctKeys : Json → Bool
  | .obj members => decide (members.map Prod.fst).Nodup
  | _ => true

/-- An object without duplicate keys, in itself and in the objects in it. -/
structure Distinct (raw : Fields) : Prop where
  keys : (raw.map Prod.fst).Nodup
  inner : ∀ member ∈ raw, distinctKeys member.2 = true

/-- What a form of the file promises: one outcome for every order of the keys, and values that do not
cross over. -/
structure Loads (allowed : List String) (parse : Fields → Except Exn Loaded)
    (sourcesOf : Fields → List Sourced) (raw : Fields) : Prop where
  agree : ∀ d d', Reordered raw d → Reordered raw d' → Aliases.Agree (parse d) (parse d')
  wired : ∀ d result, Reordered raw d → parse d = .ok result → Wired allowed (sourcesOf d) result

/-- If the values are acceptable and some order of the keys has every user name before the e-mail
key that stands for it, then no such pair is in the file. -/
def OrderFree (allowed : List String) (sourcesOf : Fields → List Sourced) (raw : Fields) : Prop :=
  Acceptable allowed (sourcesOf raw) → ∀ d, Reordered raw d →
    Aliases.TargetsFirst (emailAlias allowed) (entries (sourcesOf d)) →
    ¬ Aliases.Contested (emailAlias allowed) (entries (sourcesOf d))

/-- Under the same conditions, a value whose name is not declared is metadata by its own key. -/
def Settled (allowed : List String) (sourcesOf : Fields → List Sourced) (raw : Fields) : Prop :=
  Acceptable allowed (sourcesOf raw) → ∀ d, Reordered raw d →
    Aliases.TargetsFirst (emailAlias allowed) (entries (sourcesOf d)) →
    ∀ s ∈ sourcesOf d, place allowed (sourcesOf d) s ∈ allowed ∨ Metadata allowed s.key

theorem entries_perm {sources' : List Sourced} (perm : sources.Perm sources') :
    (entries sources).Perm (entries sources') := perm.map _

theorem acceptable_perm {sources' : List Sourced} (perm : sources.Perm sources') :
    Acceptable allowed sources → Acceptable allowed sources' := fun accepted =>
  ⟨(perm.map _).nodup_iff.mp accepted.distinct,
    (Aliases.admits_perm (entries_perm perm)).mp accepted.admits, fun none =>
      accepted.kept (none ▸ Aliases.kept_perm (entries_perm perm)).eq_nil⟩

theorem loads_iff {parse : Fields → Except Exn Loaded} {sourcesOf : Fields → List Sourced}
    {raw : Fields} (reads : ∀ d, Reordered raw d → Reads allowed (sourcesOf d) (parse d))
    (perm : ∀ d, Reordered raw d → (sourcesOf raw).Perm (sourcesOf d))
    (turn : ∀ d, Reordered raw d → sourcesOf (turned d) = (sourcesOf d).reverse ∧
      Reordered raw (turned d)) :
    Loads allowed parse sourcesOf raw ↔
      OrderFree allowed sourcesOf raw ∧ Settled allowed sourcesOf raw := by
  have spec (d : Fields) (ordered : Reordered raw d) (result : Loaded) : parse d = .ok result ↔
      Acceptable allowed (sourcesOf raw) ∧
        Aliases.TargetsFirst (emailAlias allowed) (entries (sourcesOf d)) ∧
        result = Aliases.kept (emailAlias allowed) (admitEntry allowed) (entries (sourcesOf d)) := by
    rw [reads d ordered result]
    exact and_congr_left' ⟨acceptable_perm (perm d ordered).symm, acceptable_perm (perm d ordered)⟩
  have mixed (d d' : Fields) (ordered : Reordered raw d) (ordered' : Reordered raw d') :
      (entries (sourcesOf d)).Perm (entries (sourcesOf d')) :=
    entries_perm ((perm d ordered).symm.trans (perm d' ordered'))
  have turns (d : Fields) (ordered : Reordered raw d) :
      ∃ d', Reordered raw d' ∧ entries (sourcesOf d') = (entries (sourcesOf d)).reverse :=
    ⟨turned d, (turn d ordered).2, by rw [(turn d ordered).1, entries, entries, List.map_reverse]⟩
  have orders := @Aliases.orders_agree_iff _ _ _ _ _ _ _ _ _ (fun d => entries (sourcesOf d)) _ _
    (lawful allowed) spec mixed turns
  constructor
  · rintro ⟨agree, wired⟩
    refine ⟨orders.mp agree, fun accepted d ordered first => ?_⟩
    exact (wired_kept_iff (acceptable_perm (perm d ordered) accepted)).mp
      (wired d _ ordered ((spec d ordered _).mpr ⟨accepted, first, rfl⟩))
  · rintro ⟨free, settled⟩
    refine ⟨orders.mpr free, fun d result ordered parsed => ?_⟩
    obtain ⟨accepted, first, rfl⟩ := (spec d ordered result).mp parsed
    exact (wired_kept_iff (acceptable_perm (perm d ordered) accepted)).mpr
      (settled accepted d ordered first)

/-- Where every key is the name itself, an uncontested file drops nothing but metadata. -/
theorem settled_of_own {sourcesOf : Fields → List Sourced} {raw : Fields}
    (own : ∀ d, ∀ s ∈ sourcesOf d, s.name = s.key)
    (perm : ∀ d, Reordered raw d → (sourcesOf raw).Perm (sourcesOf d))
    (free : OrderFree allowed sourcesOf raw) : Settled allowed sourcesOf raw := by
  intro accepted d ordered first s member
  have uncontested := free accepted d ordered first
  obtain ⟨outcome, admitted⟩ := (acceptable_perm (perm d ordered) accepted).admits (s.name, s.value)
    (List.mem_map_of_mem member)
  rw [names_entries] at admitted
  cases outcome with
  | some text => exact .inl (admitEntry_some admitted).1
  | none =>
    obtain ⟨undeclared, descriptive⟩ := admitEntry_none admitted
    rw [isDescriptiveMetadataName, Bool.or_eq_true, own d s member] at descriptive
    refine .inr (descriptive.symm.imp_right fun email => ⟨email, ?_⟩)
    -- An alias would be stored under its user name, which is declared.
    cases aliased : emailAlias allowed s.key with
    | none => rfl
    | some username =>
      rw [← own d s member] at aliased
      by_cases taken : username ∈ (sourcesOf d).map Sourced.name
      · exact absurd ⟨(s.name, s.value), List.mem_map_of_mem member, username, aliased,
          names_entries (sourcesOf d) ▸ taken⟩ uncontested
      · rw [Aliases.settle_of_free aliased taken] at undeclared
        exact absurd (emailAlias_eq_some aliased).2.1 undeclared

/-! ### Reordering -/

theorem SameValue.refl (value : Json) : SameValue value value := by
  cases value <;> first | exact List.Perm.refl _ | rfl

theorem SameValue.text {value value' : Json} (same : SameValue value value') :
    text? value = text? value' := by
  cases value <;> cases value' <;> simp_all [SameValue, text?]

theorem SameValue.turned {value value' : Json} (same : SameValue value value') :
    SameValue value (turnedValue value') := by
  cases value <;> cases value' <;>
    simp_all [SameValue, turnedValue]

theorem reordered_refl (raw : Fields) : Reordered raw raw :=
  ⟨raw, .refl _, List.forall₂_same.mpr fun member _ => ⟨rfl, .refl member.2⟩⟩

theorem Reordered.turned {raw d : Fields} (ordered : Reordered raw d) :
    Reordered raw (turned d) := by
  obtain ⟨shuffled, perm, same⟩ := ordered
  refine ⟨shuffled.reverse, perm.trans (List.reverse_perm _).symm, ?_⟩
  rw [Store.turned, List.forall₂_reverse_iff, List.forall₂_map_right_iff]
  exact same.imp fun _ _ alike => ⟨alike.1, alike.2.turned⟩

/-! ### Filling a mapping -/

theorem assignNew_ok_iff {refusal : Exn} {values made : Fields} {name : String} {value : Json} :
    assignNew refusal values name value = .ok made ↔
      name ∉ values.map Prod.fst ∧ made = values ++ [(name, value)] := by
  rw [assignNew]
  by_cases named : Named values name
  · rw [if_pos named]
    exact ⟨nofun, fun ⟨fresh, _⟩ => absurd named fresh⟩
  · rw [if_neg named, Except.ok.injEq, eq_comm]
    exact (and_iff_right named).symm

theorem nodup_names_concat {values : Fields} {name : String} {value : Json} :
    ((values ++ [(name, value)]).map Prod.fst).Nodup ↔
      (values.map Prod.fst).Nodup ∧ name ∉ values.map Prod.fst := by
  rw [List.map_append, List.map_singleton, List.nodup_append_comm, List.singleton_append,
    List.nodup_cons, and_comm]

theorem nodup_names_cons {values : Fields} {name : String} {value : Json} {names : List String} :
    ((values ++ [(name, value)]).map Prod.fst ++ names).Nodup ↔
      (values.map Prod.fst ++ name :: names).Nodup := by
  rw [List.map_append, List.append_assoc]
  rfl

/-- The name of an item, where it has one. -/
def nameOf (name : Except Exn String) : String := name.toOption.getD ""

/-- A loop that stores each item under a name of its own. -/
theorem foldlM_assignNew {I : Type} {name : I → Except Exn String} {refusal : String → Exn}
    {value : I → Json} {result : Fields} : ∀ {items : List I} {values : Fields},
    (values.map Prod.fst).Nodup →
    (items.foldlM (fun values item => do
        let destination ← name item
        assignNew (refusal destination) values destination (value item)) values = .ok result ↔
      (∀ item ∈ items, (name item).isOk = true) ∧
        (values.map Prod.fst ++ items.map fun item => nameOf (name item)).Nodup ∧
        result = values ++ items.map fun item => (nameOf (name item), value item))
  | [], values, distinct => by
    rw [List.foldlM_nil, List.map_nil, List.map_nil, List.append_nil, List.append_nil]
    exact ⟨fun same => ⟨nofun, distinct, (Except.ok.inj same).symm⟩, fun made => made.2.2 ▸ rfl⟩
  | item :: items, values, distinct => by
    rw [List.foldlM_cons, List.forall_mem_cons, List.map_cons, List.map_cons]
    cases named : name item with
    | error e => exact ⟨nofun, fun refused => nomatch refused.1.1⟩
    | ok destination =>
      have own : nameOf (.ok destination) = destination := rfl
      have moved : values ++ (destination, value item) ::
            items.map (fun item => (nameOf (name item), value item)) =
          values ++ [(destination, value item)] ++
            items.map fun item => (nameOf (name item), value item) := by
        rw [List.append_assoc, List.singleton_append]
      rw [ok_bind, bind_ok_iff, own, moved, ← @nodup_names_cons _ _ (value item)]
      simp only [assignNew_ok_iff]
      constructor
      · rintro ⟨_, ⟨fresh, rfl⟩, rest⟩
        obtain ⟨all, apart, made⟩ :=
          (foldlM_assignNew (nodup_names_concat.mpr ⟨distinct, fresh⟩)).mp rest
        exact ⟨⟨rfl, all⟩, apart, made⟩
      · rintro ⟨⟨-, all⟩, apart, made⟩
        have distinct' := (List.nodup_append.mp apart).1
        exact ⟨_, ⟨(nodup_names_concat.mp distinct').2, rfl⟩,
          (foldlM_assignNew distinct').mpr ⟨all, apart, made⟩⟩

theorem addFields_ok_iff {fields : List (String × String)} {result : Fields} :
    ∀ {members values : Fields}, (values.map Prod.fst).Nodup → values.length ≤ MAX_CREDENTIALS →
    (addFields fields values members = .ok result ↔
      let placed := members.map fun member => ((fields.lookup member.1).getD "", member.2)
      ((values ++ placed).map Prod.fst).Nodup ∧ (values ++ placed).length ≤ MAX_CREDENTIALS ∧
        result = values ++ placed)
  | [], values, distinct, few => by
    simp only [addFields, List.foldlM_nil, List.map_nil, List.append_nil, pure, Except.pure,
      Except.ok.injEq]
    exact ⟨fun same => ⟨distinct, few, same.symm⟩, fun ⟨_, _, same⟩ => same.symm⟩
  | (field, value) :: members, values, distinct, few => by
    simp only [addFields, List.foldlM_cons, bind_ok_iff, assignNew_ok_iff, List.map_cons]
    have moved : values ++ ((fields.lookup field).getD "", value) ::
          members.map (fun member => ((fields.lookup member.1).getD "", member.2)) =
        values ++ [((fields.lookup field).getD "", value)] ++
          members.map fun member => ((fields.lookup member.1).getD "", member.2) := by
      rw [List.append_assoc, List.singleton_append]
    rw [moved]
    constructor
    · rintro ⟨made, ⟨_, ⟨fresh, rfl⟩, short⟩, rest⟩
      split at short
      · cases short
      · rename_i few'
        cases short
        exact (addFields_ok_iff (nodup_names_concat.mpr ⟨distinct, fresh⟩) (Nat.not_lt.mp few')).mp rest
    · rintro ⟨apart, short, rfl⟩
      have distinct' := apart
      rw [List.map_append] at distinct'
      replace distinct' := (List.nodup_append.mp distinct').1
      have few' : (values ++ [((fields.lookup field).getD "", value)]).length ≤ MAX_CREDENTIALS := by
        refine le_trans ?_ short
        rw [@List.length_append _ (values ++ _) _]
        exact Nat.le_add_right _ _
      exact ⟨_, ⟨_, ⟨(nodup_names_concat.mp distinct').2, rfl⟩, if_neg (Nat.not_lt.mpr few')⟩,
        (addFields_ok_iff distinct' few').mpr ⟨apart, short, rfl⟩⟩

/-- What a provider's member stores. -/
def placedMembers (aliases : ProviderAliases) (member : String × Json) : Fields :=
  match providerMembers aliases member with
  | .ok (fields, members) => members.map fun given => ((fields.lookup given.1).getD "", given.2)
  | .error _ => []

theorem addProvider_ok_iff {aliases : ProviderAliases} {values result : Fields}
    {member : String × Json} (distinct : (values.map Prod.fst).Nodup)
    (few : values.length ≤ MAX_CREDENTIALS) :
    addProvider aliases values member = .ok result ↔
      (providerMembers aliases member).isOk = true ∧
        ((values ++ placedMembers aliases member).map Prod.fst).Nodup ∧
        (values ++ placedMembers aliases member).length ≤ MAX_CREDENTIALS ∧
        result = values ++ placedMembers aliases member := by
  rw [addProvider, placedMembers]
  cases providerMembers aliases member with
  | error e => exact ⟨nofun, fun refused => nomatch refused.1⟩
  | ok given => exact (addFields_ok_iff distinct few).trans (and_iff_right rfl).symm

theorem foldlM_addProvider {aliases : ProviderAliases} {result : Fields} :
    ∀ {raw values : Fields}, (values.map Prod.fst).Nodup → values.length ≤ MAX_CREDENTIALS →
    (raw.foldlM (addProvider aliases) values = .ok result ↔
      (∀ member ∈ raw, (providerMembers aliases member).isOk = true) ∧
        ((values ++ raw.flatMap (placedMembers aliases)).map Prod.fst).Nodup ∧
        (values ++ raw.flatMap (placedMembers aliases)).length ≤ MAX_CREDENTIALS ∧
        result = values ++ raw.flatMap (placedMembers aliases))
  | [], values, distinct, few => by
    simp only [List.foldlM_nil, List.flatMap_nil, List.append_nil, pure, Except.pure,
      Except.ok.injEq, List.not_mem_nil, false_imp_iff, implies_true, true_and]
    exact ⟨fun same => ⟨distinct, few, same.symm⟩, fun ⟨_, _, same⟩ => same.symm⟩
  | member :: raw, values, distinct, few => by
    rw [List.foldlM_cons, bind_ok_iff, List.flatMap_cons, ← List.append_assoc, List.forall_mem_cons]
    simp only [addProvider_ok_iff distinct few]
    constructor
    · rintro ⟨_, ⟨given, apart, short, rfl⟩, rest⟩
      obtain ⟨all, apart', short', made⟩ := (foldlM_addProvider apart short).mp rest
      exact ⟨⟨given, all⟩, apart', short', made⟩
    · rintro ⟨⟨given, all⟩, apart, short, made⟩
      have apart' := apart
      rw [List.map_append] at apart'
      have short' := short
      rw [List.length_append] at short'
      have apart'' := (List.nodup_append.mp apart').1
      have short'' := (Nat.le_add_right _ _).trans short'
      exact ⟨_, ⟨given, apart'', short'', rfl⟩,
        (foldlM_addProvider apart'' short'').mpr ⟨all, apart, short, made⟩⟩

end

/-! ## The values of each form

A file that a form refuses as a whole has no values of that form. -/

section

omit [Host]

def storeSources (values : Fields) : List Sourced :=
  values.map fun member => ⟨member.1, member.1, text? member.2⟩

def documentSources (raw : Fields) : List Sourced :=
  match canonicalValues raw with
  | .ok values => if values.length > MAX_CREDENTIALS then [] else storeSources values
  | .error _ => []

def directSources (raw : Fields) : List Sourced :=
  if isCanonical raw then documentSources raw else storeSources raw

/-- The values that the mapping selects. -/
def explicitSources (allowed : List String) (explicitMappings : List (String × String))
    (raw : Fields) : List Sourced :=
  match storedValues raw with
  | .ok values =>
    if values.length > MAX_CREDENTIALS ∨ (checkMappings allowed explicitMappings values).isOk = false
    then []
    else explicitMappings.map fun pair =>
      ⟨pair.1, pair.2, text? ((values.lookup pair.1).getD .null)⟩
  | .error _ => []

/-- The key that holds a value: the provider's own, or that of a field. -/
def heldBy (member : String × Json) (field : String) : String :=
  if (text? member.2).isSome then member.1 else field

def memberSources (aliases : ProviderAliases) (member : String × Json) : List Sourced :=
  match providerMembers aliases member with
  | .ok (fields, members) => members.map fun given =>
      ⟨heldBy member given.1, (fields.lookup given.1).getD "", text? given.2⟩
  | .error _ => []

def nestedSources (aliases : ProviderAliases) (raw : Fields) : List Sourced :=
  if (∀ member ∈ raw, (providerMembers aliases member).isOk = true) ∧
      (raw.flatMap (memberSources aliases)).length ≤ MAX_CREDENTIALS then
    raw.flatMap (memberSources aliases)
  else []

end

section
variable [CharTables] (allowed : List String) (aliases : ProviderAliases)
  (explicitMappings : List (String × String))

def flatSources (raw : Fields) : List Sourced :=
  if (checkMappings allowed explicitMappings raw).isOk = true ∧
      ∀ member ∈ raw, (friendlyDestination allowed aliases explicitMappings member.1).isOk = true then
    raw.map fun member => ⟨member.1,
      nameOf (friendlyDestination allowed aliases explicitMappings member.1), text? member.2⟩
  else []

def providerSources (raw : Fields) : List Sourced :=
  if raw = [] ∨ raw.length > MAX_CREDENTIALS then []
  else if raw.all fun member => (text? member.2).isSome then
    flatSources allowed aliases explicitMappings raw
  else if explicitMappings ≠ [] then []
  else nestedSources aliases raw

end

/-! ### What each form reads -/

section
variable {allowed : List String} {raw : Fields}

omit [Host]

theorem storeSources_names (values : Fields) :
    (storeSources values).map Sourced.name = values.map Prod.fst := by
  rw [storeSources, List.map_map]
  rfl

theorem reads_store {values : Fields} (distinct : (values.map Prod.fst).Nodup) :
    Reads allowed (storeSources values) (validateCredentials allowed values) := by
  refine reads_validate ?_ (storeSources_names values ▸ distinct)
  rw [entriesOf, entries, storeSources, List.map_map]
  rfl

theorem mem_of_lookup {key : String} {value : Json} (found : raw.lookup key = some value) :
    (key, value) ∈ raw := by
  obtain ⟨front, back, rfl, -⟩ := List.lookup_eq_some_iff.mp found
  exact List.mem_append_right _ List.mem_cons_self

theorem credentialsObject_ok {values : Fields} : ∀ {value : Option Json},
    credentialsObject value = .ok values → value = some (.obj values)
  | some (.obj (_ :: _)), read => by rw [Except.ok.inj read]

theorem canonicalValues_ok {values : Fields} (read : canonicalValues raw = .ok values) :
    ("credentials", .obj values) ∈ raw := by
  rw [canonicalValues] at read
  split at read
  · cases read
  · split at read
    · cases read
    · exact mem_of_lookup (credentialsObject_ok read)

theorem reads_document (distinct : Distinct raw) :
    Reads allowed (documentSources raw) (parseCredentialsDocument allowed raw) := by
  rw [documentSources, parseCredentialsDocument]
  cases read : canonicalValues raw with
  | error e => exact reads_nil e
  | ok values =>
    rw [ok_bind]
    simp only
    split
    · exact reads_nil _
    · exact reads_store (of_decide_eq_true (distinct.inner _ (canonicalValues_ok read)))

theorem reads_direct (distinct : Distinct raw) :
    Reads allowed (directSources raw) (parseDirectOrCanonicalCredentials allowed raw) := by
  rw [directSources, parseDirectOrCanonicalCredentials]
  split
  · exact reads_document distinct
  · split
    · rename_i empty
      rw [empty]
      exact reads_nil _
    · exact reads_store distinct.keys

/-- Values that a loop gives different names are read as they are. -/
theorem reads_bind {loop : Except Exn Fields} {values : Fields} {sources : List Sourced}
    (made : ∀ result, loop = .ok result ↔ (sources.map Sourced.name).Nodup ∧ result = values)
    (same : entriesOf values = entries sources) :
    Reads allowed sources (loop >>= validateCredentials allowed) := by
  by_cases distinct : (sources.map Sourced.name).Nodup
  · rw [(made values).mpr ⟨distinct, rfl⟩]
    exact reads_validate same distinct
  · cases ran : loop with
    | ok result => exact absurd ((made result).mp ran).1 distinct
    | error e => exact fun result => ⟨nofun, fun accepted => absurd accepted.1.distinct distinct⟩

theorem reads_explicit {explicitMappings : List (String × String)} :
    Reads allowed (explicitSources allowed explicitMappings raw)
      (parseExplicitlyMappedCredentials allowed explicitMappings raw) := by
  rw [explicitSources, parseExplicitlyMappedCredentials]
  cases storedValues raw with
  | error e => exact reads_nil e
  | ok values =>
    rw [ok_bind]
    simp only
    by_cases many : values.length > MAX_CREDENTIALS
    · rw [if_pos many, if_pos (.inl many)]
      exact reads_nil _
    · rw [if_neg many]
      cases checked : checkMappings allowed explicitMappings values with
      | error e =>
        rw [if_pos (.inr rfl)]
        exact reads_nil e
      | ok _ =>
        rw [if_neg (by rintro (more | refused); exacts [many more, nomatch refused])]
        refine @reads_bind _ _ (explicitMappings.map fun pair =>
          (pair.2, (values.lookup pair.1).getD .null)) _ (fun result => ?_) ?_
        · have selects := @foldlM_assignNew _ (fun pair => .ok pair.2)
            (fun destination => configurationError
              ("credential mappings target the same declared credential: " ++ destination))
            (fun pair => (values.lookup pair.1).getD .null) result explicitMappings [] List.nodup_nil
          rw [List.map_map]
          exact selects.trans (and_iff_right fun _ _ => rfl)
        · rw [entriesOf, entries, List.map_map, List.map_map]
          rfl

end

section
variable [CharTables] {allowed : List String} {aliases : ProviderAliases}
  {explicitMappings : List (String × String)} {raw : Fields}

theorem reads_flat : Reads allowed (flatSources allowed aliases explicitMappings raw)
    (parseFlatProviderCredentials allowed aliases explicitMappings raw) := by
  rw [flatSources, parseFlatProviderCredentials]
  cases checked : checkMappings allowed explicitMappings raw with
  | error e =>
    rw [if_neg (fun accepted => nomatch accepted.1)]
    exact reads_nil e
  | ok _ =>
    have infers (result : Fields) := @foldlM_assignNew _
      (fun member => friendlyDestination allowed aliases explicitMappings member.1)
      (fun destination => configurationError
        ("credential keys map to the same declared credential: " ++ destination))
      Prod.snd result raw [] List.nodup_nil
    by_cases all : ∀ member ∈ raw,
        (friendlyDestination allowed aliases explicitMappings member.1).isOk = true
    · rw [if_pos ⟨rfl, all⟩]
      refine @reads_bind _ _ (raw.map fun member =>
        (nameOf (friendlyDestination allowed aliases explicitMappings member.1), member.2)) _
        (fun result => ?_) ?_
      · rw [List.map_map]
        exact (infers result).trans (and_iff_right all)
      · rw [entriesOf, entries, List.map_map, List.map_map]
        rfl
    · rw [if_neg fun accepted => all accepted.2]
      cases inferred : inferNames allowed aliases explicitMappings raw with
      | ok values => exact absurd ((infers values).mp inferred).1 all
      | error e => exact reads_nil e

omit [Host] [CharTables] in
theorem entries_memberSources (member : String × Json) :
    entriesOf (placedMembers aliases member) = entries (memberSources aliases member) := by
  rw [placedMembers, memberSources]
  cases providerMembers aliases member with
  | error e => rfl
  | ok given =>
    rw [entriesOf, entries, List.map_map, List.map_map]
    rfl

omit [Host] [CharTables] in
theorem entries_nested (raw : Fields) :
    entriesOf (raw.flatMap (placedMembers aliases)) = entries (raw.flatMap (memberSources aliases)) := by
  rw [entriesOf, entries, List.map_flatMap, List.map_flatMap]
  exact List.flatMap_congr fun member _ => entries_memberSources member

omit [Host] [CharTables] in
theorem reads_nested : Reads allowed (nestedSources aliases raw)
    (raw.foldlM (addProvider aliases) [] >>= validateCredentials allowed) := by
  have fills (result : Fields) := @foldlM_addProvider aliases result raw [] List.nodup_nil (Nat.zero_le _)
  have names : (raw.flatMap (placedMembers aliases)).map Prod.fst =
      (raw.flatMap (memberSources aliases)).map Sourced.name := by
    rw [← names_entries, ← entries_nested, entriesOf, List.map_map]
    rfl
  have length : (raw.flatMap (placedMembers aliases)).length =
      (raw.flatMap (memberSources aliases)).length := by
    have same := congrArg List.length names
    rwa [List.length_map, List.length_map] at same
  simp only [List.nil_append, names, length] at fills
  rw [nestedSources]
  split
  · rename_i fits
    exact reads_bind (fun result => (fills result).trans
      ⟨fun made => ⟨made.2.1, made.2.2.2⟩, fun made => ⟨fits.1, made.1, fits.2, made.2⟩⟩)
      (entries_nested raw)
  · rename_i refused
    cases filled : raw.foldlM (addProvider aliases) [] with
    | ok values =>
      obtain ⟨all, -, few, -⟩ := (fills values).mp filled
      exact absurd ⟨all, few⟩ refused
    | error e => exact reads_nil e

theorem reads_provider : Reads allowed (providerSources allowed aliases explicitMappings raw)
    (parseProviderCredentials allowed aliases explicitMappings raw) := by
  rw [providerSources, parseProviderCredentials]
  by_cases empty : raw = []
  · rw [if_pos empty, if_pos (.inl empty)]
    exact reads_nil _
  · rw [if_neg empty]
    by_cases many : raw.length > MAX_CREDENTIALS
    · rw [if_pos many, if_pos (.inr many)]
      exact reads_nil _
    · rw [if_neg many, if_neg (not_or.mpr ⟨empty, many⟩)]
      split
      · exact reads_flat
      · split
        · exact reads_nil _
        · exact reads_nested

end

/-! ### Sources in other orders -/

section
variable {raw d : Fields}

omit [Host]

theorem SameValue.turnedValue (value : Json) : SameValue value (turnedValue value) :=
  (SameValue.refl value).turned

theorem reordered_of_perm (perm : raw.Perm d) : Reordered raw d :=
  ⟨d, perm, List.forall₂_same.mpr fun member _ => ⟨rfl, .refl member.2⟩⟩

theorem distinct_iff_lookup (distinct : (raw.map Prod.fst).Nodup) {key : String} {value : Json} :
    raw.lookup key = some value ↔ (key, value) ∈ raw := by
  refine ⟨mem_of_lookup, fun member => ?_⟩
  obtain ⟨front, back, rfl⟩ := List.append_of_mem member
  refine List.lookup_eq_some_iff.mpr ⟨front, back, rfl, fun other early => ?_⟩
  rw [List.map_append, List.nodup_append] at distinct
  exact bne_iff_ne.mpr
    (distinct.2.2 _ (List.mem_map_of_mem early) _ (List.mem_cons_self)).symm

section
variable {X : Type} {g : String × Json → X} {h : String × Json → List X}

theorem map_of_alike (alike : ∀ m m', Alike m m' → g m = g m') : ∀ {xs ys : Fields},
    List.Forall₂ Alike xs ys → xs.map g = ys.map g
  | [], _, .nil => rfl
  | _ :: _, _ :: _, .cons head tail => by
    rw [List.map_cons, List.map_cons, alike _ _ head, map_of_alike alike tail]

theorem map_reordered (alike : ∀ m m', Alike m m' → g m = g m') (ordered : Reordered raw d) :
    (raw.map g).Perm (d.map g) := by
  obtain ⟨shuffled, perm, same⟩ := ordered
  exact map_of_alike alike same ▸ perm.map g

theorem flatMap_of_alike (alike : ∀ m m', Alike m m' → (h m).Perm (h m')) : ∀ {xs ys : Fields},
    List.Forall₂ Alike xs ys → (xs.flatMap h).Perm (ys.flatMap h)
  | [], _, .nil => .refl _
  | _ :: _, _ :: _, .cons head tail => by
    rw [List.flatMap_cons, List.flatMap_cons]
    exact (alike _ _ head).append (flatMap_of_alike alike tail)

theorem flatMap_reordered (alike : ∀ m m', Alike m m' → (h m).Perm (h m'))
    (ordered : Reordered raw d) : (raw.flatMap h).Perm (d.flatMap h) := by
  obtain ⟨shuffled, perm, same⟩ := ordered
  exact (perm.flatMap_right h).trans (flatMap_of_alike alike same)

theorem forall_reordered {p : String × Json → Bool} (alike : ∀ m m', Alike m m' → p m = p m')
    (ordered : Reordered raw d) : (∀ m ∈ raw, p m = true) ↔ ∀ m ∈ d, p m = true := by
  have perm := map_reordered alike ordered
  have each (xs : Fields) : (∀ m ∈ xs, p m = true) ↔ ∀ b ∈ xs.map p, b = true :=
    (List.forall_mem_map (P := (· = true))).symm
  rw [each, each]
  simp only [perm.mem_iff]

theorem alike_turned (member : String × Json) : Alike member (member.1, turnedValue member.2) :=
  ⟨rfl, .turnedValue member.2⟩

theorem map_turned (alike : ∀ m m', Alike m m' → g m = g m') :
    (turned d).map g = (d.map g).reverse := by
  rw [turned, List.map_reverse, List.map_map]
  exact congrArg List.reverse (List.map_congr_left fun m _ => (alike _ _ (alike_turned m)).symm)

theorem flatMap_turned (turns : ∀ m : String × Json, h (m.1, turnedValue m.2) = (h m).reverse) :
    (turned d).flatMap h = (d.flatMap h).reverse := by
  rw [turned, List.reverse_flatMap, List.flatMap_def, List.flatMap_def, List.map_reverse, List.map_map,
    List.map_reverse]
  exact congrArg (fun lists => (List.reverse lists).flatten)
    (List.map_congr_left fun m _ => turns m)

end

theorem keys_reordered (ordered : Reordered raw d) : (raw.map Prod.fst).Perm (d.map Prod.fst) :=
  map_reordered (fun _ _ alike => alike.1) ordered

theorem length_reordered (ordered : Reordered raw d) : raw.length = d.length := by
  have same := (keys_reordered ordered).length_eq
  rwa [List.length_map, List.length_map] at same

theorem SameValue.distinctKeys : ∀ {value value' : Json}, SameValue value value' →
    distinctKeys value = distinctKeys value'
  | .obj _, .obj _, same => decide_eq_decide.mpr (List.Perm.map Prod.fst same).nodup_iff
  | .obj _, .null, same | .obj _, .bool _, same | .obj _, .int _, same | .obj _, .float _, same
  | .obj _, .str _, same | .obj _, .arr _, same => nomatch same
  | .null, _, same | .bool _, _, same | .int _, _, same | .float _, _, same | .str _, _, same
  | .arr _, _, same => congrArg Store.distinctKeys same

theorem distinct_reordered (distinct : Distinct raw) (ordered : Reordered raw d) : Distinct d :=
  ⟨(keys_reordered ordered).nodup_iff.mp distinct.keys,
    (forall_reordered (fun _ _ alike => alike.2.distinctKeys) ordered).mp distinct.inner⟩

theorem exists_alike : ∀ {xs ys : Fields}, List.Forall₂ Alike xs ys → ∀ m ∈ xs, ∃ m' ∈ ys, Alike m m'
  | _ :: _, _ :: _, .cons head tail, m, member => by
    rcases List.mem_cons.mp member with rfl | member
    · exact ⟨_, List.mem_cons_self, head⟩
    · obtain ⟨m', member', alike⟩ := exists_alike tail m member
      exact ⟨m', List.mem_cons_of_mem _ member', alike⟩

theorem lookup_reordered (distinct : Distinct raw) (ordered : Reordered raw d) (key : String) :
    Option.Rel SameValue (raw.lookup key) (d.lookup key) := by
  have distinct' := distinct_reordered distinct ordered
  cases found : raw.lookup key with
  | some value =>
    obtain ⟨shuffled, perm, same⟩ := ordered
    obtain ⟨⟨key', value'⟩, member, rfl, alike⟩ :=
      exists_alike same _ (perm.mem_iff.mp (mem_of_lookup found))
    rw [(distinct_iff_lookup distinct'.keys).mpr member]
    exact .some alike
  | none =>
    cases found' : d.lookup key with
    | none => exact .none
    | some value' =>
      obtain ⟨member, listed, rfl⟩ := List.mem_map.mp ((keys_reordered ordered).mem_iff.mpr
        (List.mem_map_of_mem (mem_of_lookup found')))
      rw [(distinct_iff_lookup distinct.keys).mpr listed] at found
      cases found

theorem lookup_turned (distinct : Distinct d) (key : String) :
    (turned d).lookup key = (d.lookup key).map turnedValue := by
  have distinct' := distinct_reordered distinct (reordered_refl d).turned
  refine Option.ext fun value => ?_
  rw [distinct_iff_lookup distinct'.keys, Option.map_eq_some_iff]
  simp only [distinct_iff_lookup distinct.keys, turned, List.mem_reverse, List.mem_map,
    Prod.mk.injEq]
  exact ⟨fun ⟨m, member, same⟩ => ⟨m.2, same.1 ▸ member, same.2⟩,
    fun ⟨value', member, same⟩ => ⟨(key, value'), member, rfl, same⟩⟩

theorem isSome_lookup_reordered (distinct : Distinct raw) (ordered : Reordered raw d) (key : String) :
    (raw.lookup key).isSome = (d.lookup key).isSome := by
  have related := lookup_reordered distinct ordered key
  generalize raw.lookup key = found, d.lookup key = found' at related
  cases related <;> rfl

theorem isCanonical_reordered (distinct : Distinct raw) (ordered : Reordered raw d) :
    isCanonical raw = isCanonical d := by
  rw [isCanonical, isCanonical, isSome_lookup_reordered distinct ordered,
    isSome_lookup_reordered distinct ordered]

theorem checkMappings_reordered {allowed : List String} {explicitMappings : List (String × String)}
    (ordered : Reordered raw d) :
    checkMappings allowed explicitMappings raw = checkMappings allowed explicitMappings d := by
  have named (name : String) : Named raw name ↔ Named d name := (keys_reordered ordered).mem_iff
  simp only [checkMappings, named]

theorem any_key_reordered (p : String → Bool) (ordered : Reordered raw d) :
    raw.any (fun member => p member.1) = d.any fun member => p member.1 := by
  have key (xs : Fields) : xs.any (fun member => p member.1) = (xs.map Prod.fst).any p := by
    rw [List.any_map]
    rfl
  rw [key, key, (keys_reordered ordered).any_eq]

theorem SameValue.eq_str {text : String} : ∀ {value value' : Json}, SameValue value value' →
    (value = .str text ↔ value' = .str text)
  | .obj _, .obj _, _ => ⟨nofun, nofun⟩
  | .obj _, .null, same | .obj _, .bool _, same | .obj _, .int _, same | .obj _, .float _, same
  | .obj _, .str _, same | .obj _, .arr _, same => nomatch same
  | .null, _, same | .bool _, _, same | .int _, _, same | .float _, _, same | .str _, _, same
  | .arr _, _, same => same ▸ Iff.rfl

/-- Two outcomes that agree up to the order of the values. -/
def SameValues : Except Exn Fields → Except Exn Fields → Prop
  | .ok values, .ok values' => values.Perm values'
  | .error e, .error e' => e = e'
  | _, _ => False

theorem credentialsObject_same : ∀ {value value' : Option Json}, Option.Rel SameValue value value' →
    SameValues (credentialsObject value) (credentialsObject value')
  | _, _, .none => rfl
  | some (.obj []), some (.obj _), .some same => by
    rw [List.nil_perm.mp same]
    rfl
  | some (.obj (first :: rest)), some (.obj []), .some same => nomatch List.Perm.eq_nil same
  | some (.obj (_ :: _)), some (.obj (_ :: _)), .some same => same
  | some (.obj _), some .null, .some same | some (.obj _), some (.bool _), .some same
  | some (.obj _), some (.int _), .some same | some (.obj _), some (.float _), .some same
  | some (.obj _), some (.str _), .some same | some (.obj _), some (.arr _), .some same => nomatch same
  | some .null, _, .some same | some (.bool _), _, .some same | some (.int _), _, .some same
  | some (.float _), _, .some same | some (.str _), _, .some same | some (.arr _), _, .some same => by
    cases same
    rfl

theorem credentialsObject_turned (value : Option Json) :
    credentialsObject (value.map turnedValue) = (credentialsObject value).map List.reverse := by
  match value with
  | some (.obj (first :: rest)) =>
    obtain ⟨last, others, same⟩ := List.exists_cons_of_ne_nil
      (mt List.reverse_eq_nil_iff.mp (List.cons_ne_nil first rest))
    have turned : (some (Json.obj (first :: rest))).map turnedValue =
        some (.obj (last :: others)) := congrArg (some ∘ Json.obj) same
    rw [turned]
    exact congrArg Except.ok same.symm
  | none | some .null | some (.bool _) | some (.int _) | some (.float _) | some (.str _)
  | some (.arr _) | some (.obj []) => rfl

theorem canonicalValues_reordered (distinct : Distinct raw) (ordered : Reordered raw d) :
    SameValues (canonicalValues raw) (canonicalValues d) := by
  rw [canonicalValues, canonicalValues]
  have keys := any_key_reordered (fun key => key ≠ "schema" ∧ key ≠ "credentials") ordered
  rw [keys]
  split
  · rfl
  · have schema : raw.lookup "schema" = some (.str SCHEMA) ↔ d.lookup "schema" = some (.str SCHEMA) := by
      have related := lookup_reordered distinct ordered "schema"
      generalize raw.lookup "schema" = found, d.lookup "schema" = found' at related
      cases related with
      | none => rfl
      | some same => simp only [Option.some.injEq, same.eq_str]
    simp only [ne_eq, schema]
    split
    · rfl
    · exact credentialsObject_same (lookup_reordered distinct ordered "credentials")

theorem canonicalValues_turned (distinct : Distinct d) :
    canonicalValues (turned d) = (canonicalValues d).map List.reverse := by
  have ordered := (reordered_refl d).turned
  rw [canonicalValues, canonicalValues]
  have keys := any_key_reordered (fun key => key ≠ "schema" ∧ key ≠ "credentials") ordered
  rw [keys]
  split
  · rfl
  · rw [lookup_turned distinct, lookup_turned distinct]
    have schema : (d.lookup "schema").map turnedValue = some (.str SCHEMA) ↔
        d.lookup "schema" = some (.str SCHEMA) := by
      cases d.lookup "schema" with
      | none => rfl
      | some value =>
        simp only [Option.map_some, Option.some.injEq, (SameValue.turnedValue value).eq_str]
    simp only [ne_eq, schema]
    split
    · rfl
    · exact credentialsObject_turned _

/-! ### The sources of each form in other orders -/

theorem SameValues.cases {outcome outcome' : Except Exn Fields} (same : SameValues outcome outcome') :
    (∃ e, outcome = .error e ∧ outcome' = .error e) ∨
      ∃ values values', outcome = .ok values ∧ outcome' = .ok values' ∧ values.Perm values' := by
  cases outcome <;> cases outcome' <;> first | exact same.elim | skip
  · exact .inl ⟨_, rfl, congrArg _ (Eq.symm same)⟩
  · exact .inr ⟨_, _, rfl, rfl, same⟩

theorem storeSources_perm {values values' : Fields} (ordered : Reordered values values') :
    (storeSources values).Perm (storeSources values') :=
  map_reordered (fun _ _ alike => by rw [alike.1, alike.2.text]) ordered

theorem storeSources_turned (values : Fields) :
    storeSources (turned values) = (storeSources values).reverse :=
  map_turned fun _ _ alike => by rw [alike.1, alike.2.text]

theorem documentSources_perm (distinct : Distinct raw) (ordered : Reordered raw d) :
    (documentSources raw).Perm (documentSources d) := by
  rw [documentSources, documentSources]
  rcases (canonicalValues_reordered distinct ordered).cases with
    ⟨e, read, read'⟩ | ⟨values, values', read, read', perm⟩
  · rw [read, read']
  · rw [read, read']
    simp only [perm.length_eq]
    split
    · rfl
    · exact storeSources_perm (reordered_of_perm perm)

theorem documentSources_turned (distinct : Distinct d) :
    documentSources (turned d) = (documentSources d).reverse := by
  rw [documentSources, documentSources, canonicalValues_turned distinct]
  cases canonicalValues d with
  | error e => rfl
  | ok values =>
    simp only [Except.map, List.length_reverse]
    split
    · rfl
    · rw [storeSources, storeSources, List.map_reverse]

theorem directSources_perm (distinct : Distinct raw) (ordered : Reordered raw d) :
    (directSources raw).Perm (directSources d) := by
  rw [directSources, directSources, isCanonical_reordered distinct ordered]
  split
  · exact documentSources_perm distinct ordered
  · exact storeSources_perm ordered

theorem directSources_turned (distinct : Distinct d) :
    directSources (turned d) = (directSources d).reverse := by
  rw [directSources, directSources, ← isCanonical_reordered distinct (reordered_refl d).turned]
  split
  · exact documentSources_turned distinct
  · exact storeSources_turned d

/-- A mapping selects the same values in every order. -/
theorem explicitSources_reordered {allowed : List String} {explicitMappings : List (String × String)}
    (distinct : Distinct raw) (ordered : Reordered raw d) :
    explicitSources allowed explicitMappings raw = explicitSources allowed explicitMappings d := by
  -- Both stores have the same values up to order, under different keys.
  have stored : (∃ e, storedValues raw = .error e ∧ storedValues d = .error e) ∨
      ∃ values values', storedValues raw = .ok values ∧ storedValues d = .ok values' ∧
        Reordered values values' ∧
        ∀ key, text? ((values.lookup key).getD .null) = text? ((values'.lookup key).getD .null) := by
    rw [storedValues, storedValues, isCanonical_reordered distinct ordered]
    split
    · rcases (canonicalValues_reordered distinct ordered).cases with
        ⟨e, read, read'⟩ | ⟨values, values', read, read', perm⟩
      · exact .inl ⟨e, read, read'⟩
      · refine .inr ⟨values, values', read, read', reordered_of_perm perm, fun key => ?_⟩
        have different : (values.map Prod.fst).Nodup :=
          of_decide_eq_true (distinct.inner _ (canonicalValues_ok read))
        have same : values.lookup key = values'.lookup key := Option.ext fun value => by
          rw [distinct_iff_lookup different, distinct_iff_lookup ((perm.map _).nodup_iff.mp different),
            perm.mem_iff]
        rw [same]
    · refine .inr ⟨raw, d, rfl, rfl, ordered, fun key => ?_⟩
      have related := lookup_reordered distinct ordered key
      generalize raw.lookup key = found, d.lookup key = found' at related
      cases related with
      | none => rfl
      | some same => exact same.text
  rw [explicitSources, explicitSources]
  rcases stored with ⟨e, read, read'⟩ | ⟨values, values', read, read', same, texts⟩
  · rw [read, read']
  · rw [read, read']
    simp only [length_reordered same, checkMappings_reordered same, texts]

end

section
variable [CharTables] {allowed : List String} {aliases : ProviderAliases}
  {explicitMappings : List (String × String)} {raw d : Fields}

theorem flatSources_perm (ordered : Reordered raw d) :
    (flatSources allowed aliases explicitMappings raw).Perm
      (flatSources allowed aliases explicitMappings d) := by
  have friendly := forall_reordered (p := fun member =>
    (friendlyDestination allowed aliases explicitMappings member.1).isOk)
    (fun _ _ alike => by rw [alike.1]) ordered
  rw [flatSources, flatSources, checkMappings_reordered ordered]
  simp only [friendly]
  split
  · exact map_reordered (fun _ _ alike => by rw [alike.1, alike.2.text]) ordered
  · rfl

theorem flatSources_turned (d : Fields) : flatSources allowed aliases explicitMappings (turned d) =
    (flatSources allowed aliases explicitMappings d).reverse := by
  have ordered := (reordered_refl d).turned
  have friendly := forall_reordered (p := fun member =>
    (friendlyDestination allowed aliases explicitMappings member.1).isOk)
    (fun _ _ alike => by rw [alike.1]) ordered
  rw [flatSources, flatSources, ← checkMappings_reordered ordered]
  simp only [← friendly]
  split
  · exact map_turned fun _ _ alike => by rw [alike.1, alike.2.text]
  · rfl

omit [Host] [CharTables] in
theorem providerFieldsOf_same (provider : String) (fields : List (String × String)) :
    ∀ {value value' : Json}, SameValue value value' →
      SameValues (providerFieldsOf provider fields value) (providerFieldsOf provider fields value')
  | .obj [], .obj _, same => by
    rw [List.nil_perm.mp same]
    rfl
  | .obj (first :: rest), .obj [], same => nomatch List.Perm.eq_nil same
  | .obj (_ :: _), .obj (_ :: _), same => same
  | .obj _, .null, same | .obj _, .bool _, same | .obj _, .int _, same | .obj _, .float _, same
  | .obj _, .str _, same | .obj _, .arr _, same => nomatch same
  | .str text, _, same => by
    cases same
    rw [providerFieldsOf]
    split
    · rfl
    · exact List.Perm.refl _
  | .null, _, same | .bool _, _, same | .int _, _, same | .float _, _, same | .arr _, _, same => by
    cases same
    rfl

omit [Host] [CharTables] in
theorem providerFieldsOf_turned (provider : String) (fields : List (String × String)) (value : Json) :
    providerFieldsOf provider fields (turnedValue value) =
      (providerFieldsOf provider fields value).map List.reverse := by
  match value with
  | .obj (first :: rest) =>
    obtain ⟨last, others, same⟩ := List.exists_cons_of_ne_nil
      (mt List.reverse_eq_nil_iff.mp (List.cons_ne_nil first rest))
    have turned : turnedValue (.obj (first :: rest)) = .obj (last :: others) := congrArg Json.obj same
    rw [turned]
    exact congrArg Except.ok same.symm
  | .str text =>
    change providerFieldsOf provider fields (.str text) = _
    rw [providerFieldsOf]
    split <;> rfl
  | .null | .bool _ | .int _ | .float _ | .arr _ | .obj [] => rfl

omit [Host] [CharTables] in
theorem providerMembers_alike {m m' : String × Json} (alike : Alike m m') :
    (providerMembers aliases m).isOk = (providerMembers aliases m').isOk ∧
      (memberSources aliases m).Perm (memberSources aliases m') := by
  obtain ⟨provider, value⟩ := m
  obtain ⟨provider', value'⟩ := m'
  obtain ⟨rfl, same⟩ := alike
  have held : heldBy (provider, value) = heldBy (provider, value') := by
    funext field
    rw [heldBy, heldBy, same.text]
  rw [memberSources, memberSources, held, providerMembers, providerMembers]
  simp only
  split
  · exact ⟨rfl, .refl _⟩
  · rcases (providerFieldsOf_same provider ((aliases.lookup provider).getD []) same).cases with
      ⟨e, read, read'⟩ | ⟨members, members', read, read', perm⟩
    · rw [read, read']
      exact ⟨rfl, .refl _⟩
    · rw [read, read', ok_bind, ok_bind, perm.any_eq]
      split
      · exact ⟨rfl, .refl _⟩
      · exact ⟨rfl, perm.map _⟩

omit [Host] [CharTables] in
theorem memberSources_turned (m : String × Json) :
    memberSources aliases (m.1, turnedValue m.2) = (memberSources aliases m).reverse := by
  obtain ⟨provider, value⟩ := m
  have held : heldBy (provider, turnedValue value) = heldBy (provider, value) := by
    funext field
    rw [heldBy, heldBy, (SameValue.turnedValue value).text]
  rw [memberSources, memberSources, held, providerMembers, providerMembers]
  by_cases unknown : (aliases.lookup provider).getD [] = []
  · simp only [if_pos unknown]
    rfl
  · simp only [if_neg unknown, providerFieldsOf_turned]
    cases providerFieldsOf provider ((aliases.lookup provider).getD []) value with
    | error e => rfl
    | ok members =>
      simp only [Except.map, ok_bind, List.any_reverse]
      by_cases strange : (members.any fun given =>
          (((aliases.lookup provider).getD []).lookup given.1).isNone) = true
      · simp only [if_pos strange]
        rfl
      · simp only [if_neg strange]
        exact List.map_reverse

omit [Host] [CharTables] in
theorem nestedSources_perm (ordered : Reordered raw d) :
    (nestedSources aliases raw).Perm (nestedSources aliases d) := by
  have perm := flatMap_reordered (h := memberSources aliases)
    (fun _ _ alike => (providerMembers_alike alike).2) ordered
  have all := forall_reordered (p := fun member => (providerMembers aliases member).isOk)
    (fun _ _ alike => (providerMembers_alike alike).1) ordered
  rw [nestedSources, nestedSources]
  simp only [all, perm.length_eq]
  split
  · exact perm
  · rfl

omit [Host] [CharTables] in
theorem nestedSources_turned (d : Fields) :
    nestedSources aliases (turned d) = (nestedSources aliases d).reverse := by
  have turns := flatMap_turned (d := d) (@memberSources_turned aliases)
  have all := forall_reordered (p := fun member => (providerMembers aliases member).isOk)
    (fun _ _ alike => (providerMembers_alike alike).1) (reordered_refl d).turned
  rw [nestedSources, nestedSources]
  simp only [← all, turns, List.length_reverse]
  split
  · rfl
  · rfl

theorem providerSources_perm (ordered : Reordered raw d) :
    (providerSources allowed aliases explicitMappings raw).Perm
      (providerSources allowed aliases explicitMappings d) := by
  have length := length_reordered ordered
  have empty : raw = [] ↔ d = [] := by
    rw [← List.length_eq_zero_iff, length, List.length_eq_zero_iff]
  have texts := forall_reordered (p := fun member => (text? member.2).isSome)
    (fun _ _ alike => by rw [alike.2.text]) ordered
  rw [providerSources, providerSources]
  simp only [empty, length, List.all_eq_true, texts]
  split
  · rfl
  · split
    · exact flatSources_perm ordered
    · split
      · rfl
      · exact nestedSources_perm ordered

theorem providerSources_turned (d : Fields) :
    providerSources allowed aliases explicitMappings (turned d) =
      (providerSources allowed aliases explicitMappings d).reverse := by
  have ordered := (reordered_refl d).turned
  have length := length_reordered ordered
  have empty : turned d = [] ↔ d = [] := by
    rw [← List.length_eq_zero_iff, ← length, List.length_eq_zero_iff]
  have texts := forall_reordered (p := fun member => (text? member.2).isSome)
    (fun _ _ alike => by rw [alike.2.text]) ordered
  rw [providerSources, providerSources]
  simp only [empty, ← length, List.all_eq_true, ← texts]
  split
  · rfl
  · split
    · exact flatSources_turned d
    · split
      · rfl
      · exact nestedSources_turned d

omit [Host] [CharTables] in
theorem storeSources_own {values : Fields} : ∀ s ∈ storeSources values, s.name = s.key := by
  intro s member
  obtain ⟨_, -, rfl⟩ := List.mem_map.mp member
  rfl

omit [Host] [CharTables] in
theorem documentSources_own (raw : Fields) : ∀ s ∈ documentSources raw, s.name = s.key := by
  rw [documentSources]
  split
  · split
    · exact fun _ none => absurd none List.not_mem_nil
    · exact storeSources_own
  · exact fun _ none => absurd none List.not_mem_nil

omit [Host] [CharTables] in
theorem directSources_own (raw : Fields) : ∀ s ∈ directSources raw, s.name = s.key := by
  rw [directSources]
  split
  · exact documentSources_own raw
  · exact storeSources_own

omit [Host] [CharTables] in
theorem place_declared {sources : List Sourced} {s : Sourced} (declared : s.name ∈ allowed) :
    place allowed sources s ∈ allowed := by
  rw [place, Aliases.settle]
  split
  · rename_i username aliased
    split
    · exact declared
    · exact (emailAlias_eq_some aliased).2.1
  · exact declared

omit [Host] [CharTables] in
theorem explicitSources_declared : ∀ s ∈ explicitSources allowed explicitMappings raw,
    s.name ∈ allowed := by
  rw [explicitSources]
  split
  · split
    · exact fun _ none => absurd none List.not_mem_nil
    · rename_i values _ accepted
      obtain ⟨-, mapped⟩ := not_or.mp accepted
      intro s member
      obtain ⟨pair, listed, rfl⟩ := List.mem_map.mp member
      by_contra undeclared
      refine mapped ?_
      have invalid : (explicitMappings.map Prod.snd).filter (fun destination => destination ∉ allowed) ≠ [] :=
        List.ne_nil_of_mem (List.mem_filter.mpr
          ⟨List.mem_map_of_mem listed, decide_eq_true undeclared⟩)
      rw [checkMappings]
      simp only [if_pos invalid]
      split <;> rfl
  · exact fun _ none => absurd none List.not_mem_nil

omit [Host] [CharTables] in
theorem explicit_loads (distinct : Distinct raw) :
    Loads allowed (parseExplicitlyMappedCredentials allowed explicitMappings)
      (explicitSources allowed explicitMappings) raw := by
  have reads (d : Fields) (ordered : Reordered raw d) :
      Reads allowed (explicitSources allowed explicitMappings raw)
        (parseExplicitlyMappedCredentials allowed explicitMappings d) :=
    explicitSources_reordered distinct ordered ▸ reads_explicit
  constructor
  · intro d d' ordered ordered'
    cases parsed : parseExplicitlyMappedCredentials allowed explicitMappings d with
    | ok made =>
      rw [(reads d' ordered' made).mpr ((reads d ordered made).mp parsed)]
      exact List.Perm.refl made
    | error e =>
      cases parsed' : parseExplicitlyMappedCredentials allowed explicitMappings d' with
      | error e' => exact trivial
      | ok made =>
        rw [(reads d ordered made).mpr ((reads d' ordered' made).mp parsed')] at parsed
        cases parsed
  · intro d result ordered parsed
    obtain ⟨accepted, -, rfl⟩ := (reads d ordered result).mp parsed
    rw [← explicitSources_reordered distinct ordered]
    exact (wired_kept_iff accepted).mpr fun s member =>
      .inl (place_declared (explicitSources_declared s member))

/-- For which files the order of the keys does not matter and no value crosses over. -/
theorem credentials_loaded (allowed : List String) (aliases : ProviderAliases)
    (explicitMappings : List (String × String)) (raw : Fields) (distinct : Distinct raw) :
    (Loads allowed (parseCredentialsDocument allowed) documentSources raw ↔
      OrderFree allowed documentSources raw) ∧
    (Loads allowed (parseDirectOrCanonicalCredentials allowed) directSources raw ↔
      OrderFree allowed directSources raw) ∧
    Loads allowed (parseExplicitlyMappedCredentials allowed explicitMappings)
      (explicitSources allowed explicitMappings) raw ∧
    (Loads allowed (parseProviderCredentials allowed aliases explicitMappings)
        (providerSources allowed aliases explicitMappings) raw ↔
      OrderFree allowed (providerSources allowed aliases explicitMappings) raw ∧
        Settled allowed (providerSources allowed aliases explicitMappings) raw) := by
  have ordered (d : Fields) (reordered : Reordered raw d) := distinct_reordered distinct reordered
  refine ⟨?_, ?_, explicit_loads distinct, ?_⟩
  · have perm (d : Fields) := documentSources_perm (d := d) distinct
    rw [loads_iff (fun d reordered => reads_document (ordered d reordered)) perm
      fun d reordered => ⟨documentSources_turned (ordered d reordered), reordered.turned⟩]
    exact and_iff_left_of_imp (settled_of_own documentSources_own perm)
  · have perm (d : Fields) := directSources_perm (d := d) distinct
    rw [loads_iff (fun d reordered => reads_direct (ordered d reordered)) perm
      fun d reordered => ⟨directSources_turned (ordered d reordered), reordered.turned⟩]
    exact and_iff_left_of_imp (settled_of_own directSources_own perm)
  · exact loads_iff (fun _ _ => reads_provider) (fun _ => providerSources_perm)
      fun d reordered => ⟨providerSources_turned d, reordered.turned⟩

end

end MasterAgent.Credentials.Store

/-! ## Two stores -/

namespace MasterAgent.Credentials.Store.Samples
open Base

attribute [local instance] spellingHost asciiTables

def declared : List String := ["MASTER_AGENT_JIRA_USERNAME", "MASTER_AGENT_JIRA_TOKEN"]

def operator : Fields :=
  [("JIRA_EMAIL", .str "operator@example.test"), ("MASTER_AGENT_JIRA_TOKEN", .str "token"),
    ("JIRA_FULLNAME", .str "Operator")]

/-- An e-mail key without its user name is read alike in every order. -/
theorem operator_loads :
    Loads declared (parseDirectOrCanonicalCredentials declared) directSources operator := by
  have distinct : Distinct operator := ⟨by decide, by decide⟩
  refine (credentials_loaded declared [] [] operator distinct).2.1.mpr fun _ d reordered _ contested => ?_
  have perm := entries_perm (directSources_perm distinct reordered)
  obtain ⟨entry, member, username, aliased, listed⟩ := (Aliases.contested_perm perm).mpr contested
  have absent : ∀ e ∈ entries (directSources operator),
      (emailAlias declared e.1).all fun name =>
        decide (name ∉ (entries (directSources operator)).map Prod.fst) := by decide +kernel
  have free := absent entry member
  rw [aliased] at free
  exact of_decide_eq_true free listed

def doubled : Fields :=
  [("MASTER_AGENT_JIRA_USERNAME", .str "operator"), ("JIRA_EMAIL", .str "operator@example.test")]

/-- With the user name first the e-mail address is dropped; the other way round the file is
refused. -/
theorem doubled_depends_on_order :
    ¬ Loads declared (parseDirectOrCanonicalCredentials declared) directSources doubled := by
  intro loads
  have first : parseDirectOrCanonicalCredentials declared doubled =
      .ok [("MASTER_AGENT_JIRA_USERNAME", "operator")] := by decide +kernel
  have last : parseDirectOrCanonicalCredentials declared doubled.reverse =
      .error (duplicateAlias "MASTER_AGENT_JIRA_USERNAME") := by decide +kernel
  have agree := loads.agree doubled doubled.reverse (reordered_refl doubled)
    (reordered_of_perm (List.reverse_perm doubled).symm)
  rw [first, last] at agree
  exact agree

end MasterAgent.Credentials.Store.Samples
