import MasterAgent.Egress.Rules

/-!
# Field names of provider results

Two notions of a field's identity: folded case, and the words of a camel-case, acronym or separated
name. The projection of a result compares words; the policy's field list is compared by case.

Results:

1. `isReserved_congr`: being reserved is a property of the normal form;
2. `mem_normalizedRequestedFields`: what a list of requested fields lets through.
-/

namespace MasterAgent
open Base

/-! ## Normal forms -/

def isUpperAscii (c : Char) : Bool := 'A' ≤ c && c ≤ 'Z'
def isLowerAscii (c : Char) : Bool := 'a' ≤ c && c ≤ 'z'
def isDigitAscii (c : Char) : Bool := '0' ≤ c && c ≤ '9'

/-- `re.sub(r"(.)([A-Z][a-z]+)", r"\1_\2", text)`. Inside a match the lower-case letters are
consumed. -/
def splitCapitalized : Bool → List Char → List Char
  | _, [] => []
  | inside, c :: rest =>
      if inside && isLowerAscii c then c :: splitCapitalized true rest
      else match rest with
        | b :: l :: tail =>
            if c ≠ '\n' && isUpperAscii b && isLowerAscii l then
              c :: '_' :: b :: l :: splitCapitalized true tail
            else c :: splitCapitalized false (b :: l :: tail)
        | rest => c :: splitCapitalized false rest

/-- `re.sub(r"([a-z0-9])([A-Z])", r"\1_\2", text)` -/
def splitHumps : List Char → List Char
  | a :: b :: rest =>
      if (isLowerAscii a || isDigitAscii a) && isUpperAscii b then a :: '_' :: b :: splitHumps rest
      else a :: splitHumps (b :: rest)
  | short => short

/-- Replace every run of characters with the property by one underscore. -/
def squeeze (p : Char → Bool) : Bool → List Char → List Char
  | _, [] => []
  | inside, c :: rest =>
      if p c then if inside then squeeze p true rest else '_' :: squeeze p true rest
      else c :: squeeze p false rest

/-- `text.strip("_")` -/
def stripUnderscores (cs : List Char) : List Char :=
  ((cs.dropWhile (· == '_')).reverse.dropWhile (· == '_')).reverse

section
variable [Host] [CharTables]

/-- `normalize_read_result_field_name` -/
def normalizeFieldName (value : String) : String :=
  let snake := splitHumps (splitCapitalized false value.toList)
  let separated := squeeze (fun c => !CharTables.word c) false snake
  casefold (String.ofList (stripUnderscores (squeeze (· == '_') false separated)))

/-- `name.replace("_", "")` -/
def withoutUnderscores (name : String) : String := String.ofList (name.toList.filter (· ≠ '_'))

/-- `_field_identity` -/
def fieldIdentity (value : String) : String := withoutUnderscores (normalizeFieldName value)

/-! ### Lower-case names -/

omit [Host] [CharTables] in
theorem splitCapitalized_lower : ∀ {inside : Bool} {cs : List Char},
    (∀ c ∈ cs, isUpperAscii c = false) → splitCapitalized inside cs = cs
  | _, [], _ => rfl
  | inside, [c], _ => by
      unfold splitCapitalized
      split <;> rfl
  | inside, [c, b], lower => by
      have later : splitCapitalized true [b] = [b] :=
        splitCapitalized_lower fun d h => lower d (List.mem_cons_of_mem _ h)
      have later' : splitCapitalized false [b] = [b] :=
        splitCapitalized_lower fun d h => lower d (List.mem_cons_of_mem _ h)
      unfold splitCapitalized
      rw [later]
      simp only [later']
      split <;> rfl
  | inside, c :: b :: l :: rest, lower => by
      have later : ∀ inside, splitCapitalized inside (b :: l :: rest) = b :: l :: rest :=
        fun inside => splitCapitalized_lower fun d h => lower d (List.mem_cons_of_mem _ h)
      unfold splitCapitalized
      rw [later]
      simp only [later, lower b (by simp), Bool.and_false, Bool.false_and, Bool.false_eq_true,
        if_false]
      split <;> rfl

omit [Host] [CharTables] in
theorem splitHumps_lower : ∀ {cs : List Char}, (∀ c ∈ cs, isUpperAscii c = false) →
    splitHumps cs = cs
  | [], _ => rfl
  | [_], _ => rfl
  | a :: b :: rest, lower => by
      have later : splitHumps (b :: rest) = b :: rest :=
        splitHumps_lower fun d h => lower d (List.mem_cons_of_mem _ h)
      rw [splitHumps, lower b (by simp), Bool.and_false, later]
      rfl

omit [Host] [CharTables] in
theorem squeeze_free {p : Char → Bool} : ∀ {inside : Bool} {cs : List Char},
    (∀ c ∈ cs, p c = false) → squeeze p inside cs = cs
  | _, [], _ => rfl
  | _, c :: cs, free => by
      rw [squeeze, free c (by simp), if_neg Bool.false_ne_true,
        squeeze_free fun d h => free d (List.mem_cons_of_mem _ h)]

omit [Host] [CharTables] in
theorem stripUnderscores_free {cs : List Char} (free : ∀ c ∈ cs, c ≠ '_') :
    stripUnderscores cs = cs := by
  have kept : ∀ {ds : List Char}, (∀ c ∈ ds, c ≠ '_') → ds.dropWhile (· == '_') = ds := by
    intro ds free
    cases ds with
    | nil => rfl
    | cons d ds => rw [List.dropWhile_cons_of_neg (by simpa using free d (by simp))]
  unfold stripUnderscores
  rw [kept free, kept fun c h => free c (List.mem_reverse.mp h), List.reverse_reverse]

/-- The tables do on lower-case ASCII letters what they are documented to do. -/
structure LowerAscii : Prop where
  folds : ∀ c, isLowerAscii c = true → Host.foldChar c = [c]
  words : ∀ c, isLowerAscii c = true → CharTables.word c = true

omit [Host] [CharTables] in
theorem asciiLower (digest : String → String) : @LowerAscii (asciiHost digest) asciiTables := by
  let := asciiHost digest
  let := asciiTables
  have range : ∀ c, isLowerAscii c = true → 97 ≤ c.toNat ∧ c.toNat ≤ 122 := by
    intro c lower
    simp only [isLowerAscii, Bool.and_eq_true, decide_eq_true_eq] at lower
    exact lower
  refine ⟨fun c lower => ?_, fun c lower => ?_⟩
  · have bounds := range c lower
    have same : c.toLower = c := by
      refine dif_neg ?_
      rintro ⟨-, small⟩
      have le : c.toNat ≤ 90 := small
      omega
    exact congrArg (fun d => [d]) same
  · have bounds := range c lower
    show (c.isAlphanum || c == '_') = true
    have letter : c.isLower = true :=
      Bool.and_eq_true_iff.mpr ⟨decide_eq_true bounds.1, decide_eq_true bounds.2⟩
    show ((c.isUpper || c.isLower || c.isDigit) || c == '_') = true
    rw [letter, Bool.or_true, Bool.true_or, Bool.true_or]

/-- A name of lower-case ASCII letters is its own normal form. -/
theorem normalizeFieldName_lower (ascii : LowerAscii) {name : String}
    (lower : ∀ c ∈ name.toList, isLowerAscii c = true) : normalizeFieldName name = name := by
  have upper : ∀ c ∈ name.toList, isUpperAscii c = false := by
    intro c h
    have low := lower c h
    simp only [isLowerAscii, Bool.and_eq_true, decide_eq_true_eq] at low
    simp only [isUpperAscii, Bool.and_eq_false_iff, decide_eq_false_iff_not]
    exact .inr fun high => absurd (le_trans low.1 high) (by decide)
  have plain : ∀ c ∈ name.toList, c ≠ '_' := by
    rintro c h rfl
    exact absurd (lower _ h) (by decide)
  have folded : name.toList.flatMap Host.foldChar = name.toList := by
    calc name.toList.flatMap Host.foldChar = name.toList.flatMap fun c => [c] :=
          List.flatMap_congr fun c h => ascii.folds c (lower c h)
      _ = name.toList := by simp
  have separated : squeeze (fun c => !CharTables.word c) false name.toList = name.toList :=
    squeeze_free fun c h => by rw [ascii.words c (lower c h)]; rfl
  have collapsed : squeeze (· == '_') false name.toList = name.toList :=
    squeeze_free fun c h => by simpa using plain c h
  unfold normalizeFieldName casefold
  simp only
  rw [splitCapitalized_lower upper, splitHumps_lower upper, separated, collapsed,
    stripUnderscores_free plain, String.toList_ofList, folded, String.ofList_toList]

/-! ## Reserved names -/

def READ_RESULT_CROSSCUT_FIELDS : List String :=
  ["schema", "evidence", "security", "citations", "citation_ids"]
def READ_RESULT_OMITTED_FIELDS : List String := ["query"]
def READ_RESULT_RESERVED_FIELDS : List String :=
  READ_RESULT_CROSSCUT_FIELDS ++ READ_RESULT_OMITTED_FIELDS

/-- `is_reserved_read_result_field_name` -/
def isReserved (value : String) : Bool :=
  let normalized := normalizeFieldName value
  READ_RESULT_RESERVED_FIELDS.contains normalized ||
    (READ_RESULT_RESERVED_FIELDS.map withoutUnderscores).contains (withoutUnderscores normalized)

/-- Names with one normal form are reserved together. -/
theorem isReserved_congr {a b : String} (same : normalizeFieldName a = normalizeFieldName b) :
    isReserved a = isReserved b := by
  unfold isReserved
  rw [same]

/-- A reserved name of lower-case letters is recognized. -/
theorem isReserved_listed (ascii : LowerAscii) {name : String}
    (lower : ∀ c ∈ name.toList, isLowerAscii c = true)
    (listed : name ∈ READ_RESULT_RESERVED_FIELDS) : isReserved name = true := by
  unfold isReserved
  simp only
  rw [normalizeFieldName_lower ascii lower, List.contains_iff_mem.mpr listed, Bool.true_or]

/-! ## Requested names -/

/-- `_FIELD_ALIASES.get(name, ())` -/
def fieldAliases : String → List String
  | "issuetype" => ["issue_type"]
  | "project" => ["project_key"]
  | "resolutiondate" => ["resolved_at"]
  | "updated" => ["updated_at"]
  | "status" => ["status", "status_category", "blocked"]
  | _ => []

/-- `_normalized_requested_fields` -/
def normalizedRequestedFields (fields : List String) : List String :=
  fields.flatMap fun field => normalizeFieldName field :: fieldAliases (casefold field)

theorem mem_normalizedRequestedFields {fields : List String} {name : String} :
    name ∈ normalizedRequestedFields fields ↔
      ∃ field ∈ fields, name = normalizeFieldName field ∨ name ∈ fieldAliases (casefold field) := by
  simp [normalizedRequestedFields]

/-! ## Sensitive names -/

def SENSITIVE_KEYS : List String :=
  ["authorization", "access_token", "refresh_token", "api_token", "token", "secret", "password",
    "client_secret"]

def SENSITIVE_PROVIDER_KEYS : List String :=
  ["authorization", "authorization_header", "access_token", "refresh_token", "id_token",
    "api_token", "api_key", "token", "secret", "client_secret", "password", "credential",
    "credentials", "cookie", "set_cookie", "private_key"]

def SENSITIVE_PROVIDER_SUFFIX_IDENTITIES : List String :=
  ["token", "secret", "password", "credential", "cookie", "apikey", "privatekey"]

/-- The keys `redact_secrets` hides. -/
def isSecretKey (key : String) : Bool := SENSITIVE_KEYS.contains (CharTables.lower key)

/-- The keys `_redact_provider_secret_variants` hides. -/
def isSecretVariant (key : String) : Bool :=
  let identity := fieldIdentity key
  (SENSITIVE_PROVIDER_KEYS.map withoutUnderscores).contains identity ||
    startsWith identity "authorization" ||
    SENSITIVE_PROVIDER_SUFFIX_IDENTITIES.any fun suffix => suffix.toList.isSuffixOf identity.toList

end

end MasterAgent
