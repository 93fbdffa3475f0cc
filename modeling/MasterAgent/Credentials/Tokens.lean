import MasterAgent.Base.Calendar
import MasterAgent.Base.JsonLoads
import MasterAgent.Credentials.Broker
import MasterAgent.Models.Checks

/-!
# Access tokens

The sources that access tokens come from: the answer of a token endpoint, an environment variable and
a token file. What a source gives is loosely typed, and is converted with `str` and `int`.

Results:

1. `tokenFromResponse_proper_iff`, `redditToken_proper_iff`: for which answers of an endpoint the
   outcome is proper;
2. `environmentToken_proper_iff`: for which contents of the environment;
3. `fileToken_proper_iff`: for which contents of a token file;
4. `written_token_read`: a token file that was written is read back.
-/

namespace MasterAgent.Credentials.Tokens
open Base

def MAX_TOKEN_FILE_BYTES : Nat := 1024 * 1024

def overflowError (message : String) : Exn := ⟨.overflow, "OverflowError", message⟩

/-! ## Values -/

inductive FloatValue where
  | finite (zero : Bool) (whole : Int) (text : String)
  | infinite (negative : Bool)
  | nan

/-- What `json.loads` gives. A finite float is known by its whole part and its `repr`. -/
inductive Value where
  | null
  | bool (b : Bool)
  | int (n : Int)
  | float (f : FloatValue)
  | str (s : String)
  | list (items : List Value)
  | dict (members : List (String × Value))

abbrev Members := List (String × Value)

/-- The texts of a list of texts. -/
def flatItems : List Json → Option (List Value)
  | [] => some []
  | .str s :: items => (flatItems items).map (.str s :: ·)
  | _ :: _ => none

/-- The members of a document that holds texts and lists of texts only. -/
def flatMembers : Fields → Option Members
  | [] => some []
  | (key, .str s) :: fields => (flatMembers fields).map ((key, .str s) :: ·)
  | (key, .arr items) :: fields =>
    (flatItems items).bind fun texts => (flatMembers fields).map ((key, .list texts) :: ·)
  | _ :: _ => none

/-- What the sources take from the standard library, with what they rely on. -/
class Library where
  /-- `int(text)`, `none` where it raises `ValueError`. -/
  intOfText : String → Option Int
  /-- `str(value)` of a list or a dictionary. -/
  reprOf : Value → String
  /-- `text.lower()` -/
  lower : String → String
  lower_bearer : lower "Bearer" = "bearer"
  /-- `character.isalnum()` -/
  isalnum : Char → Bool
  /-- `datetime.fromisoformat(text)`, `none` where it raises `ValueError`. -/
  fromisoformat : String → Option Datetime
  fromisoformat_isoformat : ∀ d : Datetime, fromisoformat d.isoformat = some d
  /-- `json.loads(text)` -/
  loads : String → Except Exn Value
  /-- A flat document is read as it is. -/
  loads_flat : ∀ text fields members,
    Json.loads (Json.dictReader fun _ => none) text = some (.obj fields) →
      flatMembers fields = some members → loads text = .ok (.dict members)

section
variable [Library]

/-- `str(value)` -/
def strOf : Value → String
  | .null => "None"
  | .bool b => if b then "True" else "False"
  | .int n => toString n
  | .float (.finite _ _ text) => text
  | .float (.infinite negative) => if negative then "-inf" else "inf"
  | .float .nan => "nan"
  | .str s => s
  | value => Library.reprOf value

/-- `int(value)` -/
def intOf : Value → Except Exn Int
  | .bool b => .ok (if b then 1 else 0)
  | .int n => .ok n
  | .float (.finite _ whole _) => .ok whole
  | .float (.infinite _) => .error (overflowError "cannot convert float infinity to integer")
  | .float .nan => .error (valueError "cannot convert float NaN to integer")
  | .str s =>
    match Library.intOfText s with
    | some n => .ok n
    | none => .error (valueError "invalid literal for int()")
  | _ => .error (typeError "int() argument must be a string or a real number")

/-- `bool(value)` -/
def truthy : Value → Bool
  | .null => false
  | .bool b => b
  | .int n => n != 0
  | .float (.finite zero _ _) => !zero
  | .float _ => true
  | .str s => s != ""
  | .list items => !items.isEmpty
  | .dict members => !members.isEmpty

def isStr : Value → Bool
  | .str _ => true
  | _ => false

/-- `members.get(key, default)` -/
def getD (members : Members) (key : String) (default : Value) : Value :=
  (members.lookup key).getD default

/-- `members[key]` -/
def item (members : Members) (key : String) : Except Exn Value :=
  match members.lookup key with
  | some value => .ok value
  | none => .error (keyError key)

/-- `text.split()` -/
def words (text : String) : List String :=
  ((text.toList.splitOnP isSpace).filter (· ≠ [])).map String.ofList

/-- `_safe_oauth_error_code` -/
def safeOauthErrorCode (value : Value) : String :=
  let rendered := strip (if truthy value then strOf value else "unknown_error")
  if rendered = "" ∨ rendered.toList.length > 80 ∨
      ¬ rendered.toList.all (fun c => Library.isalnum c || c == '_' || c == '-' || c == '.') then
    "unknown_error"
  else rendered

/-! ## Tokens -/

structure AccessToken where
  value : String
  expiresAt : Datetime
  scopes : List String
  tokenType : String
  source : String
  nonempty : value ≠ ""
  aware : expiresAt.offset ≠ none
  bearer : Library.lower tokenType = "bearer"

/-- `AccessToken(…)` with the checks of `__post_init__`. -/
def AccessToken.make (value : String) (expiresAt : Datetime) (scopes : List String)
    (tokenType source : String) : Except Exn AccessToken :=
  if nonempty : value = "" then .error (configurationError "access token must not be empty")
  else if aware : expiresAt.offset = none then
    .error (configurationError "access-token expiry must be timezone-aware")
  else if bearer : Library.lower tokenType = "bearer" then
    .ok ⟨value, expiresAt, scopes, tokenType, source, nonempty, aware, bearer⟩
  else .error (configurationError "only Bearer access tokens are supported")

/-- A reading of `datetime.now(UTC)`. -/
abbrev Clock := { d : Datetime // d.offset = some 0 }

/-- The clock is before a time; times are compared as instants. -/
def Clock.before (now : Clock) (d : Datetime) : Prop := ∃ instant, d.instant? = some instant ∧
  now.1.wallMicros < instant

instance (now : Clock) (d : Datetime) : Decidable (now.before d) :=
  match found : d.instant? with
  | none => .isFalse fun ⟨_, other, _⟩ => by cases found.symm.trans other
  | some instant =>
    decidable_of_iff (now.1.wallMicros < instant)
      ⟨fun less => ⟨instant, found, less⟩,
        fun ⟨_, other, less⟩ => Option.some.inj (other.symm.trans found) ▸ less⟩

/-- The clock's time can be moved by seconds without leaving the calendar. -/
def Clock.fits (now : Clock) (seconds : Int) : Prop := (now.1.later (seconds * 1000000)).isSome = true

instance (now : Clock) (seconds : Int) : Decidable (now.fits seconds) :=
  inferInstanceAs (Decidable (_ = true))

/-- `datetime.now(UTC) + timedelta(seconds=seconds)` -/
def plusSeconds (now : Clock) (seconds : Int) : Except Exn Datetime :=
  match now.1.later (seconds * 1000000) with
  | some d => .ok d
  | none => .error (overflowError "date value out of range")

/-- The end of the calendar, in microseconds. -/
def endOfCalendar : Int := Datetime.daysBeforeYear 10000 * 86400000000

/-- `AccessToken.is_valid` -/
def AccessToken.isValid (token : AccessToken) (now : Clock) (skewSeconds : Nat) : Except Exn Bool :=
  if endOfCalendar ≤ now.1.wallMicros + skewSeconds * 1000000 then
    .error (overflowError "date value out of range")
  else
    .ok (token.expiresAt.instant?.any fun instant =>
      now.1.wallMicros + skewSeconds * 1000000 < instant)

/-- `except (KeyError, TypeError, ValueError)` -/
def isSchemaError (e : Exn) : Bool := e.kind = .keyError || e.kind.isTypeError || e.kind.isValueError

/-- A schema error becomes an authentication error. -/
def asSchemaError {R : Type} (message : String) (ran : Except Exn R) : Except Exn R :=
  ran.mapError fun e => if isSchemaError e then authenticationError message else e

/-! ## What is proper -/

/-- What a source gives as the access token, and the scopes that it reports. -/
structure Offer where
  value : Option String
  scopes : Option (List String)

/-- `AuthenticationError` or `ConfigurationError`. -/
def Refusal (e : Exn) : Prop :=
  e.className = "AuthenticationError" ∨ e.className = "ConfigurationError"

instance (e : Exn) : Decidable (Refusal e) := inferInstanceAs (Decidable (_ ∨ _))

/-- The outcome that is due: a token that is exactly what the source gave, with no scope that the
source did not report, or that is not configured if it reported none, and that has not expired; or a
refusal. -/
def Proper (offer : Offer) (fallback : List String) (now : Clock) : Except Exn AccessToken → Prop
  | .ok token => offer.value = some token.value ∧
      (∀ scope ∈ token.scopes, scope ∈ offer.scopes.getD fallback) ∧ now.before token.expiresAt
  | .error e => Refusal e

/-! ## The answer of a token endpoint -/

/-- The scopes of `_token_from_response`. -/
def responseScopes (scope : Option Value) (fallback : List String) : List String :=
  let rawScope := strip (strOf (scope.getD (.str "")))
  if rawScope = "" then fallback else words rawScope

/-- `_token_from_response` of a mapping without an error. -/
def tokenOfMembers (members : Members) (fallback : List String) (source : String) (now : Clock) :
    Except Exn AccessToken := do
  let (value, expiresIn) ← asSchemaError "OAuth token response schema is invalid" (do
    let raw ← item members "access_token"
    let n ← intOf (getD members "expires_in" (.int 3600))
    .ok (strOf raw, max 1 n))
  let expiresAt ← plusSeconds now expiresIn
  AccessToken.make value expiresAt (responseScopes (members.lookup "scope") fallback)
    (strOf (getD members "token_type" (.str "Bearer"))) source

/-- `_token_from_response` -/
def tokenFromResponse (data : Value) (fallback : List String) (source : String) (now : Clock) :
    Except Exn AccessToken :=
  match data with
  | .dict members =>
    if truthy (getD members "error" .null) then
      .error (authenticationError ("OAuth token request failed: " ++
        safeOauthErrorCode (getD members "error" .null)))
    else tokenOfMembers members fallback source now
  | _ => .error (authenticationError "OAuth token response must be an object")

/-- A field that is a text. -/
def givenText : Option Value → Option String
  | some (.str s) => some s
  | _ => none

/-- The scopes that an answer reports, as a text with a word in it. -/
def reportedScopes : Option Value → Option (List String)
  | some (.str s) => if strip s = "" then none else some (words (strip s))
  | _ => none

/-- What an answer gives. -/
def responseOffer : Value → Offer
  | .dict members =>
    ⟨givenText (members.lookup "access_token"), reportedScopes (members.lookup "scope")⟩
  | _ => ⟨none, none⟩

/-- A scope that is no text has no words but configured ones. -/
def ScopeSound (scope : Option Value) (fallback : List String) : Prop :=
  ∀ value, scope = some value →
    isStr value = true ∨ strip (strOf value) = "" ∨ words (strip (strOf value)) ⊆ fallback

/-- The answers for which the outcome is proper: where there is an access token, the lifetime is a
number or a schema error, the expiry is in the calendar, and a bearer token that is not empty is a
text with a sound scope. -/
def ResponseSound (data : Value) (fallback : List String) (now : Clock) : Prop :=
  ∀ members, data = .dict members → truthy (getD members "error" .null) = false →
    ∀ raw, members.lookup "access_token" = some raw →
      match intOf (getD members "expires_in" (.int 3600)) with
      | .error e => isSchemaError e = true
      | .ok n => now.fits (max 1 n) ∧
          (strOf raw ≠ "" → Library.lower (strOf (getD members "token_type" (.str "Bearer"))) = "bearer" →
            isStr raw = true ∧ ScopeSound (members.lookup "scope") fallback)

end

/-! ## Refusals and tokens -/

theorem refusal_authentication (message : String) : Refusal (authenticationError message) := .inl rfl

theorem refusal_configuration (message : String) : Refusal (configurationError message) := .inr rfl

theorem not_refusal_overflow (message : String) : ¬ Refusal (overflowError message) := by
  have classes : "OverflowError" ≠ "AuthenticationError" ∧ "OverflowError" ≠ "ConfigurationError" := by
    decide
  rintro (same | same)
  · exact classes.1 same
  · exact classes.2 same

theorem plusSeconds_ok {now : Clock} {seconds : Int} (fits : now.fits seconds) :
    ∃ d : Datetime, plusSeconds now seconds = .ok d ∧ d.offset = some 0 ∧
      d.wallMicros = now.1.wallMicros + seconds * 1000000 := by
  obtain ⟨d, later⟩ := Option.isSome_iff_exists.mp fits
  obtain ⟨utc, wall⟩ := Datetime.later_spec later
  exact ⟨d, by rw [plusSeconds, later], utc, wall⟩

theorem plusSeconds_error {now : Clock} {seconds : Int} (outside : ¬ now.fits seconds) :
    plusSeconds now seconds = .error (overflowError "date value out of range") := by
  rw [Clock.fits, Bool.not_eq_true, Option.isSome_eq_false_iff, Option.isNone_iff_eq_none] at outside
  rw [plusSeconds, outside]

/-- A later time has not passed. -/
theorem before_later {now : Clock} {d : Datetime} {seconds : Int} (positive : 1 ≤ seconds)
    (utc : d.offset = some 0) (wall : d.wallMicros = now.1.wallMicros + seconds * 1000000) :
    now.before d :=
  ⟨d.wallMicros, Datetime.instant?_utc utc, by omega⟩

section
variable [Library]

/-- What the constructor makes of its arguments is proper if it refuses them or they are as offered. -/
theorem make_proper_iff {offer : Offer} {fallback : List String} {now : Clock} {value : String}
    {expiresAt : Datetime} {scopes : List String} {tokenType source : String} :
    Proper offer fallback now (AccessToken.make value expiresAt scopes tokenType source) ↔
      (value ≠ "" → expiresAt.offset ≠ none → Library.lower tokenType = "bearer" →
        offer.value = some value ∧ (∀ scope ∈ scopes, scope ∈ offer.scopes.getD fallback) ∧
          now.before expiresAt) := by
  unfold AccessToken.make
  split_ifs with empty naive bearer
  · exact iff_of_true (refusal_configuration _) fun nonempty => absurd empty nonempty
  · exact iff_of_true (refusal_configuration _) fun _ aware => absurd naive aware
  · exact ⟨fun proper _ _ _ => proper, fun given => given empty naive bearer⟩
  · exact iff_of_true (refusal_configuration _) fun _ _ isBearer => absurd isBearer bearer

theorem givenText_eq_iff {raw : Value} : givenText (some raw) = some (strOf raw) ↔ isStr raw = true := by
  cases raw <;> simp [givenText, isStr, strOf]

/-- The scopes by the text of the field. -/
theorem mem_responseScopes {scope : Option Value} {fallback : List String} {word : String} :
    word ∈ responseScopes scope fallback ↔
      if strip (strOf (scope.getD (.str ""))) = "" then word ∈ fallback
      else word ∈ words (strip (strOf (scope.getD (.str "")))) := by
  rw [responseScopes]
  split_ifs <;> rfl

omit [Library] in
theorem reportedScopes_other {value : Value} (other : ¬ isStr value = true) :
    reportedScopes (some value) = none := by
  cases value with
  | str s => exact absurd rfl other
  | _ => rfl

/-- A scope that is a text is what it reports, word by word. -/
theorem responseScopes_str {s : String} {fallback : List String} :
    responseScopes (some (.str s)) fallback = (reportedScopes (some (.str s))).getD fallback := by
  rw [responseScopes, reportedScopes, Option.getD_some, strOf]
  by_cases blank : strip s = ""
  · rw [if_pos blank, if_pos blank, Option.getD_none]
  · rw [if_neg blank, if_neg blank, Option.getD_some]

theorem responseScopes_sound_iff {scope : Option Value} {fallback : List String} :
    (∀ s ∈ responseScopes scope fallback, s ∈ (reportedScopes scope).getD fallback) ↔
      ScopeSound scope fallback := by
  cases scope with
  | none =>
    have empty : strip "" = "" := by decide
    have blank : responseScopes none fallback = fallback := by
      rw [responseScopes, Option.getD_none, strOf, if_pos empty]
    exact iff_of_true (fun s listed => blank ▸ listed) nofun
  | some value =>
    have one : ScopeSound (some value) fallback ↔
        (isStr value = true ∨ strip (strOf value) = "" ∨ words (strip (strOf value)) ⊆ fallback) :=
      ⟨fun all => all value rfl, fun here other same => Option.some.inj same ▸ here⟩
    rw [one]
    by_cases text : isStr value = true
    · obtain ⟨s, rfl⟩ : ∃ s, value = .str s := by
        cases value with
        | str s => exact ⟨s, rfl⟩
        | _ => cases text
      exact iff_of_true (fun word listed => responseScopes_str ▸ listed) (.inl rfl)
    · rw [reportedScopes_other text, Option.getD_none, or_iff_right text]
      simp only [mem_responseScopes, Option.getD_some]
      by_cases blank : strip (strOf value) = ""
      · simp only [if_pos blank]
        exact iff_of_true (fun _ listed => listed) (.inl blank)
      · rw [or_iff_right blank]
        simp only [if_neg blank]
        rfl

/-- A conversion that raises no schema error is one of an infinite number. -/
theorem intOf_error {value : Value} {e : Exn} (raised : intOf value = .error e)
    (other : ¬ isSchemaError e = true) : ¬ Refusal e := by
  unfold intOf at raised
  split at raised
  · cases raised
  · cases raised
  · cases raised
  · cases raised
    exact not_refusal_overflow _
  · cases raised
    exact absurd rfl other
  · split at raised
    · cases raised
    · cases raised
      exact absurd rfl other
  · cases raised
    exact absurd rfl other

/-- The token of members whose lifetime is a number. -/
theorem tokenOfMembers_eq {members : Members} {fallback : List String} {source : String} {now : Clock}
    {raw : Value} {n : Int} (found : members.lookup "access_token" = some raw)
    (converted : intOf (getD members "expires_in" (.int 3600)) = .ok n) :
    tokenOfMembers members fallback source now = (plusSeconds now (max 1 n) >>= fun d =>
      AccessToken.make (strOf raw) d (responseScopes (members.lookup "scope") fallback)
        (strOf (getD members "token_type" (.str "Bearer"))) source) := by
  simp only [tokenOfMembers, item, found, converted]
  rfl

theorem tokenOfMembers_proper_iff {members : Members} {fallback : List String} {source : String}
    {now : Clock} :
    Proper (responseOffer (.dict members)) fallback now (tokenOfMembers members fallback source now) ↔
      ∀ raw, members.lookup "access_token" = some raw →
        match intOf (getD members "expires_in" (.int 3600)) with
        | .error e => isSchemaError e = true
        | .ok n => now.fits (max 1 n) ∧
            (strOf raw ≠ "" →
              Library.lower (strOf (getD members "token_type" (.str "Bearer"))) = "bearer" →
              isStr raw = true ∧ ScopeSound (members.lookup "scope") fallback) := by
  cases found : members.lookup "access_token" with
  | none =>
    refine iff_of_true ?_ nofun
    simp only [tokenOfMembers, item, found]
    exact refusal_authentication _
  | some raw =>
    have one : ∀ {P : Value → Prop}, (∀ other, some raw = some other → P other) ↔ P raw :=
      ⟨fun all => all raw rfl, fun here other same => Option.some.inj same ▸ here⟩
    rw [one]
    cases converted : intOf (getD members "expires_in" (.int 3600)) with
    | error e =>
      have ran : tokenOfMembers members fallback source now = .error
          (if isSchemaError e then authenticationError "OAuth token response schema is invalid" else e) := by
        simp only [tokenOfMembers, item, found, converted]
        rfl
      rw [ran]
      by_cases schema : isSchemaError e = true
      · rw [if_pos schema]
        exact iff_of_true (refusal_authentication _) schema
      · rw [if_neg schema]
        exact iff_of_false (intOf_error converted schema) schema
    | ok n =>
      rw [tokenOfMembers_eq found converted]
      dsimp only
      by_cases fits : now.fits (max 1 n)
      · obtain ⟨d, moved, utc, wall⟩ := plusSeconds_ok fits
        have fresh : now.before d := before_later (le_max_left 1 n) utc wall
        have aware : d.offset ≠ none := by rw [utc]; exact Option.some_ne_none 0
        rw [moved, ok_bind, make_proper_iff]
        simp only [responseOffer, found, givenText_eq_iff, responseScopes_sound_iff, fresh, aware, fits,
          and_true, true_and, ne_eq, not_false_eq_true, forall_const]
      · rw [plusSeconds_error fits]
        exact iff_of_false (not_refusal_overflow _) fun both => fits both.1

/-- For which answers the outcome is proper. -/
theorem tokenFromResponse_proper_iff {data : Value} {fallback : List String} {source : String}
    {now : Clock} :
    Proper (responseOffer data) fallback now (tokenFromResponse data fallback source now) ↔
      ResponseSound data fallback now := by
  unfold ResponseSound
  cases data with
  | dict members =>
    have one : ∀ {P : Members → Prop}, (∀ other, Value.dict members = .dict other → P other) ↔
        P members :=
      ⟨fun all => all members rfl, fun here other same => Value.dict.inj same ▸ here⟩
    rw [one, tokenFromResponse]
    split_ifs with failed
    · exact iff_of_true (refusal_authentication _) fun passed => absurd failed (by rw [passed]; decide)
    · rw [Bool.not_eq_true] at failed
      exact tokenOfMembers_proper_iff.trans ⟨fun sound _ => sound, fun sound => sound failed⟩
  | _ => exact iff_of_true (refusal_authentication _) nofun

/-! ## Reddit -/

/-- What `RedditRefreshTokenProvider.get_token` makes of an answer. -/
def redditToken (configured : List String) (data : Value) (now : Clock) : Except Exn AccessToken :=
  match data with
  | .dict members =>
    if truthy (getD members "error" .null) then
      tokenFromResponse data [] "reddit-refresh-token" now
    else
      match givenText (members.lookup "scope") with
      | some rawScope =>
        if strip rawScope = "" then
          .error (authenticationError "Reddit OAuth token response did not report effective scopes")
        else if (words rawScope).any (fun scope => !configured.contains scope) then
          .error (authenticationError
            "Reddit OAuth token response exceeded the configured credential profile")
        else tokenFromResponse data [] "reddit-refresh-token" now
      | none =>
        .error (authenticationError "Reddit OAuth token response did not report effective scopes")
  | _ => .error (authenticationError "Reddit OAuth token response must be an object")

/-- An answer that passes the checks of the scope is sound. -/
def RedditSound (configured : List String) (data : Value) (now : Clock) : Prop :=
  ∀ members rawScope, data = .dict members → members.lookup "scope" = some (.str rawScope) →
    strip rawScope ≠ "" → words rawScope ⊆ configured → ResponseSound data [] now

omit [Library] in
theorem givenText_some {field : Option Value} {s : String} (given : givenText field = some s) :
    field = some (.str s) := by
  unfold givenText at given
  split at given
  · exact congrArg (some ∘ Value.str) (Option.some.inj given)
  · cases given

theorem redditToken_proper_iff {configured : List String} {data : Value} {now : Clock} :
    Proper (responseOffer data) [] now (redditToken configured data now) ↔
      RedditSound configured data now := by
  cases data with
  | dict members =>
    rw [redditToken]
    split_ifs with failed
    · rw [tokenFromResponse_proper_iff]
      have sound : ResponseSound (.dict members) [] now := by
        rintro _ ⟨⟩ passed
        exact absurd failed (by rw [passed]; decide)
      exact iff_of_true sound fun _ _ _ _ _ _ => sound
    · split
      · rename_i rawScope given
        have found := givenText_some given
        split_ifs with blank exceeds
        · refine iff_of_true (refusal_authentication _) fun _ other same found' reported => ?_
          cases same
          cases found.symm.trans found'
          exact absurd blank reported
        · refine iff_of_true (refusal_authentication _) fun _ other same found' _ within => ?_
          cases same
          cases found.symm.trans found'
          obtain ⟨scope, listed, foreign⟩ := List.any_eq_true.mp exceeds
          have known : configured.contains scope = true := List.contains_iff_mem.mpr (within listed)
          rw [known] at foreign
          cases foreign
        · rw [tokenFromResponse_proper_iff]
          refine ⟨fun sound _ _ _ _ _ _ => sound, fun sound => sound members rawScope rfl found blank ?_⟩
          intro scope listed
          by_contra foreign
          refine exceeds (List.any_eq_true.mpr ⟨scope, listed, ?_⟩)
          rw [Bool.not_eq_true', ← Bool.not_eq_true, List.contains_iff_mem]
          exact foreign
      · rename_i absent
        refine iff_of_true (refusal_authentication _) fun _ rawScope same found => ?_
        cases same
        rw [found] at absent
        cases absent
  | _ => exact iff_of_true (refusal_authentication _) nofun

/-! ## The environment -/

structure EnvironmentTokenProvider where
  tokenEnv : String
  expiresAtEnv : Option String
  scopes : List String

/-- The text of the variable for the expiry, where one is named and not blank. -/
def EnvironmentTokenProvider.rawExpiry (provider : EnvironmentTokenProvider)
    (environ : String → Option String) : Option String :=
  match provider.expiresAtEnv with
  | some name =>
    if name = "" ∨ strip ((environ name).getD "") = "" then none
    else some (strip ((environ name).getD ""))
  | none => none

/-- The expiry of the environment's token. -/
def EnvironmentTokenProvider.expiry (provider : EnvironmentTokenProvider)
    (environ : String → Option String) (default : Datetime) : Except Exn Datetime :=
  match provider.rawExpiry environ with
  | none => .ok default
  | some rawExpiry =>
    match Library.fromisoformat rawExpiry with
    | some d => .ok d
    | none => .error (authenticationError "access-token expiry environment value is invalid")

/-- `EnvironmentTokenProvider.get_token` -/
def environmentToken (provider : EnvironmentTokenProvider) (environ : String → Option String)
    (now : Clock) : Except Exn AccessToken := do
  let value := strip ((environ provider.tokenEnv).getD "")
  if value = "" then
    .error (authenticationError
      ("access-token environment variable is missing: " ++ provider.tokenEnv))
  else do
    let default ← plusSeconds now 3600
    let expiry ← provider.expiry environ default
    AccessToken.make value expiry provider.scopes "Bearer" ("environment:" ++ provider.tokenEnv)

/-- What the environment gives: the content of the variable, and no scopes. -/
def environmentOffer (provider : EnvironmentTokenProvider) (environ : String → Option String) : Offer :=
  ⟨environ provider.tokenEnv, none⟩

/-- The contents for which the outcome is proper: where there is a token, the default expiry is in the
calendar, and unless the expiry is refused, it has not passed and the token has no space around it. -/
def EnvironmentSound (provider : EnvironmentTokenProvider) (environ : String → Option String)
    (now : Clock) : Prop :=
  ∀ content, environ provider.tokenEnv = some content → strip content ≠ "" →
    now.fits 3600 ∧
      match provider.rawExpiry environ with
      | none => strip content = content
      | some rawExpiry => ∀ d, Library.fromisoformat rawExpiry = some d → d.offset ≠ none →
          strip content = content ∧ now.before d

theorem environmentToken_proper_iff {provider : EnvironmentTokenProvider}
    {environ : String → Option String} {now : Clock} :
    Proper (environmentOffer provider environ) provider.scopes now
        (environmentToken provider environ now) ↔ EnvironmentSound provider environ now := by
  unfold EnvironmentSound environmentToken
  dsimp only
  cases found : environ provider.tokenEnv with
  | none =>
    rw [if_pos (by decide)]
    exact iff_of_true (refusal_authentication _) nofun
  | some content =>
    have one : ∀ {P : String → Prop}, (∀ other, some content = some other → P other) ↔ P content :=
      ⟨fun all => all content rfl, fun here other same => Option.some.inj same ▸ here⟩
    rw [one, Option.getD_some]
    split_ifs with blank
    · exact iff_of_true (refusal_authentication _) fun reported => absurd blank reported
    · have offered : (environmentOffer provider environ).value = some (strip content) ↔
          strip content = content := by
        rw [environmentOffer, found, Option.some.injEq]
        exact eq_comm
      have scopes : ∀ scope ∈ provider.scopes,
          scope ∈ (environmentOffer provider environ).scopes.getD provider.scopes :=
        fun _ listed => listed
      by_cases fits : now.fits 3600
      · obtain ⟨d, moved, utc, wall⟩ := plusSeconds_ok fits
        rw [moved, ok_bind, EnvironmentTokenProvider.expiry]
        cases provider.rawExpiry environ with
        | none =>
          have fresh : now.before d := before_later (by decide) utc wall
          have aware : d.offset ≠ none := by rw [utc]; exact Option.some_ne_none 0
          rw [ok_bind, make_proper_iff, and_iff_right scopes]
          simp only [offered, fresh, aware, fits, blank, Library.lower_bearer, ne_eq,
            not_false_eq_true, forall_const, and_true, true_and]
        | some rawExpiry =>
          cases parsed : Library.fromisoformat rawExpiry with
          | none =>
            simp only [parsed]
            exact iff_of_true (refusal_authentication _) fun _ => ⟨fits, nofun⟩
          | some d =>
            simp only [parsed]
            rw [ok_bind, make_proper_iff, and_iff_right scopes]
            simp only [offered, fits, blank, Library.lower_bearer, ne_eq, not_false_eq_true,
              forall_const, true_and, Option.some.injEq, forall_eq']
      · rw [plusSeconds_error fits]
        exact iff_of_false (not_refusal_overflow _) fun sound => fits (sound blank).1

/-! ## Token files -/

/-- `_read_restricted_token_file`, of the bytes that the file holds. -/
def readRestrictedTokenFile (payload : List UInt8) : Except Exn String :=
  if payload.length > MAX_TOKEN_FILE_BYTES then
    .error (authenticationError "token file exceeds the 1 MiB limit")
  else
    match String.fromUTF8? ⟨payload.toArray⟩ with
    | some text => .ok text
    | none => .error (authenticationError "token file is not valid UTF-8")

/-- `except (OSError, json.JSONDecodeError)` -/
def isUnreadable (e : Exn) : Bool := e.kind = .osError || e.className = "JSONDecodeError"

/-- `tuple(str(item) for item in value)` -/
def strsOf : Value → Except Exn (List String)
  | .list items => .ok (items.map strOf)
  | .str s => .ok (s.toList.map fun c => String.ofList [c])
  | .dict members => .ok (members.map Prod.fst)
  | _ => .error (typeError "object is not iterable")

/-- `datetime.fromisoformat(text)` -/
def parseIso (text : String) : Except Exn Datetime :=
  match Library.fromisoformat text with
  | some d => .ok d
  | none => .error (valueError "Invalid isoformat string")

/-- The token of a token file's members. -/
def tokenOfFile (members : Members) (source : String) : Except Exn AccessToken := do
  let rawExpiry ← item members "expires_at"
  let expiresAt ← parseIso (strOf rawExpiry)
  let scopes ← strsOf (getD members "scopes" (.list []))
  let raw ← item members "access_token"
  AccessToken.make (strOf raw) expiresAt scopes (strOf (getD members "token_type" (.str "Bearer")))
    source

/-- The last check of `RestrictedTokenFileProvider.get_token`. -/
def unexpired (now : Clock) (token : AccessToken) : Except Exn AccessToken := do
  let valid ← token.isValid now 0
  if valid then .ok token else .error (authenticationError "token file contains an expired token")

/-- `json.loads` of the text, with the exceptions that the provider handles. -/
def loadTokenFile (text : String) : Except Exn Value :=
  match Library.loads text with
  | .ok value => .ok value
  | .error e => .error (if isUnreadable e then authenticationError "token file could not be read" else e)

/-- `RestrictedTokenFileProvider.get_token`, of the bytes that the file holds. -/
def fileToken (name : String) (payload : List UInt8) (now : Clock) : Except Exn AccessToken := do
  let text ← readRestrictedTokenFile payload
  let raw ← loadTokenFile text
  match raw with
  | .dict members =>
    let token ← asSchemaError "token file schema is invalid"
      (tokenOfFile members ("restricted-file:" ++ name))
    unexpired now token
  | _ => .error (authenticationError "token file must contain a JSON object")

/-- The texts of a list. -/
def strings : List Value → List String
  | [] => []
  | .str s :: items => s :: strings items
  | _ :: items => strings items

/-- The scopes that a file reports: the texts of a list. -/
def reportedList : Option Value → Option (List String)
  | some (.list items) => some (strings items)
  | _ => none

/-- What a token file gives. -/
def fileOffer (members : Members) : Offer :=
  ⟨givenText (members.lookup "access_token"), reportedList (members.lookup "scopes")⟩

/-- The scopes that are no list of texts, and that the provider takes all the same. -/
def ScopesSound : Value → Prop
  | .list items => ∀ item ∈ items, strOf item ∈ strings items
  | .str s => s = ""
  | .dict members => members = []
  | _ => True

/-- A token file that passes every check of the provider. -/
structure FileAccepted (members : Members) (now : Clock) (raw : Value) : Prop where
  expiry : ∃ rawExpiry d, members.lookup "expires_at" = some rawExpiry ∧
    Library.fromisoformat (strOf rawExpiry) = some d ∧ now.before d
  scopes : ∃ scopes, strsOf (getD members "scopes" (.list [])) = .ok scopes
  token : members.lookup "access_token" = some raw
  nonempty : strOf raw ≠ ""
  bearer : Library.lower (strOf (getD members "token_type" (.str "Bearer"))) = "bearer"

/-- The contents for which the outcome is proper: `json.loads` raises nothing but what is handled, and
what passes every check has a text as its token and a list of texts as its scopes. -/
def FileSound (payload : List UInt8) (now : Clock) : Prop :=
  ∀ text, readRestrictedTokenFile payload = .ok text →
    match Library.loads text with
    | .error e => isUnreadable e = true ∨ Refusal e
    | .ok (.dict members) => ∀ raw, FileAccepted members now raw →
        isStr raw = true ∧ ScopesSound (getD members "scopes" (.list []))
    | .ok _ => True

/-- What a file gives, once it is read. -/
def payloadOffer (payload : List UInt8) : Offer :=
  match readRestrictedTokenFile payload >>= Library.loads with
  | .ok (.dict members) => fileOffer members
  | _ => ⟨none, none⟩

theorem strsOf_sound_iff {scopes : Option Value} {taken : List String}
    (iterated : strsOf (scopes.getD (.list [])) = .ok taken) :
    (∀ s ∈ taken, s ∈ (reportedList scopes).getD []) ↔ ScopesSound (scopes.getD (.list [])) := by
  cases scopes with
  | none =>
    cases iterated
    exact iff_of_true nofun nofun
  | some value =>
    rw [Option.getD_some] at iterated ⊢
    cases value with
    | list items =>
      cases iterated
      exact List.forall_mem_map
    | str s =>
      cases iterated
      rw [ScopesSound, ← String.toList_eq_nil_iff]
      simp [reportedList, List.eq_nil_iff_forall_not_mem]
    | dict members =>
      cases iterated
      simp [ScopesSound, reportedList, List.eq_nil_iff_forall_not_mem]
    | _ => cases iterated

/-- With no skew, the check of the expiry is the comparison with the clock. -/
theorem isValid_zero {token : AccessToken} {now : Clock} :
    token.isValid now 0 = .ok (decide (now.before token.expiresAt)) := by
  have inside := Datetime.wallMicros_lt now.1
  rw [AccessToken.isValid, if_neg (by rw [endOfCalendar]; omega)]
  congr 1
  cases found : token.expiresAt.instant? with
  | none =>
    symm
    rw [Option.any_none, decide_eq_false_iff_not]
    rintro ⟨instant, other, -⟩
    cases found.symm.trans other
  | some instant =>
    rw [Option.any_some]
    refine decide_eq_decide.mpr ⟨fun less => ⟨instant, found, by omega⟩, ?_⟩
    rintro ⟨other, same, less⟩
    cases found.symm.trans same
    omega

/-- What the constructor raises is a refusal. -/
theorem make_error {value : String} {expiresAt : Datetime} {scopes : List String}
    {tokenType source : String} {e : Exn}
    (raised : AccessToken.make value expiresAt scopes tokenType source = .error e) : Refusal e := by
  unfold AccessToken.make at raised
  split_ifs at raised
  · cases raised
    exact refusal_configuration _
  · cases raised
    exact refusal_configuration _
  · cases raised
    exact refusal_configuration _

theorem make_ok {value : String} {expiresAt : Datetime} {scopes : List String}
    {tokenType source : String} {token : AccessToken}
    (made : AccessToken.make value expiresAt scopes tokenType source = .ok token) :
    token.value = value ∧ token.expiresAt = expiresAt ∧ token.scopes = scopes ∧
      token.tokenType = tokenType := by
  unfold AccessToken.make at made
  split_ifs at made
  cases made
  exact ⟨rfl, rfl, rfl, rfl⟩

omit [Library] in
theorem item_cases {members : Members} {key : String} :
    (∃ value, members.lookup key = some value ∧ item members key = .ok value) ∨
      item members key = .error (keyError key) := by
  rw [item]
  cases members.lookup key with
  | none => exact .inr rfl
  | some value => exact .inl ⟨value, rfl, rfl⟩

/-- What is raised for a file's members is a refusal, once the schema errors are handled. -/
theorem tokenOfFile_error {members : Members} {source : String} {e : Exn}
    (raised : tokenOfFile members source = .error e) : isSchemaError e = true ∨ Refusal e := by
  rw [tokenOfFile] at raised
  obtain ⟨rawExpiry, -, expiry⟩ | absent := @item_cases members "expires_at"
  · rw [expiry, ok_bind, parseIso] at raised
    cases parsed : Library.fromisoformat (strOf rawExpiry) with
    | none =>
      rw [parsed] at raised
      cases raised
      exact .inl rfl
    | some d =>
      rw [parsed, ok_bind] at raised
      cases taken : strsOf (getD members "scopes" (.list [])) with
      | error other =>
        rw [taken] at raised
        cases raised
        unfold strsOf at taken
        split at taken <;> cases taken
        exact .inl rfl
      | ok scopes =>
        rw [taken, ok_bind] at raised
        obtain ⟨raw, -, value⟩ | absent := @item_cases members "access_token"
        · rw [value, ok_bind] at raised
          exact .inr (make_error raised)
        · rw [absent] at raised
          cases raised
          exact .inl rfl
  · rw [absent] at raised
    cases raised
    exact .inl rfl

/-- The members that a token is made of. -/
theorem tokenOfFile_ok {members : Members} {source : String} {token : AccessToken} {now : Clock}
    (made : tokenOfFile members source = .ok token) (fresh : now.before token.expiresAt) :
    ∃ raw, FileAccepted members now raw ∧ token.value = strOf raw ∧
      strsOf (getD members "scopes" (.list [])) = .ok token.scopes := by
  rw [tokenOfFile] at made
  obtain ⟨rawExpiry, expiry, rest⟩ := of_bind_ok made
  obtain ⟨d, parsed, rest₂⟩ := of_bind_ok rest
  obtain ⟨scopes, taken, rest₃⟩ := of_bind_ok rest₂
  obtain ⟨raw, value, done⟩ := of_bind_ok rest₃
  obtain ⟨same, expires, scopes', kind⟩ := make_ok done
  have found : ∀ {key : String} {value : Value}, item members key = .ok value →
      members.lookup key = some value := by
    intro key value here
    obtain ⟨other, listed, same⟩ | absent := @item_cases members key
    · rw [listed, Except.ok.inj (same.symm.trans here)]
    · cases absent.symm.trans here
  have iso : Library.fromisoformat (strOf rawExpiry) = some d := by
    rw [parseIso] at parsed
    cases read : Library.fromisoformat (strOf rawExpiry) with
    | none =>
      rw [read] at parsed
      cases parsed
    | some other =>
      rw [read] at parsed
      rw [Except.ok.inj parsed]
  exact ⟨raw, ⟨⟨rawExpiry, d, found expiry, iso, expires ▸ fresh⟩, ⟨scopes, taken⟩, found value,
    same ▸ token.nonempty, kind ▸ token.bearer⟩, same, scopes' ▸ taken⟩

/-- Members that pass every check make a token. -/
theorem tokenOfFile_of_accepted {members : Members} {source : String} {now : Clock} {raw : Value}
    (accepted : FileAccepted members now raw) :
    ∃ token, tokenOfFile members source = .ok token ∧ now.before token.expiresAt := by
  obtain ⟨⟨rawExpiry, d, expiry, iso, fresh⟩, ⟨scopes, taken⟩, value, nonempty, bearer⟩ := accepted
  have aware : d.offset ≠ none := by
    intro naive
    obtain ⟨instant, found, -⟩ := fresh
    rw [Datetime.instant?, naive] at found
    cases found
  refine ⟨⟨strOf raw, d, scopes, strOf (getD members "token_type" (.str "Bearer")), source, nonempty,
    aware, bearer⟩, ?_, fresh⟩
  simp only [tokenOfFile, item, expiry, ok_bind, parseIso, iso, taken, value, AccessToken.make]
  rw [dif_neg nonempty, dif_neg aware, dif_pos bearer]

theorem unexpired_eq {now : Clock} {token : AccessToken} :
    unexpired now token = if now.before token.expiresAt then .ok token
      else .error (authenticationError "token file contains an expired token") := by
  rw [unexpired, isValid_zero, ok_bind]
  simp only [decide_eq_true_eq]

omit [Library] in
theorem asSchemaError_ok {R : Type} {message : String} {r : R} :
    asSchemaError message (.ok r) = .ok r := rfl

omit [Library] in
/-- Once schema errors are handled, only refusals are raised. -/
theorem asSchemaError_error {R : Type} {message : String} {e : Exn}
    (raised : isSchemaError e = true ∨ Refusal e) :
    ∃ other, asSchemaError (R := R) message (.error e) = .error other ∧ Refusal other := by
  refine ⟨if isSchemaError e then authenticationError message else e, rfl, ?_⟩
  by_cases schema : isSchemaError e = true
  · rw [if_pos schema]
    exact refusal_authentication _
  · rw [if_neg schema]
    exact raised.resolve_left schema

/-- For which members of a file the outcome is proper. -/
theorem tokenOfFile_proper_iff {members : Members} {source : String} {now : Clock} :
    Proper (fileOffer members) [] now
        (asSchemaError "token file schema is invalid" (tokenOfFile members source) >>= unexpired now) ↔
      ∀ raw, FileAccepted members now raw →
        isStr raw = true ∧ ScopesSound (getD members "scopes" (.list [])) := by
  cases ran : tokenOfFile members source with
  | error e =>
    obtain ⟨other, handled, refusal⟩ :=
      @asSchemaError_error AccessToken "token file schema is invalid" _ (tokenOfFile_error ran)
    rw [handled]
    refine iff_of_true refusal fun raw accepted => ?_
    obtain ⟨token, made, -⟩ := @tokenOfFile_of_accepted _ _ source _ _ accepted
    cases ran.symm.trans made
  | ok token =>
    rw [asSchemaError_ok, ok_bind, unexpired_eq]
    split_ifs with fresh
    · obtain ⟨raw, accepted, value, taken⟩ := tokenOfFile_ok ran fresh
      have given : (fileOffer members).value = some token.value ↔ isStr raw = true := by
        rw [fileOffer, accepted.token, value]
        exact givenText_eq_iff
      have scopes : (∀ s ∈ token.scopes, s ∈ (fileOffer members).scopes.getD []) ↔
          ScopesSound (getD members "scopes" (.list [])) := strsOf_sound_iff taken
      have one : (∀ other, FileAccepted members now other →
          isStr other = true ∧ ScopesSound (getD members "scopes" (.list []))) ↔
          (isStr raw = true ∧ ScopesSound (getD members "scopes" (.list []))) :=
        ⟨fun all => all raw accepted, fun here other others =>
          Option.some.inj (accepted.token.symm.trans others.token) ▸ here⟩
      rw [one, ← given, ← scopes]
      exact ⟨fun proper => ⟨proper.1, proper.2.1⟩, fun both => ⟨both.1, both.2, fresh⟩⟩
    · refine iff_of_true (refusal_authentication _) fun raw accepted => ?_
      obtain ⟨other, made, before⟩ := @tokenOfFile_of_accepted _ _ source _ _ accepted
      cases ran.symm.trans made
      exact absurd before fresh

/-- For which contents of a token file the outcome is proper. -/
theorem fileToken_proper_iff {name : String} {payload : List UInt8} {now : Clock} :
    Proper (payloadOffer payload) [] now (fileToken name payload now) ↔ FileSound payload now := by
  unfold FileSound fileToken payloadOffer
  cases read : readRestrictedTokenFile payload with
  | error e =>
    have refusal : Refusal e := by
      unfold readRestrictedTokenFile at read
      split_ifs at read
      · cases read
        exact refusal_authentication _
      · split at read
        · cases read
        · cases read
          exact refusal_authentication _
    exact iff_of_true refusal nofun
  | ok text =>
    have one : ∀ {P : String → Prop}, (∀ other, (Except.ok text : Except Exn String) = .ok other → P other) ↔
        P text :=
      ⟨fun all => all text rfl, fun here other same => Except.ok.inj same ▸ here⟩
    rw [one, ok_bind, ok_bind, loadTokenFile]
    cases loaded : Library.loads text with
    | error e =>
      change Refusal (if isUnreadable e then _ else e) ↔ (isUnreadable e = true ∨ Refusal e)
      by_cases unreadable : isUnreadable e = true
      · rw [if_pos unreadable]
        exact iff_of_true (refusal_authentication _) (.inl unreadable)
      · rw [if_neg unreadable]
        exact (or_iff_right unreadable).symm
    | ok value =>
      cases value with
      | dict members => exact tokenOfFile_proper_iff
      | _ => exact iff_of_true (refusal_authentication _) trivial

/-! ## Writing a token file -/

/-- The document of `_token_file_bytes`. -/
def AccessToken.document (token : AccessToken) : Json :=
  .obj [("access_token", .str token.value), ("expires_at", .str token.expiresAt.isoformat),
    ("scopes", .arr (token.scopes.map .str)), ("token_type", .str token.tokenType),
    ("source", .str token.source)]

/-- The text of `_token_file_bytes`. -/
def AccessToken.fileText (token : AccessToken) : String :=
  String.ofList (Json.render Json.indented 0 token.document ++ [Char.ofNat 10])

/-- `_token_file_bytes`, which are the bytes that `write_token_file` leaves in the file. -/
def tokenFileBytes (token : AccessToken) : Except Exn (List UInt8) :=
  if (utf8 token.fileText).length > MAX_TOKEN_FILE_BYTES then
    .error (authenticationError "token file exceeds the 1 MiB limit")
  else .ok (utf8 token.fileText)

omit [Library] in
theorem flatItems_strs : ∀ texts : List String, flatItems (texts.map .str) = some (texts.map .str)
  | [] => rfl
  | _ :: texts => by
    rw [List.map_cons, flatItems, flatItems_strs texts]
    rfl

omit [Library] in
theorem readBackItems_strs {reader : Json.Reader} : ∀ texts : List String,
    Json.readBackItems reader (texts.map .str) = some (texts.map .str)
  | [] => rfl
  | _ :: texts => by
    rw [List.map_cons, Json.readBackItems, readBackItems_strs texts]
    rfl

/-- The members that are read of a file that was written. -/
def AccessToken.members (token : AccessToken) : Members :=
  [("access_token", .str token.value), ("expires_at", .str token.expiresAt.isoformat),
    ("scopes", .list (token.scopes.map .str)), ("token_type", .str token.tokenType),
    ("source", .str token.source)]

theorem loads_fileText (token : AccessToken) :
    Library.loads token.fileText = .ok (.dict token.members) := by
  let fields : Fields := [("access_token", .str token.value),
    ("expires_at", .str token.expiresAt.isoformat), ("scopes", .arr (token.scopes.map .str)),
    ("token_type", .str token.tokenType), ("source", .str token.source)]
  have distinct : Json.dictOf fields = fields := Json.dictOf_distinct (by simp [fields])
  have back : Json.readBack (Json.dictReader fun _ => none) token.document = some (.obj fields) := by
    have members : Json.readBackMembers (Json.dictReader fun _ => none) fields = some fields := by
      simp [fields, Json.readBackMembers, Json.readBack, readBackItems_strs]
    rw [AccessToken.document, Json.readBack, members, Option.bind_some]
    exact congrArg (some ∘ Json.obj) distinct
  have flat : flatMembers fields = some token.members := by
    simp [fields, flatMembers, flatItems_strs, AccessToken.members]
  refine Library.loads_flat _ fields _ (Json.loads_render ?_ back) flat
  exact List.forall_mem_singleton.mpr (by decide)

theorem strsOf_strs (texts : List String) : strsOf (.list (texts.map .str)) = .ok texts := by
  rw [strsOf, List.map_map]
  exact congrArg Except.ok (List.map_id texts)

/-- The members of a written file make the token again, but for its source. -/
theorem tokenOfFile_members (token : AccessToken) (source : String) :
    tokenOfFile token.members source = .ok { token with source := source } := by
  have expiry : item token.members "expires_at" = .ok (.str token.expiresAt.isoformat) := rfl
  have scopes : getD token.members "scopes" (.list []) = .list (token.scopes.map .str) := rfl
  have value : item token.members "access_token" = .ok (.str token.value) := rfl
  have kind : getD token.members "token_type" (.str "Bearer") = .str token.tokenType := rfl
  have iso : parseIso (strOf (.str token.expiresAt.isoformat)) = .ok token.expiresAt := by
    rw [parseIso, strOf, Library.fromisoformat_isoformat]
  rw [tokenOfFile, expiry, ok_bind, iso, ok_bind, scopes, strsOf_strs, ok_bind, value, ok_bind, kind,
    AccessToken.make, strOf, strOf, dif_neg token.nonempty, dif_neg token.aware, dif_pos token.bearer]

/-- A token file that was written for an unexpired token is read back: the value, the expiry, the
scopes and the type are the same. -/
theorem written_token_read {name : String} {token : AccessToken} {payload : List UInt8} {now : Clock}
    (written : tokenFileBytes token = .ok payload) (fresh : now.before token.expiresAt) :
    fileToken name payload now = .ok { token with source := "restricted-file:" ++ name } := by
  unfold tokenFileBytes at written
  split_ifs at written with long
  cases written
  have text : readRestrictedTokenFile (utf8 token.fileText) = .ok token.fileText := by
    rw [readRestrictedTokenFile, if_neg long, fromUTF8?_utf8]
  have loaded : loadTokenFile token.fileText = .ok (.dict token.members) := by
    rw [loadTokenFile, loads_fileText]
  have made : asSchemaError "token file schema is invalid"
      (tokenOfFile token.members ("restricted-file:" ++ name)) =
      .ok { token with source := "restricted-file:" ++ name } := by
    rw [tokenOfFile_members]
    rfl
  have valid : unexpired now { token with source := "restricted-file:" ++ name } =
      .ok { token with source := "restricted-file:" ++ name } := by
    rw [unexpired_eq, if_pos fresh]
  rw [fileToken, text, ok_bind, loaded, ok_bind]
  dsimp only
  rw [made, ok_bind, valid]

end

end MasterAgent.Credentials.Tokens
