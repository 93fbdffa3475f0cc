import Mathlib.Data.List.Infix
import MasterAgent.Base.Effect
import MasterAgent.Models.Checks

/-!
# The JSON client of the simple providers

`validate_url` and `HttpTransport.request`. What a server answers to an attempt may depend on every
attempt before. The functions of `urllib.parse` are parameters, as are `json.loads` and the
character classes of `str`.

Results: `wp_request_get` and `wp_request_post`, what a request adds to the attempts and what it can
be blamed on when it raises.
-/

namespace MasterAgent.Simple
open Base Base.Effect

/-! ## Exceptions -/

/-- What the providers raise. `ProviderError` says whether a write may have completed. -/
inductive Raised where
  | providerError (message : String) (uncertain : Bool)
  | attributeError
  | typeError
  | valueError
deriving DecidableEq

def providerError (message : String) : Raised := .providerError message false

/-! ## Library -/

/-- A `SplitResult` with its properties; reading the port may raise. -/
structure SplitUrl where
  scheme : String
  hostname : Option String
  username : Option String
  password : Option String
  port : Option (Option Nat)
  path : String
  query : String
  fragment : String

class ProviderLibrary where
  /-- `urlsplit`, or nothing where it raises `ValueError`. -/
  urlsplit : String → Option SplitUrl
  unquote : String → String
  urljoin : String → String → String
  parse_qs : String → List (String × List String)
  /-- `urlencode(query, doseq=True)` -/
  urlencode : List (String × List String) → String
  /-- `urlunsplit(("", "", path, query, ""))` -/
  urlunsplit : String → String → String
  /-- `json.loads`, or nothing where it raises `ValueError`. -/
  loads : List UInt8 → Option Json
  /-- `json.dumps` of a text. -/
  quoted : String → String
  /-- `str` of a value that is not a text. -/
  repr : Json → String
  /-- `int` of a value that is not an integer. -/
  int : Json → Except Raised Int
  isDigit : Char → Bool
  isDecimal : Char → Bool

section
variable [ProviderLibrary]
open ProviderLibrary

/-! ## URLs -/

/-- The rounds of `unquote` over a path. -/
def decodeRounds : Nat → String → String
  | 0, decoded => decoded
  | rounds + 1, decoded =>
      if unquote decoded = decoded then decoded else decodeRounds rounds (unquote decoded)

def safePath (path : String) : Bool :=
  let decoded := (decodeRounds 4 path).toList
  !((decoded.splitOn '/').any fun part => part == ['.'] || part == ['.', '.']) &&
    !decoded.contains '\\' && decoded.all (fun c => 32 ≤ c.toNat) &&
    decoded.count '/' == path.toList.count '/'

/-- `path.rstrip("/")` -/
def rstripSlashes (path : String) : String :=
  String.ofList (path.toList.reverse.dropWhile (· == '/')).reverse

/-- A text that is neither `None` nor empty. -/
def given (text : Option String) : Bool := text.any fun s => s != ""

/-- `port or 443` -/
def portOf (port : Option Nat) : Nat := if port.getD 0 = 0 then 443 else port.getD 0

/-- The checks of `validate_url`, where an exception of theirs is a refusal. -/
def validUrl (url baseUrl : String) : Bool :=
  match urlsplit url, urlsplit baseUrl with
  | some target, some base =>
      target.scheme == "https" && base.scheme == "https" && given target.hostname &&
      given base.hostname && target.username == none && target.password == none &&
      base.username == none && base.password == none &&
      (match target.port, base.port with
        | some port, some basePort =>
            target.hostname == base.hostname && portOf port == portOf basePort
        | _, _ => false) &&
      target.fragment == "" && base.query == "" && base.fragment == "" &&
      (url ++ baseUrl).toList.all (fun c => 33 ≤ c.toNat && c != '\\') &&
      safePath target.path && safePath base.path &&
      (let context := rstripSlashes base.path
       context == "" || target.path == context ||
        (context.toList ++ ['/']).isPrefixOf target.path.toList)
  | _, _ => false

/-- `validate_url` -/
def validateUrl (url baseUrl : String) : Except Raised Unit :=
  if validUrl url baseUrl then .ok ()
  else .error (providerError "URL must use the configured HTTPS provider and context path.")

/-! ## Requests -/

inductive Method where
  | get | post
deriving DecidableEq

/-- One attempt of a request, with its number. -/
structure Attempt where
  method : Method
  path : String
  data : Option Json
  number : Nat

/-- The attempts made so far, in their order. -/
abbrev History := List Attempt

/-- What comes back for an attempt: a response with a success status, a redirect that is not
followed, another status, or no response. A read follows a redirect that stays in scope. -/
inductive Reply where
  | body (raw : List UInt8)
  | redirected (inScope : Bool)
  | status (code : Nat)
  | failed

/-- The reply to the last of the attempts. -/
abbrev Network := History → Reply

abbrev Session := Effect History Raised

def liftExcept {A : Type} : Except Raised A → Session A
  | .ok a => pure a
  | .error raised => Effect.raise raised

def transient (code : Nat) : Bool := code == 429 || code == 502 || code == 503 || code == 504

/-- The status leaves open whether a write has completed. -/
def openStatus (code : Nat) : Bool := code ≥ 500 || code == 408 || (300 ≤ code && code < 400)

def statusMessage (code : Nat) : String :=
  if code = 401 ∨ code = 403 then
    "Provider returned HTTP " ++ toString code ++ "; check credentials and account permissions."
  else if code = 429 then "Provider rate limit reached; try again later."
  else "Provider returned HTTP " ++ toString code ++ "."

def redirectMessage (inScope : Bool) : String :=
  if inScope then "Write redirect was not followed; check the provider result."
  else "Provider redirect left its configured origin or context."

def MAX_RESPONSE_BYTES : Nat := 8 * 1024 * 1024

/-- The decoded response of an attempt. -/
def decode (read : Bool) (raw : List UInt8) : Except Raised Json :=
  if MAX_RESPONSE_BYTES < raw.length then
    .error (.providerError "Provider response exceeded 8 MiB." !read)
  else if raw = [] then .ok (Json.mkObj [])
  else match loads raw with
    | some value => .ok value
    | none => .error (.providerError "Provider returned invalid JSON." !read)

/-- `for attempt in range(3 if read else 1)`; a read is tried again after some of the failures. -/
def attempts (network : Network) (method : Method) (path : String) (data : Option Json) :
    (left number : Nat) → Session Json
  | 0, _ => Effect.raise (providerError "Provider request did not complete.")
  | left + 1, number => do
      Effect.modify fun history => history ++ [⟨method, path, data, number⟩]
      let history ← Effect.get
      let read := method = .get
      match network history with
      | .body raw => liftExcept (decode read raw)
      | .redirected inScope => Effect.raise (.providerError (redirectMessage inScope) !read)
      | .status code =>
          if read ∧ number < 2 ∧ transient code then
            attempts network method path data left (number + 1)
          else Effect.raise (.providerError (statusMessage code) (!read && openStatus code))
      | .failed =>
          if read ∧ number < 2 then attempts network method path data left (number + 1)
          else Effect.raise (.providerError
            "Provider connection failed; check the network and configured URL." !read)

/-- `HttpTransport.request` -/
def request (network : Network) (baseUrl : String) (method : Method) (path : String)
    (data : Option Json) : Session Json := do
  match urlsplit path with
  | none => Effect.raise .valueError
  | some parsed => do
      let url := if parsed.scheme ≠ "" then path else urljoin (baseUrl ++ "/") path
      liftExcept (validateUrl url baseUrl)
      attempts network method path data (if method = .get then 3 else 1) 0

/-! ## What a request sends -/

def Raised.uncertain : Raised → Bool
  | .providerError _ uncertain => uncertain
  | _ => false

/-- The attempts of a request from a number on. -/
def tries (method : Method) (path : String) (data : Option Json) (number count : Nat) : History :=
  (List.range' number count).map fun k => ⟨method, path, data, k⟩

variable {network : Network} {baseUrl : String} {method : Method} {path : String}
  {data : Option Json} {history : History}

/-- The provider has refused what was sent last. -/
def Refused (network : Network) (history : History) : Prop :=
  ∃ code, network history = .status code ∧ openStatus code = false

/-- What a request that returns has received. -/
def Answered (network : Network) (read : Bool) (value : Json) (history : History) : Prop :=
  ∃ raw, network history = .body raw ∧ decode read raw = .ok value

theorem decode_error {read : Bool} {raw : List UInt8} {raised : Raised}
    (failed : decode read raw = .error raised) : raised.uncertain = !read := by
  unfold decode at failed
  split at failed
  · cases failed
    rfl
  split at failed
  · cases failed
  split at failed
  · cases failed
  · cases failed
    rfl

theorem wp_attempts {left number : Nat} (some_ : 0 < left) :
    wp (attempts network method path data left number)
      (fun value h => ∃ count, 0 < count ∧ count ≤ left ∧
        h = history ++ tries method path data number count ∧
        Answered network (method = .get) value h)
      (fun raised h => ∃ count, count ≤ left ∧ h = history ++ tries method path data number count ∧
        (method = .post → 0 < count ∧ (raised.uncertain = true ∨ Refused network h)))
      (fun _ => False) history := by
  induction left generalizing number history with
  | zero => exact absurd some_ (Nat.lt_irrefl _)
  | succ left ih =>
  unfold attempts
  refine wp_bind.mpr (wp_modify.mpr (wp_bind.mpr (wp_get.mpr ?_)))
  have sent : history ++ [⟨method, path, data, number⟩] =
      history ++ tries method path data number 1 := rfl
  -- a read that is tried again
  have again (read : method = .get) : wp (attempts network method path data left (number + 1))
      (fun value h => ∃ count, 0 < count ∧ count ≤ left + 1 ∧
        h = history ++ tries method path data number count ∧
        Answered network (method = .get) value h)
      (fun raised h => ∃ count, count ≤ left + 1 ∧
        h = history ++ tries method path data number count ∧
        (method = .post → 0 < count ∧ (raised.uncertain = true ∨ Refused network h)))
      (fun _ => False) (history ++ [⟨method, path, data, number⟩]) := by
    have longer (count : Nat) : history ++ [⟨method, path, data, number⟩] ++
        tries method path data (number + 1) count =
          history ++ tries method path data number (count + 1) := by
      rw [List.append_assoc]
      rfl
    rcases Nat.eq_zero_or_pos left with rfl | more
    · exact wp_raise.mpr ⟨1, Nat.le_refl _, rfl, fun write => absurd (read.symm.trans write) nofun⟩
    · refine wp_mono (ih more) ?_ ?_ fun _ => id
      · rintro value h ⟨count, -, few, rfl, answered⟩
        rw [longer] at answered ⊢
        exact ⟨count + 1, Nat.succ_pos _, Nat.succ_le_succ few, rfl, answered⟩
      · rintro raised h ⟨count, few, rfl, -⟩
        exact ⟨count + 1, Nat.succ_le_succ few, longer count,
          fun write => absurd (read.symm.trans write) nofun⟩
  have certain {raised : Raised} (uncertain : method = .post → raised.uncertain = true ∨
      Refused network (history ++ [⟨method, path, data, number⟩])) :
      ∃ count, count ≤ left + 1 ∧ history ++ [⟨method, path, data, number⟩] =
        history ++ tries method path data number count ∧
        (method = .post → 0 < count ∧ (raised.uncertain = true ∨
          Refused network (history ++ [⟨method, path, data, number⟩]))) :=
    ⟨1, Nat.succ_le_succ (Nat.zero_le _), rfl, fun write => ⟨Nat.one_pos, uncertain write⟩⟩
  dsimp only
  cases reply : network (history ++ [⟨method, path, data, number⟩]) with
  | body raw =>
      dsimp only
      cases decoded : decode (method = .get) raw with
      | ok value =>
          exact ⟨1, Nat.one_pos, Nat.succ_le_succ (Nat.zero_le _), rfl, raw, reply, decoded⟩
      | error raised =>
          refine wp_raise.mpr (certain fun write => .inl ?_)
          rw [decode_error decoded, write]
          rfl
  | redirected inScope =>
      refine wp_raise.mpr (certain fun write => .inl ?_)
      rw [write]
      rfl
  | status code =>
      dsimp only
      split
      · next retried => exact again (by simpa using retried.1)
      · refine wp_raise.mpr (certain fun write => ?_)
        cases open_ : openStatus code with
        | true =>
            rw [write]
            exact .inl rfl
        | false => exact .inr ⟨code, reply, open_⟩
  | failed =>
      dsimp only
      split
      · next retried => exact again (by simpa using retried.1)
      · refine wp_raise.mpr (certain fun write => .inl ?_)
        rw [write]
        rfl

omit [ProviderLibrary] in
theorem wp_liftExcept {A : Type} {result : Except Raised A} {Q : A → History → Prop}
    {X : Raised → History → Prop} {C : History → Prop} :
    wp (liftExcept result) Q X C history ↔
      (∀ a, result = .ok a → Q a history) ∧ ∀ e, result = .error e → X e history := by
  cases result with
  | ok a => exact ⟨fun h => ⟨fun _ same => Except.ok.inj same ▸ h, fun _ => nofun⟩, fun h => h.1 a rfl⟩
  | error e =>
      exact ⟨fun h => ⟨fun _ => nofun, fun _ same => Except.error.inj same ▸ h⟩, fun h => h.2 e rfl⟩

/-- A read makes attempts of its own only, and returns what it has received. -/
theorem wp_request_get :
    wp (request network baseUrl .get path data)
      (fun value h => ∃ count, 0 < count ∧ h = history ++ tries .get path data 0 count ∧
        Answered network true value h)
      (fun _ h => ∃ count, h = history ++ tries .get path data 0 count) (fun _ => False) history := by
  unfold request
  cases urlsplit path with
  | none => exact wp_raise.mpr ⟨0, (List.append_nil _).symm⟩
  | some parsed =>
      refine wp_bind.mpr (wp_liftExcept.mpr ⟨fun _ _ => ?_, fun _ _ => ⟨0, (List.append_nil _).symm⟩⟩)
      refine wp_mono (wp_attempts (by decide)) ?_ ?_ fun _ => id
      · rintro value h ⟨count, some_, -, sent, answered⟩
        exact ⟨count, some_, sent, answered⟩
      · rintro raised h ⟨count, -, sent, -⟩
        exact ⟨count, sent⟩

/-- A write makes one attempt at most. When it has made it and raises, the exception is uncertain or
the provider has refused. -/
theorem wp_request_post :
    wp (request network baseUrl .post path data)
      (fun _ h => h = history ++ [⟨.post, path, data, 0⟩])
      (fun raised h => h = history ∨ (h = history ++ [⟨.post, path, data, 0⟩] ∧
        (raised.uncertain = true ∨ Refused network h))) (fun _ => False) history := by
  unfold request
  cases urlsplit path with
  | none => exact wp_raise.mpr (.inl rfl)
  | some parsed =>
      refine wp_bind.mpr (wp_liftExcept.mpr ⟨fun _ _ => ?_, fun _ _ => .inl rfl⟩)
      refine wp_mono (wp_attempts (by decide)) ?_ ?_ fun _ => id
      · rintro value h ⟨count, some_, few, sent, -⟩
        obtain rfl : count = 1 := Nat.le_antisymm few some_
        exact sent
      · rintro raised h ⟨count, few, sent, cause⟩
        obtain ⟨some_, why⟩ := cause rfl
        obtain rfl : count = 1 := Nat.le_antisymm few some_
        exact .inr ⟨sent, why⟩

end

end MasterAgent.Simple
