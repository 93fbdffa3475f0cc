import MasterAgent.Base.Transition
import MasterAgent.Credentials.Tokens

/-!
# Token providers

The providers that a connector is given, and the device-code flow. The providers that ask a token
endpoint stand behind a cache, which any number of threads share: they read it without the lock, and
replace its token under the lock.

Results:

1. `Cache.run_proper_iff`: whatever the threads do, the outcomes of the cache are proper exactly where
   each answer is sound for its provider and each reading of the clock is clear of the calendar's end;
2. `deviceToken_proper_iff`: the same of the device-code flow;
3. `poll_returns`: the flow ends when the clock reaches the challenge's expiry;
4. `access_tokens`: the same of all the providers.
-/

namespace MasterAgent.Credentials.Tokens
open Base

variable [Library]

/-! ## Providers -/

/-- A provider: what it makes of an answer, what the answer gives, and for which answers the outcome is
proper. -/
structure Provider (D : Type) where
  acquire : D → Clock → Except Exn AccessToken
  offer : D → Offer
  fallback : List String
  Sound : D → Clock → Prop
  proper_iff : ∀ answer now, Proper (offer answer) fallback now (acquire answer now) ↔ Sound answer now

def entraClientCredentials (scopes : List String) : Provider Value where
  acquire data now := tokenFromResponse data scopes "entra-client-credentials" now
  offer := responseOffer
  fallback := scopes
  Sound data now := ResponseSound data scopes now
  proper_iff _ _ := tokenFromResponse_proper_iff

def redditRefreshToken (scopes : List String) : Provider Value where
  acquire := redditToken scopes
  offer := responseOffer
  fallback := []
  Sound := RedditSound scopes
  proper_iff _ _ := redditToken_proper_iff

def environmentProvider (provider : EnvironmentTokenProvider) : Provider (String → Option String) where
  acquire := environmentToken provider
  offer := environmentOffer provider
  fallback := provider.scopes
  Sound := EnvironmentSound provider
  proper_iff _ _ := environmentToken_proper_iff

def restrictedTokenFile (name : String) : Provider (List UInt8) where
  acquire := fileToken name
  offer := payloadOffer
  fallback := []
  Sound := FileSound
  proper_iff _ _ := fileToken_proper_iff

/-! ## What a connector is given -/

inductive AuthMode where
  | none | bearer | basic | oauthDelegated | oauthApplication
deriving DecidableEq

/-- What `ConnectorConfig` says of its tokens. -/
structure ConnectorAuth where
  system : String
  authMode : AuthMode
  secretEnv : Option String
  extra : Members

/-- The providers that `ConnectorConfig.resolve` can install. The first two stand behind a cache. -/
inductive InstalledProvider where
  | entra (scopes : List String)
  | reddit (scopes : List String)
  | tokenFile (path : String)
  | environment (provider : EnvironmentTokenProvider)

/-- `_environment_value` -/
def environmentValue (environ : String → Option String) (extra : Members) (key : String) :
    Except Exn String :=
  match givenText (extra.lookup key) with
  | some name =>
    if strip name = "" then .error (configurationError ("missing environment reference: " ++ key))
    else
      let value := strip ((environ (strip name)).getD "")
      if value = "" then
        .error (configurationError ("environment variable " ++ strip name ++ " is missing"))
      else .ok value
  | none => .error (configurationError ("missing environment reference: " ++ key))

/-- The check of `RedditRefreshTokenProvider` on one of its texts. -/
def checkReddit (name value : String) : Except Exn Unit :=
  if strip value = "" ∨ value.toList.any (fun c => c.toNat == 13 || c.toNat == 10 || c.toNat == 0) then
    .error (configurationError ("Reddit " ++ name ++ " is invalid"))
  else .ok ()

/-- The variable that is named for the expiry. -/
def expiresAtEnv (extra : Members) : Option String :=
  let named := getD extra "token_expires_at_env" .null
  if truthy named then some (strOf named) else none

/-- The token provider that `ConnectorConfig.resolve` installs, with the checks of its constructor. -/
def resolveTokenProvider (config : ConnectorAuth) (environ : String → Option String) :
    Except Exn (Option InstalledProvider) :=
  let extra := config.extra
  let oauthFlow := strip (strOf (getD extra "oauth_flow" (.str "environment")))
  if config.authMode = .oauthApplication ∧ oauthFlow = "client_credentials" then do
    let _ ← environmentValue environ extra "tenant_id_env"
    let _ ← environmentValue environ extra "client_id_env"
    let _ ← environmentValue environ extra "client_secret_env"
    let scopes ← strsOf (getD extra "scopes" (.list []))
    if scopes = [] then .error (configurationError "at least one OAuth scope is required")
    else .ok (some (.entra scopes))
  else if config.authMode = .oauthDelegated ∧ oauthFlow = "reddit_refresh_token" then do
    let clientId ← environmentValue environ extra "client_id_env"
    let clientSecret ← environmentValue environ extra "client_secret_env"
    let refreshToken ← environmentValue environ extra "refresh_token_env"
    let scopes ← strsOf (getD extra "scopes" (.list []))
    checkReddit "client_id" clientId
    checkReddit "client_secret" clientSecret
    checkReddit "refresh_token" refreshToken
    checkReddit "user_agent" (strOf (getD extra "user_agent" (.str "")))
    .ok (some (.reddit scopes))
  else if config.authMode = .oauthDelegated ∧ oauthFlow = "token_file" then do
    let path ← environmentValue environ extra "token_file_env"
    .ok (some (.tokenFile path))
  else if config.authMode = .bearer ∨ config.authMode = .oauthDelegated ∨
      config.authMode = .oauthApplication then
    match config.secretEnv.filter (· ≠ "") with
    | none => .error (configurationError
        ("connector " ++ config.system ++ " requires a token environment reference"))
    | some tokenEnv => do
      let scopes ← strsOf (getD extra "scopes" (.list []))
      .ok (some (.environment ⟨tokenEnv, expiresAtEnv extra, scopes⟩))
  else if config.authMode ≠ .none ∧ ((config.secretEnv.filter (· ≠ "")).bind environ).getD "" = "" then
    .error (configurationError ("connector " ++ config.system ++ " requires an authentication secret"))
  else .ok none

/-- The scopes that a provider is configured with. -/
def InstalledProvider.scopes : InstalledProvider → Option (List String)
  | .entra scopes => some scopes
  | .reddit scopes => some scopes
  | .tokenFile _ => none
  | .environment provider => some provider.scopes

/-- The scopes of an installed provider are those of the configuration. -/
theorem resolveTokenProvider_scopes {config : ConnectorAuth} {environ : String → Option String}
    {installed : InstalledProvider} {scopes : List String}
    (resolved : resolveTokenProvider config environ = .ok (some installed))
    (known : installed.scopes = some scopes) :
    strsOf (getD config.extra "scopes" (.list [])) = .ok scopes := by
  unfold resolveTokenProvider at resolved
  dsimp only at resolved
  split_ifs at resolved
  · obtain ⟨_, -, rest⟩ := of_bind_ok resolved
    obtain ⟨_, -, rest₂⟩ := of_bind_ok rest
    obtain ⟨_, -, rest₃⟩ := of_bind_ok rest₂
    obtain ⟨taken, iterated, rest₄⟩ := of_bind_ok rest₃
    split_ifs at rest₄
    cases rest₄
    cases known
    exact iterated
  · obtain ⟨_, -, rest⟩ := of_bind_ok resolved
    obtain ⟨_, -, rest₂⟩ := of_bind_ok rest
    obtain ⟨_, -, rest₃⟩ := of_bind_ok rest₂
    obtain ⟨taken, iterated, rest₄⟩ := of_bind_ok rest₃
    obtain ⟨_, -, rest₅⟩ := of_bind_ok rest₄
    obtain ⟨_, -, rest₆⟩ := of_bind_ok rest₅
    obtain ⟨_, -, rest₇⟩ := of_bind_ok rest₆
    obtain ⟨_, -, rest₈⟩ := of_bind_ok rest₇
    cases rest₈
    cases known
    exact iterated
  · obtain ⟨path, -, rest⟩ := of_bind_ok resolved
    cases rest
    cases known
  · split at resolved
    · cases resolved
    · obtain ⟨taken, iterated, rest⟩ := of_bind_ok resolved
      cases rest
      cases known
      exact iterated
  · cases resolved

/-! ## The cache -/

/-- What a call returned or raised, the last reading of its clock, and what the source had given. -/
structure Outcome where
  offer : Offer
  now : Clock
  result : Except Exn AccessToken

def Outcome.IsProper (outcome : Outcome) (fallback : List String) : Prop :=
  Proper outcome.offer fallback outcome.now outcome.result

/-- A token, with what the source gave for it. -/
structure Issued where
  token : AccessToken
  offer : Offer

/-- A token that is exactly what the source gave, with no scope but those it reported or, if it reported
none, the configured ones. -/
def Issued.Given (issued : Issued) (fallback : List String) : Prop :=
  issued.offer.value = some issued.token.value ∧
    ∀ scope ∈ issued.token.scopes, scope ∈ issued.offer.scopes.getD fallback

/-- Where a thread is in `InMemoryTokenCache.get_token`. -/
inductive Phase where
  | idle
  | seen (locked : Bool) (token : Option Issued)
  | waiting
  | asking

structure Cache (P : Type) where
  token : Option Issued
  holder : Option P
  phase : P → Phase
  returned : List Outcome

inductive CacheEvent (P D : Type) where
  | call (p : P)
  | compare (p : P) (now : Clock)
  | pass (p : P)
  | acquire (p : P)
  | ask (p : P) (answer : D) (now : Clock)

namespace Cache

variable {P D : Type} [DecidableEq P]

def empty : Cache P := ⟨none, none, fun _ => .idle, []⟩

/-- A thread goes on from a token that is missing or stale. -/
def goOn (c : Cache P) (p : P) (locked : Bool) : Cache P :=
  { c with phase := Function.update c.phase p (if locked then .asking else .waiting) }

/-- A thread leaves with an outcome, and gives back the lock if it holds it. -/
def leave (c : Cache P) (p : P) (locked : Bool) (outcome : Outcome) : Cache P :=
  ⟨c.token, if locked then none else c.holder, Function.update c.phase p .idle, c.returned ++ [outcome]⟩

/-- A thread compares the expiry of the token that it has seen. -/
def compared (c : Cache P) (skewSeconds : Nat) (p : P) (locked : Bool) (issued : Issued) (now : Clock) :
    Cache P :=
  match issued.token.isValid now skewSeconds with
  | .error e => c.leave p locked ⟨issued.offer, now, .error e⟩
  | .ok true => c.leave p locked ⟨issued.offer, now, .ok issued.token⟩
  | .ok false => c.goOn p locked

/-- A thread under the lock is answered by the provider. -/
def asked (c : Cache P) (provider : Provider D) (p : P) (answer : D) (now : Clock) : Cache P :=
  match provider.acquire answer now with
  | .ok token =>
    { c with token := some ⟨token, provider.offer answer⟩ }.leave p true
      ⟨provider.offer answer, now, .ok token⟩
  | .error e => c.leave p true ⟨provider.offer answer, now, .error e⟩

/-- One step of a thread in `InMemoryTokenCache.get_token`. -/
inductive Step (provider : Provider D) (skewSeconds : Nat) : Cache P → CacheEvent P D → Cache P → Prop
  | call {c : Cache P} {p : P} (idle : c.phase p = .idle) :
      Step provider skewSeconds c (.call p)
        { c with phase := Function.update c.phase p (.seen false c.token) }
  | compare {c : Cache P} {p : P} {locked : Bool} {issued : Issued} {now : Clock}
      (seen : c.phase p = .seen locked (some issued)) :
      Step provider skewSeconds c (.compare p now) (c.compared skewSeconds p locked issued now)
  | pass {c : Cache P} {p : P} {locked : Bool} (seen : c.phase p = .seen locked none) :
      Step provider skewSeconds c (.pass p) (c.goOn p locked)
  | acquire {c : Cache P} {p : P} (waiting : c.phase p = .waiting) (free : c.holder = none) :
      Step provider skewSeconds c (.acquire p)
        { c with holder := some p, phase := Function.update c.phase p (.seen true c.token) }
  | ask {c : Cache P} {p : P} {answer : D} {now : Clock} (asking : c.phase p = .asking) :
      Step provider skewSeconds c (.ask p answer now) (c.asked provider p answer now)

end Cache

/-- The clock with the skew is clear of the calendar's end where it is read for a comparison, and an
answer is sound for its provider. -/
def CacheEvent.Sound {P D : Type} (provider : Provider D) (skewSeconds : Nat) : CacheEvent P D → Prop
  | .compare _ now => now.1.wallMicros + skewSeconds * 1000000 < endOfCalendar
  | .ask _ answer now => provider.Sound answer now
  | _ => True

namespace Cache

variable {P D : Type}

/-- Every token that is kept or seen is as its source gave it. -/
structure Held (fallback : List String) (c : Cache P) : Prop where
  kept : ∀ issued, c.token = some issued → issued.Given fallback
  seen : ∀ p locked issued, c.phase p = .seen locked (some issued) → issued.Given fallback

theorem Held.empty {fallback : List String} : Held fallback (empty : Cache P) := ⟨nofun, nofun⟩

variable [DecidableEq P] {fallback : List String} {c : Cache P}

/-- A thread that goes on to a phase where it sees nothing, or the token that is kept. -/
theorem Held.update {token : Option Issued} {holder : Option P} {returned : List Outcome} {p : P}
    {phase : Phase} (held : Held fallback c)
    (kept : ∀ issued, token = some issued → issued.Given fallback)
    (sees : ∀ locked issued, phase = .seen locked (some issued) → issued.Given fallback) :
    Held fallback ⟨token, holder, Function.update c.phase p phase, returned⟩ := by
  refine ⟨kept, fun q locked issued seen => ?_⟩
  change Function.update c.phase p phase q = _ at seen
  by_cases same : q = p
  · rw [same, Function.update_self] at seen
    exact sees locked issued seen
  · rw [Function.update_of_ne same] at seen
    exact held.seen q locked issued seen

theorem Held.goOn (held : Held fallback c) (p : P) (locked : Bool) :
    Held fallback (c.goOn p locked) := by
  refine held.update held.kept ?_
  cases locked <;> nofun

theorem Held.leave (held : Held fallback c) (p : P) (locked : Bool) (outcome : Outcome) :
    Held fallback (c.leave p locked outcome) := held.update held.kept nofun

/-- What a comparison says of the token. -/
theorem isValid_cases (token : AccessToken) (now : Clock) (skewSeconds : Nat) :
    (∃ e, token.isValid now skewSeconds = .error e ∧ ¬ Refusal e ∧
        endOfCalendar ≤ now.1.wallMicros + skewSeconds * 1000000) ∨
      now.1.wallMicros + skewSeconds * 1000000 < endOfCalendar ∧
        (token.isValid now skewSeconds = .ok false ∨
          token.isValid now skewSeconds = .ok true ∧ now.before token.expiresAt) := by
  rw [AccessToken.isValid]
  split_ifs with outside
  · exact .inl ⟨_, rfl, not_refusal_overflow _, outside⟩
  · refine .inr ⟨not_le.mp outside, ?_⟩
    cases found : token.expiresAt.instant? with
    | none => exact .inl rfl
    | some instant =>
      rw [Option.any_some]
      by_cases less : now.1.wallMicros + skewSeconds * 1000000 < instant
      · rw [decide_eq_true less]
        exact .inr ⟨rfl, instant, found, by omega⟩
      · rw [decide_eq_false less]
        exact .inl rfl

/-- A comparison by its result. -/
theorem compared_eq {skewSeconds : Nat} {p : P} {locked : Bool} {issued : Issued} {now : Clock}
    {valid : Except Exn Bool} : issued.token.isValid now skewSeconds = valid →
    c.compared skewSeconds p locked issued now = match valid with
      | .error e => c.leave p locked ⟨issued.offer, now, .error e⟩
      | .ok true => c.leave p locked ⟨issued.offer, now, .ok issued.token⟩
      | .ok false => c.goOn p locked := by
  -- unfolded as a function, lest the comparison itself be evaluated
  have unfolded : @compared _ P _ = fun c skewSeconds p locked issued now =>
      match issued.token.isValid now skewSeconds with
      | .error e => c.leave p locked ⟨issued.offer, now, .error e⟩
      | .ok true => c.leave p locked ⟨issued.offer, now, .ok issued.token⟩
      | .ok false => c.goOn p locked := rfl
  intro judged
  rw [unfolded, ← judged]

/-- What one step returns is proper exactly where the step is sound; and what is held stays as its
source gave it. -/
theorem step_proper_iff {provider : Provider D} {skewSeconds : Nat} {e : CacheEvent P D} {c' : Cache P}
    (step : Step provider skewSeconds c e c') (held : Held provider.fallback c) :
    ∃ new, c'.returned = c.returned ++ new ∧
      ((∀ outcome ∈ new, outcome.IsProper provider.fallback) ↔ e.Sound provider skewSeconds) ∧
      ((∀ outcome ∈ new, outcome.IsProper provider.fallback) → Held provider.fallback c') := by
  have quiet : ∀ outcome ∈ ([] : List Outcome), outcome.IsProper provider.fallback := nofun
  cases step with
  | call idle =>
    refine ⟨[], (List.append_nil _).symm, iff_of_true quiet trivial, fun _ => ?_⟩
    refine held.update held.kept fun locked issued same => ?_
    exact held.kept issued (Phase.seen.inj same).2
  | @compare p locked issued now seen =>
    have given := held.seen p locked issued seen
    obtain ⟨e, fails, other, outside⟩ | ⟨inside, stale | ⟨valid, fresh⟩⟩ :=
      isValid_cases issued.token now skewSeconds
    · rw [compared_eq fails]
      refine ⟨_, rfl, iff_of_false (fun proper => ?_) (not_lt.mpr outside), fun _ => held.leave ..⟩
      exact other (proper _ List.mem_cons_self)
    · rw [compared_eq stale]
      exact ⟨[], (List.append_nil _).symm, iff_of_true quiet inside, fun _ => held.goOn ..⟩
    · rw [compared_eq valid]
      refine ⟨_, rfl, iff_of_true ?_ inside, fun _ => held.leave ..⟩
      exact List.forall_mem_singleton.mpr ⟨given.1, given.2, fresh⟩
  | @pass p locked seen =>
    exact ⟨[], (List.append_nil _).symm, iff_of_true quiet trivial, fun _ => held.goOn p locked⟩
  | acquire waiting free =>
    refine ⟨[], (List.append_nil _).symm, iff_of_true quiet trivial, fun _ => ?_⟩
    refine held.update held.kept fun locked issued same => ?_
    exact held.kept issued (Phase.seen.inj same).2
  | @ask p answer now asking =>
    have proper_iff := provider.proper_iff answer now
    rw [asked]
    cases acquired : provider.acquire answer now with
    | error e =>
      rw [acquired] at proper_iff
      exact ⟨_, rfl, List.forall_mem_singleton.trans proper_iff, fun _ => held.leave ..⟩
    | ok token =>
      rw [acquired] at proper_iff
      refine ⟨_, rfl, List.forall_mem_singleton.trans proper_iff, fun proper => ?_⟩
      have given := List.forall_mem_singleton.mp proper
      refine held.update (fun issued same => ?_) nofun
      exact Option.some.inj same ▸ ⟨given.1, given.2.1⟩

/-- No step takes back an outcome. -/
theorem step_returned {provider : Provider D} {skewSeconds : Nat} {e : CacheEvent P D} {c' : Cache P}
    (step : Step provider skewSeconds c e c') : c.returned ⊆ c'.returned := by
  cases step with
  | @compare p locked issued now seen =>
    cases judged : issued.token.isValid now skewSeconds with
    | error e =>
      rw [compared_eq judged]
      exact List.subset_append_left ..
    | ok valid =>
      rw [compared_eq judged]
      cases valid with
      | true => exact List.subset_append_left ..
      | false => exact List.Subset.refl _
  | @ask p answer now asking =>
    rw [asked]
    cases provider.acquire answer now with
    | error e => exact List.subset_append_left ..
    | ok token => exact List.subset_append_left ..
  | _ => exact List.Subset.refl _

/-- Whatever the threads do, all that the cache returns is proper exactly where every step is sound. -/
theorem run_proper_iff {provider : Provider D} {skewSeconds : Nat} {t : List (CacheEvent P D)}
    {c' : Cache P} (run : Run (Step provider skewSeconds) c t c') (held : Held provider.fallback c) :
    (∀ outcome ∈ c'.returned, outcome.IsProper provider.fallback) ↔
      (∀ outcome ∈ c.returned, outcome.IsProper provider.fallback) ∧
        ∀ e ∈ t, e.Sound provider skewSeconds := by
  induction run with
  | nil _ => exact (and_iff_left nofun).symm
  | @cons c next c' e t now later ih =>
    obtain ⟨new, returned, sound, still⟩ := step_proper_iff now held
    rw [List.forall_mem_cons, ← and_assoc, ← sound, ← List.forall_mem_append, ← returned]
    by_cases proper : ∀ outcome ∈ next.returned, outcome.IsProper provider.fallback
    · refine ih (still fun outcome listed => proper outcome ?_)
      rw [returned]
      exact List.mem_append_right _ listed
    · -- nothing is said of the steps that follow, but what was returned stays returned
      have kept : next.returned ⊆ c'.returned :=
        later.invariant (I := fun c => next.returned ⊆ c.returned)
          (fun _ _ _ before step => List.Subset.trans before (step_returned step)) (List.Subset.refl _)
      exact iff_of_false (fun all => proper fun outcome listed => all outcome (kept listed))
        fun all => proper all.1

/-- The same of a cache that starts empty. -/
theorem run_empty_proper_iff {provider : Provider D} {skewSeconds : Nat} {t : List (CacheEvent P D)}
    {c : Cache P} (run : Run (Step provider skewSeconds) empty t c) :
    (∀ outcome ∈ c.returned, outcome.IsProper provider.fallback) ↔
      ∀ e ∈ t, e.Sound provider skewSeconds :=
  (run_proper_iff run .empty).trans (and_iff_right nofun)

end Cache

/-! ## The device code -/

structure DeviceCodeChallenge where
  userCode : String
  verificationUri : String
  message : String
  expiresAt : Datetime
  intervalSeconds : Int
  deviceCode : String

/-- `sleep` and the callback are the caller's. -/
structure EntraDeviceCodeProvider where
  scopes : List String
  sleep : Int → Except Exn Unit
  challengeCallback : Option (DeviceCodeChallenge → Except Exn Unit)

/-- The challenge of a mapping. -/
def challengeOf (members : Members) (now : Clock) : Except Exn DeviceCodeChallenge := do
  let rawExpires ← item members "expires_in"
  let expiresIn ← intOf rawExpires
  let userCode ← item members "user_code"
  let expiresAt ← plusSeconds now expiresIn
  let interval ← intOf (getD members "interval" (.int 5))
  let deviceCode ← item members "device_code"
  let uri := getD members "verification_uri" .null
  .ok {
    userCode := strOf userCode
    verificationUri := strOf (if truthy uri then uri else getD members "verification_url" .null)
    message := strOf (getD members "message" (.str ""))
    expiresAt
    intervalSeconds := max 1 interval
    deviceCode := strOf deviceCode }

/-- `EntraDeviceCodeProvider.start` -/
def start (data : Value) (now : Clock) : Except Exn DeviceCodeChallenge :=
  match data with
  | .dict members =>
    asSchemaError "device-code response schema is invalid" (challengeOf members now)
  | _ => .error (authenticationError "device-code response must be an object")

/-- One turn of the polling loop: the clock at its head, the response, and the clock that a token is
made by. -/
structure Turn where
  now : Clock
  status : Nat
  data : Value
  answered : Clock

/-- How much longer the loop waits before its next turn, if it goes on. -/
def moreSeconds (errorCode : String) : Option Int :=
  if errorCode = "authorization_pending" then some 0
  else if errorCode = "slow_down" then some 5
  else none

/-- What the loop raises for a response that ends it. -/
def pollError (errorCode : String) : Exn :=
  if errorCode = "authorization_declined" ∨ errorCode = "expired_token" then
    authenticationError ("device-code authentication ended: " ++ errorCode)
  else authenticationError ("device-code authentication failed: " ++ errorCode)

/-- A refusal, for which no source gave anything. -/
def refused (now : Clock) (e : Exn) : Outcome := ⟨⟨none, none⟩, now, .error e⟩

/-- `EntraDeviceCodeProvider.poll`, `none` while the loop goes on after the turns. -/
def poll (provider : EntraDeviceCodeProvider) (challenge : DeviceCodeChallenge) :
    Int → List Turn → Option Outcome
  | _, [] => none
  | interval, turn :: turns =>
    if ¬ turn.now.before challenge.expiresAt then
      some (refused turn.now (authenticationError "device-code challenge expired"))
    else if turn.status = 200 then
      some ⟨responseOffer turn.data, turn.answered,
        tokenFromResponse turn.data provider.scopes "entra-device-code" turn.answered⟩
    else
      match turn.data with
      | .dict members =>
        let errorCode := safeOauthErrorCode (getD members "error" .null)
        match moreSeconds errorCode with
        | some more =>
          match provider.sleep (interval + more) with
          | .ok () => poll provider challenge (interval + more) turns
          | .error e => some (refused turn.now e)
        | none => some (refused turn.now (pollError errorCode))
      | _ => some (refused turn.now (authenticationError "device-code polling response is invalid"))

/-- `EntraDeviceCodeProvider.get_token` with the challenge that is kept from a call before, if one is. -/
def deviceToken (provider : EntraDeviceCodeProvider) (kept : Option DeviceCodeChallenge)
    (data : Value) (now : Clock) (turns : List Turn) : Option Outcome :=
  match kept.elim (start data now) .ok with
  | .error e => some (refused now e)
  | .ok challenge =>
    match provider.challengeCallback with
    | none => some (refused now (authenticationError
        "device-code authentication requires a challenge callback"))
    | some callback =>
      match callback challenge with
      | .error e => some (refused now e)
      | .ok () => poll provider challenge challenge.intervalSeconds turns

/-- The answers for which a challenge is made or refused: each number is one or a schema error, and the
expiry is in the calendar. -/
def StartSound (data : Value) (now : Clock) : Prop :=
  ∀ members rawExpires, data = .dict members → members.lookup "expires_in" = some rawExpires →
    match intOf rawExpires with
    | .error e => isSchemaError e = true
    | .ok n => members.lookup "user_code" ≠ none → now.fits n ∧
        ∀ e, intOf (getD members "interval" (.int 5)) = .error e → isSchemaError e = true

/-- The turns for which the outcome is proper: the loop's pauses raise no other exception, and the
response that ends it is sound. -/
def PollSound (provider : EntraDeviceCodeProvider) (challenge : DeviceCodeChallenge) :
    Int → List Turn → Prop
  | _, [] => True
  | interval, turn :: turns => turn.now.before challenge.expiresAt →
    if turn.status = 200 then ResponseSound turn.data provider.scopes turn.answered
    else ∀ members more, turn.data = .dict members →
      moreSeconds (safeOauthErrorCode (getD members "error" .null)) = some more →
        match provider.sleep (interval + more) with
        | .ok () => PollSound provider challenge (interval + more) turns
        | .error e => Refusal e

/-- The inputs for which the outcome of the flow is proper. -/
def DeviceSound (provider : EntraDeviceCodeProvider) (kept : Option DeviceCodeChallenge)
    (data : Value) (now : Clock) (turns : List Turn) : Prop :=
  (kept = none → StartSound data now) ∧
    ∀ challenge callback, kept.elim (start data now) .ok = .ok challenge →
      provider.challengeCallback = some callback →
        match callback challenge with
        | .error e => Refusal e
        | .ok () => PollSound provider challenge challenge.intervalSeconds turns

omit [Library] in
theorem item_some {members : Members} {key : String} {value : Value}
    (found : members.lookup key = some value) : item members key = .ok value := by
  rw [item, found]

omit [Library] in
theorem item_none {members : Members} {key : String} (absent : members.lookup key = none) :
    item members key = .error (keyError key) := by
  rw [item, absent]

/-- What is raised for a challenge's members is a schema error where they are sound. -/
theorem challengeOf_error_iff {members : Members} {now : Clock} :
    (∀ e, challengeOf members now = .error e → isSchemaError e = true) ↔
      StartSound (.dict members) now := by
  have missing : ∀ key, isSchemaError (keyError key) = true := fun _ => rfl
  have one : StartSound (.dict members) now ↔ ∀ rawExpires,
      members.lookup "expires_in" = some rawExpires →
        match intOf rawExpires with
        | .error e => isSchemaError e = true
        | .ok n => members.lookup "user_code" ≠ none → now.fits n ∧
            ∀ e, intOf (getD members "interval" (.int 5)) = .error e → isSchemaError e = true :=
    ⟨fun sound raw found => sound members raw rfl found,
      fun here _ raw same found => by cases same; exact here raw found⟩
  rw [one]
  cases expires : members.lookup "expires_in" with
  | none =>
    refine iff_of_true ?_ nofun
    rw [challengeOf, item_none expires]
    exact fun e raised => Except.error.inj raised ▸ missing _
  | some rawExpires =>
    simp only [Option.some.injEq, forall_eq', challengeOf, item_some expires, ok_bind]
    cases converted : intOf rawExpires with
    | error e => exact ⟨fun all => all e rfl, fun schema _ raised => Except.error.inj raised ▸ schema⟩
    | ok n =>
      dsimp only
      rw [ok_bind]
      cases user : members.lookup "user_code" with
      | none =>
        rw [item_none user]
        exact iff_of_true (fun e raised => Except.error.inj raised ▸ missing _) (absurd rfl)
      | some userCode =>
        rw [item_some user, ok_bind]
        by_cases fits : now.fits n
        · obtain ⟨d, moved, -⟩ := plusSeconds_ok fits
          rw [moved, ok_bind]
          simp only [ne_eq, reduceCtorEq, not_false_eq_true, forall_const, fits, true_and]
          cases interval : intOf (getD members "interval" (.int 5)) with
          | error e =>
            exact forall_congr' fun other => imp_congr_left
              ⟨fun raised => congrArg Except.error (Except.error.inj raised),
                fun same => congrArg Except.error (Except.error.inj same)⟩
          | ok seconds =>
            refine iff_of_true ?_ nofun
            rw [ok_bind]
            cases device : members.lookup "device_code" with
            | none =>
              rw [item_none device]
              exact fun e raised => Except.error.inj raised ▸ missing _
            | some deviceCode =>
              rw [item_some device]
              exact nofun
        · rw [plusSeconds_error fits]
          exact iff_of_false (fun all => absurd (all _ rfl) (by decide))
            fun sound => fits (sound (Option.some_ne_none _)).1

/-- A conversion: what it raises is a schema error if it is a refusal. -/
def Converts {R : Type} (ran : Except Exn R) : Prop :=
  ∀ e, ran = .error e → Refusal e → isSchemaError e = true

omit [Library] in
theorem Converts.bind {R S : Type} {first : Except Exn R} {next : R → Except Exn S}
    (converts : Converts first) (after : ∀ r, Converts (next r)) : Converts (first >>= next) := by
  cases first with
  | error e => exact fun other raised => converts other (congrArg Except.error (Except.error.inj raised))
  | ok r => exact after r

omit [Library] in
theorem converts_item {members : Members} {key : String} : Converts (item members key) := by
  obtain ⟨value, -, found⟩ | absent := @item_cases members key
  · rw [found]
    exact nofun
  · rw [absent]
    exact fun _ raised _ => Except.error.inj raised ▸ rfl

theorem converts_intOf {value : Value} : Converts (intOf value) := by
  intro e raised refusal
  by_contra other
  exact intOf_error raised other refusal

omit [Library] in
theorem converts_plusSeconds {now : Clock} {seconds : Int} : Converts (plusSeconds now seconds) := by
  intro e raised refusal
  rw [plusSeconds] at raised
  split at raised
  · cases raised
  · exact absurd (Except.error.inj raised ▸ refusal) (not_refusal_overflow _)

theorem converts_challengeOf {members : Members} {now : Clock} : Converts (challengeOf members now) :=
  converts_item.bind fun _ => converts_intOf.bind fun _ => converts_item.bind fun _ =>
    converts_plusSeconds.bind fun _ => converts_intOf.bind fun _ => converts_item.bind fun _ => nofun

/-- What is raised for an answer is a refusal where the answer is sound. -/
theorem start_refusal_iff {data : Value} {now : Clock} :
    (∀ e, start data now = .error e → Refusal e) ↔ StartSound data now := by
  cases data with
  | dict members =>
    rw [start, ← challengeOf_error_iff]
    cases made : challengeOf members now with
    | ok challenge => exact iff_of_true nofun nofun
    | error e =>
      change (∀ other, Except.error _ = Except.error other → _) ↔ _
      have one : (∀ other, (Except.error e : Except Exn DeviceCodeChallenge) = .error other →
          isSchemaError other = true) ↔ isSchemaError e = true :=
        ⟨fun all => all e rfl, fun here _ same => Except.error.inj same ▸ here⟩
      rw [one]
      dsimp only
      by_cases schema : isSchemaError e = true
      · rw [if_pos schema]
        exact iff_of_true (fun _ raised => Except.error.inj raised ▸ refusal_authentication _) schema
      · rw [if_neg schema]
        exact iff_of_false (fun all => schema (converts_challengeOf e made (all e rfl))) schema
  | _ => exact iff_of_true (fun e raised => Except.error.inj raised ▸ refusal_authentication _) nofun

omit [Library] in
theorem pollError_refusal (errorCode : String) : Refusal (pollError errorCode) := by
  rw [pollError]
  split_ifs <;> exact refusal_authentication _

theorem poll_proper_iff {provider : EntraDeviceCodeProvider} {challenge : DeviceCodeChallenge}
    {turns : List Turn} : ∀ {interval : Int},
    (∀ outcome, poll provider challenge interval turns = some outcome →
      outcome.IsProper provider.scopes) ↔ PollSound provider challenge interval turns := by
  have refuses : ∀ {now : Clock} {e : Exn}, (∀ outcome, some (refused now e) = some outcome →
      outcome.IsProper provider.scopes) ↔ Refusal e :=
    ⟨fun all => all _ rfl, fun refusal _ same => Option.some.inj same ▸ refusal⟩
  induction turns with
  | nil => exact iff_of_true nofun trivial
  | cons turn turns ih =>
    intro interval
    rw [poll, PollSound]
    by_cases before : turn.now.before challenge.expiresAt
    · rw [if_neg (not_not.mpr before), forall_prop_of_true before]
      by_cases answered : turn.status = 200
      · rw [if_pos answered, if_pos answered]
        refine Iff.trans ?_ (@tokenFromResponse_proper_iff _ _ _ "entra-device-code" _)
        exact ⟨fun all => all _ rfl, fun proper _ same => Option.some.inj same ▸ proper⟩
      · rw [if_neg answered, if_neg answered]
        cases data : turn.data with
        | dict members =>
          dsimp only
          cases code : moreSeconds (safeOauthErrorCode (getD members "error" .null)) with
          | none =>
            refine iff_of_true (refuses.mpr (pollError_refusal _)) fun other more same going => ?_
            cases same
            cases code.symm.trans going
          | some more =>
            have one : (∀ others amount, Value.dict members = .dict others →
                moreSeconds (safeOauthErrorCode (getD others "error" .null)) = some amount →
                match provider.sleep (interval + amount) with
                | .ok () => PollSound provider challenge (interval + amount) turns
                | .error e => Refusal e) ↔
                match provider.sleep (interval + more) with
                | .ok () => PollSound provider challenge (interval + more) turns
                | .error e => Refusal e := by
              refine ⟨fun all => all members more rfl code, fun here others amount same going => ?_⟩
              cases same
              cases code.symm.trans going
              exact here
            rw [one]
            dsimp only
            cases provider.sleep (interval + more) with
            | ok _ => exact ih
            | error e => exact refuses
        | _ => exact iff_of_true (refuses.mpr (refusal_authentication _)) nofun
    · rw [if_pos before]
      exact iff_of_true (refuses.mpr (refusal_authentication _)) fun early => absurd early before

/-- For which inputs the outcome of the flow is proper. -/
theorem deviceToken_proper_iff {provider : EntraDeviceCodeProvider} {kept : Option DeviceCodeChallenge}
    {data : Value} {now : Clock} {turns : List Turn} :
    (∀ outcome, deviceToken provider kept data now turns = some outcome →
      outcome.IsProper provider.scopes) ↔ DeviceSound provider kept data now turns := by
  have refuses : ∀ {e : Exn}, (∀ outcome, some (refused now e) = some outcome →
      outcome.IsProper provider.scopes) ↔ Refusal e :=
    ⟨fun all => all _ rfl, fun refusal _ same => Option.some.inj same ▸ refusal⟩
  have started : (kept = none → StartSound data now) ↔
      ∀ e, kept.elim (start data now) .ok = .error e → Refusal e := by
    cases kept with
    | none => exact (forall_prop_of_true rfl).trans start_refusal_iff.symm
    | some challenge => exact iff_of_true nofun nofun
  rw [DeviceSound, started, deviceToken]
  cases kept.elim (start data now) .ok with
  | error e =>
    refine refuses.trans ⟨fun refusal => ⟨fun _ same => Except.error.inj same ▸ refusal, nofun⟩, ?_⟩
    exact fun sound => sound.1 e rfl
  | ok challenge =>
    rw [and_iff_right nofun]
    dsimp only
    cases provider.challengeCallback with
    | none => exact iff_of_true (refuses.mpr (refusal_authentication _)) nofun
    | some callback =>
      have one : ∀ {Q : DeviceCodeChallenge → (DeviceCodeChallenge → Except Exn Unit) → Prop},
          (∀ other back, (Except.ok challenge : Except Exn DeviceCodeChallenge) = .ok other →
            some callback = some back → Q other back) ↔ Q challenge callback :=
        ⟨fun all => all _ _ rfl rfl, fun here _ _ same same' =>
          Except.ok.inj same ▸ Option.some.inj same' ▸ here⟩
      rw [one]
      dsimp only
      cases callback challenge with
      | error e => exact refuses
      | ok _ => exact poll_proper_iff

/-- The loop ends when the clock reaches the challenge's expiry. -/
theorem poll_returns {provider : EntraDeviceCodeProvider} {challenge : DeviceCodeChallenge}
    {turns : List Turn} (reached : ∃ turn ∈ turns, ¬ turn.now.before challenge.expiresAt) :
    ∀ interval, (poll provider challenge interval turns).isSome = true := by
  induction turns with
  | nil =>
    obtain ⟨turn, listed, -⟩ := reached
    cases listed
  | cons turn turns ih =>
    intro interval
    rw [poll]
    by_cases before : turn.now.before challenge.expiresAt
    · rw [if_neg (not_not.mpr before)]
      have later : ∃ turn ∈ turns, ¬ turn.now.before challenge.expiresAt := by
        obtain ⟨other, listed, late⟩ := reached
        rcases List.mem_cons.mp listed with rfl | later
        · exact absurd before late
        · exact ⟨other, later, late⟩
      by_cases answered : turn.status = 200
      · rw [if_pos answered]
        rfl
      · rw [if_neg answered]
        cases turn.data with
        | dict members =>
          dsimp only
          split
          · split
            · exact ih later _
            · rfl
          · rfl
        | _ => rfl
    · rw [if_pos before]
      rfl

/-! ## All the providers -/

/-- For each provider that a connector can be given, and for the device-code flow, the outcomes are
proper exactly where the inputs are sound; the flow ends when its challenge has expired; and a token
file that was written for an unexpired token is read back. -/
theorem access_tokens :
    (∀ installed : InstalledProvider, match installed with
      | .entra scopes => ∀ (P : Type) [DecidableEq P] (skewSeconds : Nat) (t : List (CacheEvent P Value))
          (c : Cache P), Run (Cache.Step (entraClientCredentials scopes) skewSeconds) .empty t c →
          ((∀ outcome ∈ c.returned, outcome.IsProper scopes) ↔
            ∀ e ∈ t, e.Sound (entraClientCredentials scopes) skewSeconds)
      | .reddit scopes => ∀ (P : Type) [DecidableEq P] (skewSeconds : Nat) (t : List (CacheEvent P Value))
          (c : Cache P), Run (Cache.Step (redditRefreshToken scopes) skewSeconds) .empty t c →
          ((∀ outcome ∈ c.returned, outcome.IsProper []) ↔
            ∀ e ∈ t, e.Sound (redditRefreshToken scopes) skewSeconds)
      | .tokenFile name => ∀ payload now,
          Proper (payloadOffer payload) [] now (fileToken name payload now) ↔ FileSound payload now
      | .environment provider => ∀ environ now,
          Proper (environmentOffer provider environ) provider.scopes now
            (environmentToken provider environ now) ↔ EnvironmentSound provider environ now) ∧
    (∀ provider kept data now turns,
      (∀ outcome, deviceToken provider kept data now turns = some outcome →
        outcome.IsProper provider.scopes) ↔ DeviceSound provider kept data now turns) ∧
    (∀ provider challenge turns, (∃ turn ∈ turns, ¬ turn.now.before challenge.expiresAt) →
      ∀ interval, (poll provider challenge interval turns).isSome = true) ∧
    (∀ name token payload now, tokenFileBytes token = .ok payload → now.before token.expiresAt →
      ∃ back, fileToken name payload now = .ok back ∧ back.value = token.value ∧
        back.expiresAt = token.expiresAt ∧ back.scopes = token.scopes ∧
        back.tokenType = token.tokenType) := by
  refine ⟨fun installed => ?_, fun _ _ _ _ _ => deviceToken_proper_iff, fun _ _ _ => poll_returns, ?_⟩
  · cases installed with
    | entra scopes => exact fun P _ _ _ _ => Cache.run_empty_proper_iff
    | reddit scopes => exact fun P _ _ _ _ => Cache.run_empty_proper_iff
    | tokenFile name => exact fun _ _ => fileToken_proper_iff
    | environment provider => exact fun _ _ => environmentToken_proper_iff
  · intro name token payload now written fresh
    exact ⟨_, written_token_read written fresh, rfl, rfl, rfl, rfl⟩

end MasterAgent.Credentials.Tokens

namespace MasterAgent.Credentials.Tokens.Samples
open Base

/-- `json.loads` of flat documents. -/
def loads (text : String) : Except Exn Value :=
  match Json.loads (Json.dictReader fun _ => none) text with
  | some (.obj fields) =>
    match flatMembers fields with
    | some members => .ok (.dict members)
    | none => .error (valueError "not a flat document")
  | _ => .error ⟨.valueError, "JSONDecodeError", "Expecting value"⟩

/-- The library on ASCII texts. -/
@[reducible]
def asciiLibrary : Library where
  intOfText := String.toInt?
  reprOf _ := "[...]"
  lower text := String.ofList (text.toList.map Char.toLower)
  lower_bearer := by decide
  isalnum := Char.isAlphanum
  fromisoformat := Datetime.fromIsoformat
  fromisoformat_isoformat := Datetime.fromIsoformat_isoformat
  loads := loads
  loads_flat text fields members read flat := by rw [loads, read]; dsimp only; rw [flat]

attribute [local instance] asciiLibrary

def noon : Clock := ⟨⟨2026, 1, 2, 12, 0, 0, 0, some 0, by decide⟩, rfl⟩

def evening : Datetime := ⟨2026, 1, 2, 18, 0, 0, 0, some 0, by decide⟩

/-- An answer whose token is `null`. -/
def nullToken : Value := .dict [("access_token", .null)]

def issued : AccessToken where
  value := "abc"
  expiresAt := evening
  scopes := ["read", "write"]
  tokenType := "Bearer"
  source := "entra-device-code"
  nonempty := by decide
  aware := by decide
  bearer := by decide

/-- One thread that finds the cache empty. -/
def firstCall (answer : Value) : List (CacheEvent Unit Value) :=
  [.call (), .pass (), .acquire (), .pass (), .ask () answer noon]

theorem firstCall_runs (provider : Provider Value) (answer : Value) :
    ∃ c, Run (Cache.Step provider 120) .empty (firstCall answer) c ∧
      ⟨provider.offer answer, noon, provider.acquire answer noon⟩ ∈ c.returned := by
  have pass (locked : Bool) {c : Cache Unit} (seen : c.phase () = .seen locked none) :
      Cache.Step provider 120 c (.pass ()) (c.goOn () locked) := .pass seen
  refine ⟨_, .cons (.call rfl) (.cons (pass false rfl) (.cons (.acquire rfl rfl)
    (.cons (pass true rfl) (.cons (.ask rfl) (.nil _))))), ?_⟩
  rw [Cache.asked]
  cases provider.acquire answer noon with
  | error e => exact List.mem_append_right _ List.mem_cons_self
  | ok token => exact List.mem_append_right _ List.mem_cons_self

/-- A text as the token, and no lifetime that leaves the calendar. -/
def plainToken : Value := .dict [("access_token", .str "abc"), ("expires_in", .int 60)]

def challenge : DeviceCodeChallenge := ⟨"CODE", "https://microsoft.com/devicelogin", "", noon.1, 5, "device"⟩

def interactive : EntraDeviceCodeProvider := ⟨["read"], fun _ => .ok (), some fun _ => .ok ()⟩

theorem issued_fits : (utf8 issued.fileText).length ≤ MAX_TOKEN_FILE_BYTES := by decide +kernel

theorem issued_written : tokenFileBytes issued = .ok (utf8 issued.fileText) :=
  if_neg (not_lt.mpr issued_fits)

theorem issued_fresh : noon.before issued.expiresAt := by decide +kernel

theorem first_call_and_file :
    (∃ c, Run (Cache.Step (entraClientCredentials ["read"]) 120) .empty (firstCall plainToken) c ∧
      ((∀ outcome ∈ c.returned, outcome.IsProper ["read"]) ↔
        ∀ e ∈ firstCall plainToken, e.Sound (entraClientCredentials ["read"]) 120)) ∧
    (∃ c, Run (Cache.Step (redditRefreshToken ["read"]) 120) .empty (firstCall plainToken) c ∧
      ((∀ outcome ∈ c.returned, outcome.IsProper []) ↔
        ∀ e ∈ firstCall plainToken, e.Sound (redditRefreshToken ["read"]) 120)) ∧
    (poll interactive challenge 5 [⟨noon, 400, .null, noon⟩]).isSome = true ∧
    ∃ back, fileToken "token.json" (utf8 issued.fileText) noon = .ok back ∧ back.value = "abc" ∧
      back.expiresAt = evening ∧ back.scopes = ["read", "write"] ∧ back.tokenType = "Bearer" := by
  obtain ⟨installed, -, returns, readBack⟩ := access_tokens
  obtain ⟨c, entra, -⟩ := firstCall_runs (entraClientCredentials ["read"]) plainToken
  obtain ⟨d, reddit, -⟩ := firstCall_runs (redditRefreshToken ["read"]) plainToken
  refine ⟨⟨c, entra, installed (.entra ["read"]) Unit 120 _ c entra⟩,
    ⟨d, reddit, installed (.reddit ["read"]) Unit 120 _ d reddit⟩, ?_, ?_⟩
  · exact returns interactive challenge _ ⟨_, List.mem_cons_self, by decide +kernel⟩ 5
  · exact readBack "token.json" issued _ noon issued_written issued_fresh

/-- A token that is `null` is given out as the text `None`, with the configured scopes. -/
theorem null_given_out :
    ∃ c, Run (Cache.Step (entraClientCredentials ["read"]) 120) .empty (firstCall nullToken) c ∧
      ∃ outcome ∈ c.returned, ¬ outcome.IsProper ["read"] ∧
        ∃ token, outcome.result = .ok token ∧ token.value = "None" ∧ token.scopes = ["read"] := by
  obtain ⟨c, run, returned⟩ := firstCall_runs (entraClientCredentials ["read"]) nullToken
  refine ⟨c, run, _, returned, fun proper => ?_, ?_⟩
  · have sound := ((entraClientCredentials ["read"]).proper_iff nullToken noon).mp proper
    have text := (sound _ rfl rfl .null rfl).2 (by decide) (by decide)
    cases text.1
  · obtain ⟨d, moved, utc, -⟩ := @plusSeconds_ok noon 3600 (by decide +kernel)
    have made : tokenFromResponse nullToken ["read"] "entra-client-credentials" noon =
        AccessToken.make "None" d ["read"] "Bearer" "entra-client-credentials" := by
      rw [nullToken, tokenFromResponse, if_neg (by decide),
        @tokenOfMembers_eq _ _ _ _ _ .null 3600 rfl rfl, show max 1 3600 = (3600 : Int) from rfl, moved,
        ok_bind]
      rfl
    have aware : d.offset ≠ none := by rw [utc]; exact Option.some_ne_none 0
    rw [AccessToken.make, dif_neg (by decide), dif_neg aware, dif_pos (by decide)] at made
    exact ⟨_, made, rfl, rfl⟩

end MasterAgent.Credentials.Tokens.Samples
