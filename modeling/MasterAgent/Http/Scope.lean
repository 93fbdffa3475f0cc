import MasterAgent.Models.Checks

/-!
# URL scope of the HTTP client

`SafeHttpClient`: its construction, and how it resolves a URL inside its origin and base path. The
functions of `urllib.parse` are parameters.

Results:

1. `decodePath_fixed`: an accepted path is fully decoded and has no dot segment;
2. `of_urlWithinScope`: what lies within a scope.
-/

namespace MasterAgent.Http
open Base

/-! ## Library -/

/-- A `ParseResult` with its properties; reading the port may raise. -/
structure ParsedUrl where
  scheme : String
  netloc : String
  path : String
  params : String
  query : String
  fragment : String
  username : Option String
  password : Option String
  hostname : Option String
  port : Except Exn (Option Nat)

class UrlLibrary where
  urlparse : String → Except Exn ParsedUrl
  unquote : String → String
  urljoin : String → String → Except Exn String
  /-- `urlencode(items, doseq=True)` -/
  urlencode : List (String × Json) → String
  /-- `parsed._replace(query="", fragment="").geturl()` -/
  withoutQuery : ParsedUrl → String
  /-- `str.lower` -/
  lower : String → String
  /-- `str.upper` -/
  upper : String → String

/-- The truth of an optional text. -/
def truthy (text : Option String) : Bool := text.any fun s => s != ""

section
variable [UrlLibrary]
open UrlLibrary

/-! ## Origins and paths -/

abbrev Origin := String × String × Nat

/-- `_origin` -/
def originOf (parsed : ParsedUrl) : Except Exn Origin := do
  let scheme := lower parsed.scheme
  let hostname := lower (parsed.hostname.getD "")
  if scheme = "" ∨ hostname = "" then
    .error (configurationError "URL must include a scheme and hostname")
  else do
    let port ← parsed.port
    let standard := if scheme = "https" then 443 else 80
    -- a port of zero counts as no port
    .ok (scheme, hostname, if port.getD 0 = 0 then standard else port.getD 0)

/-- The origin, or `None` where `_origin` raises one of the errors it is tried for. -/
def originOrNone (parsed : ParsedUrl) : Except Exn (Option Origin) :=
  match originOf parsed with
  | .ok origin => .ok (some origin)
  | .error raised =>
      if raised.kind = .configuration ∨ raised.kind.isValueError then .ok none else .error raised

/-- `segment.partition(";")[0] in {".", ".."}` of some segment, or a backslash. -/
def traversalShaped (candidate : String) : Bool :=
  candidate.toList.contains '\\' ||
    (candidate.toList.splitOn '/').any fun segment =>
      let bare := segment.takeWhile (· != ';')
      bare == ['.'] || bare == ['.', '.']

/-- `path.rstrip("/") or "/"` -/
def withoutSlash (path : String) : String :=
  let trimmed := String.ofList (path.toList.reverse.dropWhile (· == '/')).reverse
  if trimmed = "" then "/" else trimmed

def decodePath : Nat → String → Option String
  | 0, _ => none
  | rounds + 1, candidate =>
      if traversalShaped candidate then none
      else if unquote candidate = candidate then some (withoutSlash candidate)
      else decodePath rounds (unquote candidate)

/-- `_decoded_safe_path` -/
def decodedSafePath (path : String) : Option String :=
  decodePath 8 (if path = "" then "/" else path)

/-- The candidate path is the scope's or below it, at a segment boundary. -/
def underPath (path candidate : String) : Bool :=
  path == "/" || candidate == path || (path.toList ++ ['/']).isPrefixOf candidate.toList

/-- `_url_within_scope` -/
def urlWithinScope (url : String) (origin : Origin) (path : String) : Except Exn Bool := do
  let parsed ← urlparse url
  match ← originOrNone parsed with
  | none => .ok false
  | some candidateOrigin =>
      match decodedSafePath parsed.path with
      | none => .ok false
      | some candidatePath =>
          .ok (candidateOrigin == origin && !truthy parsed.username && !truthy parsed.password &&
            parsed.fragment == "" && underPath path candidatePath)

/-! ## Clients -/

structure SafeHttpClient where
  baseUrl : String
  origin : Origin
  scopePath : String
  maxResponseBytes : Int
  retryAttempts : Nat
  allowedMethods : List String
deriving DecidableEq

/-- `SafeHttpClient(…)` -/
def SafeHttpClient.new (baseUrl : String) (maxResponseBytes retryAttempts : Int)
    (allowedMethods : List String) : Except Exn SafeHttpClient := do
  let based := (if withoutSlash baseUrl = "/" then "" else withoutSlash baseUrl) ++ "/"
  let parsed ← urlparse based
  if parsed.scheme ≠ "https" ∨ truthy parsed.hostname = false then
    .error (configurationError "connector HTTP clients require an HTTPS base URL")
  else if truthy parsed.username ∨ truthy parsed.password then
    .error (configurationError "connector base URL must not include credentials")
  else if baseUrl.toList.contains '?' ∨ baseUrl.toList.contains '#' then
    .error (configurationError "connector base URL must not include a query or fragment")
  else do
    let origin ← originOf parsed
    match decodedSafePath parsed.path with
    | none => .error (configurationError "connector base URL contains an unsafe path")
    | some scopePath =>
        if allowedMethods = [] then
          .error (configurationError "allowed_methods must not be empty")
        else .ok ⟨based, origin, scopePath, maxResponseBytes, retryAttempts.toNat,
            (allowedMethods.map upper).dedup⟩

/-- `_query_items` -/
def queryItems (query : List (String × Json)) : List (String × Json) :=
  query.flatMap fun (key, value) =>
    match value with
    | .null => []
    | .arr items => items.map fun item => (key, item)
    | value => [(key, value)]

/-- `resolve_url` -/
def SafeHttpClient.resolveUrl (client : SafeHttpClient) (pathOrUrl : String)
    (query : List (String × Json)) : Except Exn String := do
  let candidate := strip pathOrUrl
  if candidate = "" then .error (connectorError "request path must not be empty")
  else do
    let parsedCandidate ← urlparse candidate
    if parsedCandidate.netloc ≠ "" ∧ parsedCandidate.scheme = "" then
      .error (connectorError "unsafe URL rejected by connector HTTP policy")
    else if decodedSafePath parsedCandidate.path = none then
      .error (connectorError "unsafe URL path rejected by connector HTTP policy")
    else do
      let url ← if parsedCandidate.scheme ≠ "" then .ok candidate
        else urljoin client.baseUrl (String.ofList (candidate.toList.dropWhile (· == '/')))
      let parsed ← urlparse url
      let candidateOrigin ← originOrNone parsed
      if candidateOrigin ≠ some client.origin then
        .error (connectorError
          "connector attempted to access a URL outside its configured origin")
      else do
        let within ← urlWithinScope url client.origin client.scopePath
        if within = false then
          .error (connectorError
            "connector attempted to access a URL outside its configured URL scope")
        else if truthy parsed.username ∨ truthy parsed.password ∨ parsed.fragment ≠ "" then
          .error (connectorError "unsafe URL rejected by connector HTTP policy")
        else if query = [] then .ok url
        else
          let separator := if parsed.query = "" then "?" else "&"
          .ok (url ++ separator ++ urlencode (queryItems query))

/-! ## What is accepted -/

/-- An accepted path is the end of its decoding: no text on the way has a dot segment. -/
theorem decodePath_fixed {rounds : Nat} {candidate path : String}
    (accepted : decodePath rounds candidate = some path) :
    traversalShaped candidate = false ∧ ∃ n, unquote (unquote^[n] candidate) = unquote^[n] candidate ∧
      path = withoutSlash (unquote^[n] candidate) ∧
      ∀ m ≤ n, traversalShaped (unquote^[m] candidate) = false := by
  induction rounds generalizing candidate with
  | zero => cases accepted
  | succ rounds ih =>
      unfold decodePath at accepted
      split at accepted
      · cases accepted
      next safe =>
      have plain : traversalShaped candidate = false := Bool.eq_false_iff.mpr safe
      split at accepted
      · next fixed =>
          refine ⟨plain, 0, fixed, (Option.some.inj accepted).symm, ?_⟩
          intro m small
          obtain rfl := Nat.le_zero.mp small
          exact plain
      · obtain ⟨-, n, fixed, path, below⟩ := ih accepted
        refine ⟨plain, n + 1, fixed, path, ?_⟩
        intro m small
        cases m with
        | zero => exact plain
        | succ m => exact below m (Nat.le_of_succ_le_succ small)

/-- A URL within a scope has its origin, and no user information or fragment. -/
theorem of_urlWithinScope {url path : String} {origin : Origin}
    (within : urlWithinScope url origin path = .ok true) :
    ∃ parsed candidate, urlparse url = .ok parsed ∧ originOrNone parsed = .ok (some origin) ∧
      decodedSafePath parsed.path = some candidate ∧ underPath path candidate = true ∧
      truthy parsed.username = false ∧ truthy parsed.password = false ∧ parsed.fragment = "" := by
  obtain ⟨parsed, parses, within⟩ := of_bind_ok within
  obtain ⟨found, tried, within⟩ := of_bind_ok within
  cases found with
  | none => cases within
  | some candidateOrigin =>
  cases decoded : decodedSafePath parsed.path with
  | none =>
      rw [decoded] at within
      cases within
  | some candidate =>
  rw [decoded] at within
  have holds := Except.ok.inj within
  simp only [Bool.and_eq_true, Bool.not_eq_true', beq_iff_eq] at holds
  obtain ⟨⟨⟨⟨rfl, username⟩, password⟩, fragment⟩, under⟩ := holds
  exact ⟨parsed, candidate, parses, tried, decoded, under, username, password, fragment⟩

end

end MasterAgent.Http
