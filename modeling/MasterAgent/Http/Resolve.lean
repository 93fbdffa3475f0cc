import MasterAgent.Base.Urls
import MasterAgent.Http.Scope

/-!
# Resolved URLs

`resolve_url` over `urllib.parse`: what a returned URL is when it is parsed again.

Results:

1. `resolve_facts`: the URL before the query is appended;
2. `resolve_url_scoped`: exactly when a returned URL is the candidate within the scope.
-/

namespace MasterAgent.Http
open Base Base.Urls

/-! ## The library -/

/-- What the parsing takes from the Unicode database, from `ipaddress` and from `str`. -/
class Foreign extends NetlocChecks where
  unquote : String → String
  /-- `str.lower` of a text that is not ASCII. -/
  lowered : String → String
  /-- `str.upper` -/
  upper : String → String
  /-- `str(value)` of a value that is no text. -/
  shown : Json → String

def ascii (text : List Char) : Bool := text.all (·.toNat < 128)

/-- `str.lower` -/
def strLower [Foreign] (text : String) : String :=
  if ascii text.toList then String.ofList (text.toList.map (·.toLower)) else Foreign.lowered text

/-- `netloc.rpartition("@")[2]` -/
def hostinfo (netloc : List Char) : List Char := (netloc.reverse.takeWhile (· != '@')).reverse

/-- `_userinfo` -/
def userinfo (netloc : List Char) : Option (List Char) × Option (List Char) :=
  if netloc.contains '@' then
    let info := (netloc.reverse.dropWhile (· != '@')).tail.reverse
    (some (before ':' info), if info.contains ':' then some (after ':' info) else none)
  else (none, none)

/-- `_hostinfo`, with no port as the empty one. -/
def hostPort (netloc : List Char) : List Char × List Char :=
  let info := hostinfo netloc
  if info.contains '[' then
    let bracketed := after '[' info
    (before ']' bracketed, after ':' (after ']' bracketed))
  else (before ':' info, after ':' info)

def hostnameOf [Foreign] (netloc : List Char) : Option String :=
  let host := (hostPort netloc).1
  if host = [] then none
  else some (strLower (String.ofList (before '%' host)) ++
    String.ofList (if host.contains '%' then '%' :: after '%' host else []))

def portOf (netloc : List Char) : Except Exn (Option Nat) :=
  let port := (hostPort netloc).2
  if port = [] then .ok none
  else if port.all Char.isDigit then
    let value := Nat.ofDigitChars 10 port 0
    if value ≤ 65535 then .ok (some value)
    else .error (valueError "Port out of range 0-65535")
  else .error (valueError "Port could not be cast to integer value")

def ofParts [Foreign] (parts : Parts) : ParsedUrl where
  scheme := String.ofList parts.scheme
  netloc := String.ofList parts.netloc
  path := String.ofList parts.path
  params := String.ofList parts.params
  query := String.ofList parts.query
  fragment := String.ofList parts.fragment
  username := (userinfo parts.netloc).1.map String.ofList
  password := (userinfo parts.netloc).2.map String.ofList
  hostname := hostnameOf parts.netloc
  port := portOf parts.netloc

/-- `str(value)` -/
def strOf [Foreign] : Json → String
  | .str text => text
  | value => Foreign.shown value

/-- The texts `urlencode(…, doseq=True)` writes for a value. -/
def encodedValues [Foreign] : Json → List String
  | .str text => [text]
  | .arr items => items.map strOf
  | .obj fields => fields.map Prod.fst
  | value => [strOf value]

/-- `urllib.parse`; the texts of its errors are not kept. -/
instance [Foreign] : UrlLibrary where
  urlparse url := match Urls.urlparse [] url.toList with
    | some parts => .ok (ofParts parts)
    | none => .error (valueError "Invalid URL")
  unquote := Foreign.unquote
  urljoin base url := match Urls.urljoin base.toList url.toList with
    | some joined => .ok (String.ofList joined)
    | none => .error (valueError "Invalid URL")
  urlencode items := String.ofList (Urls.urlencode
    (items.flatMap fun item => (encodedValues item.2).map fun text => (item.1, text)))
  withoutQuery parsed := String.ofList (urlunparse ⟨parsed.scheme.toList, parsed.netloc.toList,
    parsed.path.toList, parsed.params.toList, [], []⟩)
  lower := strLower
  upper := Foreign.upper

section
variable [Foreign]

theorem of_urlparse_ok {url : String} {parsed : ParsedUrl}
    (parses : UrlLibrary.urlparse url = .ok parsed) :
    ∃ parts, Urls.urlparse [] url.toList = some parts ∧ parsed = ofParts parts := by
  simp only [UrlLibrary.urlparse] at parses
  split at parses
  · next parts found => exact ⟨parts, found, (Except.ok.inj parses).symm⟩
  · cases parses

theorem urlparse_ok {url : String} {parts : Parts}
    (found : Urls.urlparse [] url.toList = some parts) :
    UrlLibrary.urlparse url = .ok (ofParts parts) := by
  simp only [UrlLibrary.urlparse, found]

omit [Foreign] in
theorem ofList_eq_empty {text : List Char} : String.ofList text = "" ↔ text = [] := by
  rw [show "" = String.ofList [] from rfl, String.ofList_inj]

omit [Foreign] in
/-- A location without user information is one without an at sign. -/
theorem no_username (netloc : List Char) : (userinfo netloc).1 = none ↔ '@' ∉ netloc := by
  unfold userinfo
  split
  · next held => simpa using held
  · next absent => simpa using absent

omit [Foreign] in
theorem no_password {netloc : List Char} (absent : '@' ∉ netloc) : (userinfo netloc).2 = none := by
  unfold userinfo
  rw [if_neg (by simpa using absent)]

/-! ## What a returned URL should be -/

/-- The query of the candidate and the encoding of what is supplied. -/
def expectedQuery (candidateQuery : String) (query : List (String × Json)) : String :=
  if query = [] then candidateQuery
  else if candidateQuery = "" then UrlLibrary.urlencode (queryItems query)
  else candidateQuery ++ "&" ++ UrlLibrary.urlencode (queryItems query)

/-- The path that is decoded: that of the URL, or the root. -/
def decodedFrom (parsed : ParsedUrl) : String := if parsed.path = "" then "/" else parsed.path

/-- The URL, parsed again, stays in the client's scope and keeps the query. -/
structure Scoped (client : SafeHttpClient) (candidate : String) (query : List (String × Json))
    (parsed : ParsedUrl) : Prop where
  scheme : parsed.scheme = client.origin.1
  host : UrlLibrary.lower (parsed.hostname.getD "") = client.origin.2.1
  port : ∃ port, parsed.port = .ok port ∧ port.getD 443 = client.origin.2.2
  userinfo : parsed.username = none ∧ parsed.password = none
  fragment : parsed.fragment = ""
  segments : ∀ n, traversalShaped (UrlLibrary.unquote^[n] (decodedFrom parsed)) = false
  below : ∃ n, UrlLibrary.unquote (UrlLibrary.unquote^[n] (decodedFrom parsed)) =
      UrlLibrary.unquote^[n] (decodedFrom parsed) ∧
    underPath client.scopePath (UrlLibrary.unquote^[n] (decodedFrom parsed)) = true
  query : ∃ original, UrlLibrary.urlparse (strip candidate) = .ok original ∧
    parsed.query = expectedQuery original.query query

/-- The candidate names its scheme. -/
def absolute (candidate : String) : Bool :=
  (splitScheme [] (cleaned (strip candidate).toList)).1 != []

/-- The candidate as it is joined: without its leading slashes where it is relative. -/
def referenceOf (candidate : String) : List Char :=
  if absolute candidate then (strip candidate).toList
  else (strip candidate).toList.dropWhile (· == '/')

/-- The network location a text names. -/
def netlocOf (text : List Char) : List Char :=
  (splitNetloc (splitScheme [] (cleaned text)).2).1

/-- The location the candidate names, or else that of the base URL. -/
def authorityOf (client : SafeHttpClient) (candidate : String) : List Char :=
  if netlocOf (referenceOf candidate) = [] then netlocOf client.baseUrl.toList
  else netlocOf (referenceOf candidate)

/-- No at sign and no port zero in the location, and, where a query is appended to an absolute
candidate, no hash and no question mark without a query behind it. -/
structure Settled (client : SafeHttpClient) (candidate : String) (query : List (String × Json)) :
    Prop where
  userinfo : '@' ∉ authorityOf client candidate
  port : portOf (authorityOf client candidate) ≠ .ok (some 0)
  query : query ≠ [] → absolute candidate = true →
    '#' ∉ (strip candidate).toList ∧
      (queryOf (cleaned (strip candidate).toList) = [] → '?' ∉ (strip candidate).toList)

/-! ## The base URL -/

omit [Foreign] in
theorem mem_withoutSlash {path : String} {c : Char} (held : c ∈ (withoutSlash path).toList) :
    c = '/' ∨ c ∈ path.toList := by
  unfold withoutSlash at held
  simp only at held
  split at held
  · exact .inl (by simpa using held)
  · rw [String.toList_ofList, List.mem_reverse] at held
    exact .inr (List.mem_reverse.mp ((List.dropWhile_suffix _).subset held))

omit [Foreign] in
theorem withoutSlash_ne (path : String) : withoutSlash path ≠ "" := by
  unfold withoutSlash
  simp only
  split
  · decide
  · assumption

omit [Foreign] in
theorem decodePath_ne [UrlLibrary] {rounds : Nat} {candidate path : String}
    (accepted : decodePath rounds candidate = some path) : path ≠ "" := by
  obtain ⟨-, n, -, rfl, -⟩ := decodePath_fixed accepted
  exact withoutSlash_ne _

omit [Foreign] in
theorem splitScheme_rest (default text : List Char) :
    (splitScheme default text).2 = (splitScheme [] text).2 := by
  unfold splitScheme
  split <;> rfl

omit [Foreign] in
theorem splitScheme_explicit {default text : List Char} (explicit : (splitScheme [] text).1 ≠ []) :
    (splitScheme default text).1 = (splitScheme [] text).1 := by
  unfold splitScheme at explicit ⊢
  split
  · rfl
  · next none_ =>
      rw [if_neg none_] at explicit
      exact absurd rfl explicit

theorem netloc_of_urlparse {default url : List Char} {parts : Parts}
    (parses : Urls.urlparse default url = some parts) : parts.netloc = netlocOf url := by
  obtain ⟨-, shape⟩ := of_urlparse parses
  rw [shape, (withParams_same _).2.1]
  exact congrArg (fun rest => (splitNetloc rest).1) (splitScheme_rest default (cleaned url))

theorem scheme_of_urlparse {default url : List Char} {parts : Parts}
    (parses : Urls.urlparse default url = some parts) :
    parts.scheme = (splitScheme default (cleaned url)).1 := by
  obtain ⟨-, shape⟩ := of_urlparse parses
  rw [shape, (withParams_same _).1]

omit [Foreign] in
theorem mem_cleaned {text : List Char} {c : Char} (held : c ∈ cleaned text) : c ∈ text :=
  (List.dropWhile_suffix _).subset (List.mem_filter.mp held).1

theorem strLower_of_ascii (text : List Char) (all : ascii text = true)
    (lower : text.map (·.toLower) = text) :
    strLower (String.ofList text) = String.ofList text := by
  unfold strLower
  rw [String.toList_ofList, if_pos all, lower]

theorem strLower_https : strLower "https" = "https" :=
  strLower_of_ascii "https".toList (by decide) (by decide)

omit [Foreign] in
theorem schemeChar_ascii {c : Char} (scheme : schemeChar c = true) : c.toNat < 128 := by
  have within {low high : UInt32} (small : high.toNat < 128)
      (between : (decide (c.val ≥ low) && decide (c.val ≤ high)) = true) : c.toNat < 128 :=
    lt_of_le_of_lt (of_decide_eq_true (Bool.and_eq_true_iff.mp between).2 : c.val ≤ high) small
  have capital (upper : c.isUpper = true) : c.val ≥ 'A'.val ∧ c.val ≤ 'Z'.val := of_decide_eq_true upper
  simp only [schemeChar, Bool.or_eq_true, beq_iff_eq] at scheme
  rcases scheme with ((alphanumeric | rfl) | rfl) | rfl
  · rcases Bool.or_eq_true_iff.mp alphanumeric with alpha | digit
    · rcases Bool.or_eq_true_iff.mp alpha with upper | lower
      · exact lt_of_le_of_lt (capital upper).2 (by decide)
      · exact within (by decide) lower
    · exact within (by decide) digit
  all_goals decide

omit [Foreign] in
theorem toLower_ascii : ∀ n < 128, (Char.ofNat n).toLower.toNat < 128 ∧
    (Char.ofNat n).toLower.toLower = (Char.ofNat n).toLower := by
  decide +kernel

/-- A parsed scheme is in lower case. -/
theorem scheme_lower {url : List Char} {parts : Parts}
    (parses : Urls.urlparse [] url = some parts) :
    strLower (String.ofList parts.scheme) = String.ofList parts.scheme := by
  rw [scheme_of_urlparse parses]
  unfold splitScheme
  split
  · next scheme =>
      simp only [hasScheme, Bool.and_eq_true, List.all_eq_true] at scheme
      have small : ∀ c ∈ before ':' (cleaned url), c.toLower.toNat < 128 ∧
          c.toLower.toLower = c.toLower := by
        intro c held
        have both := toLower_ascii c.toNat (schemeChar_ascii (scheme.2 c held))
        rwa [Char.ofNat_toNat] at both
      refine strLower_of_ascii _ ?_ ?_
      · unfold ascii
        rw [List.all_map, List.all_eq_true]
        intro c held
        simpa using (small c held).1
      · rw [List.map_map]
        exact List.map_congr_left fun c held => (small c held).2
  · exact strLower_of_ascii [] rfl rfl

theorem of_originOf {parsed : ParsedUrl} {origin : Origin} (found : originOf parsed = .ok origin) :
    origin.1 = strLower parsed.scheme ∧ origin.2.1 = strLower (parsed.hostname.getD "") ∧
      strLower (parsed.hostname.getD "") ≠ "" ∧
      ∃ port, parsed.port = .ok port ∧ origin.2.2 =
        if port.getD 0 = 0 then if strLower parsed.scheme = "https" then 443 else 80
        else port.getD 0 := by
  unfold originOf at found
  simp only [UrlLibrary.lower] at found
  split at found
  · cases found
  next named =>
  rw [not_or] at named
  obtain ⟨port, ports, rest⟩ := of_bind_ok found
  obtain rfl := Except.ok.inj rest
  exact ⟨rfl, rfl, named.2, port, ports, rfl⟩

theorem of_originOrNone {parsed : ParsedUrl} {origin : Origin}
    (found : originOrNone parsed = .ok (some origin)) : originOf parsed = .ok origin := by
  unfold originOrNone at found
  split at found
  · next same =>
      rw [same]
      exact congrArg Except.ok (Option.some.inj (Except.ok.inj found))
  · split at found
    · cases found
    · cases found

theorem located_of_hostname {parts : Parts} (host : strLower ((ofParts parts).hostname.getD "") ≠ "") :
    parts.netloc ≠ [] := by
  intro empty
  refine host ?_
  simp only [ofParts, empty]
  exact strLower_of_ascii [] rfl rfl

/-- What the construction of a client says of its base URL. -/
theorem of_new {baseUrl : String} {maxResponseBytes retryAttempts : Int}
    {allowedMethods : List String} {client : SafeHttpClient}
    (built : SafeHttpClient.new baseUrl maxResponseBytes retryAttempts allowedMethods = .ok client) :
    ∃ based, Urls.urlparse [] client.baseUrl.toList = some based ∧
      based.scheme = "https".toList ∧ based.netloc ≠ [] ∧ Free (cleaned client.baseUrl.toList) ∧
      client.baseUrl.toList ≠ [] ∧ client.origin.1 = "https" ∧ client.scopePath ≠ "" := by
  unfold SafeHttpClient.new at built
  simp only at built
  obtain ⟨parsed, parses, built⟩ := of_bind_ok built
  split at built
  · cases built
  next scheme =>
  split at built
  · cases built
  split at built
  · cases built
  next free =>
  obtain ⟨origin, origins, built⟩ := of_bind_ok built
  split at built
  · cases built
  next scopePath decoded =>
  split at built
  · cases built
  obtain rfl := Except.ok.inj built
  rw [not_or, not_not] at scheme
  obtain ⟨parts, found, rfl⟩ := of_urlparse_ok parses
  obtain ⟨schemes, -, host, -⟩ := of_originOf origins
  have https : parts.scheme = "https".toList := by
    rw [← scheme.1]
    exact (String.toList_ofList).symm
  have plain : Free (cleaned ((if withoutSlash baseUrl = "/" then "" else withoutSlash baseUrl) ++
      "/").toList) := by
    rw [not_or, List.contains_iff_mem, List.contains_iff_mem] at free
    have from_ : ∀ c ∈ ((if withoutSlash baseUrl = "/" then "" else withoutSlash baseUrl) ++
        "/").toList, c = '/' ∨ c ∈ baseUrl.toList := by
      intro c held
      rw [String.toList_append, List.mem_append] at held
      rcases held with held | held
      · split at held
        · cases held
        · exact mem_withoutSlash held
      · exact .inl (by simpa using held)
    constructor
    · intro held
      exact (from_ _ (mem_cleaned held)).elim (by decide) free.1
    · intro held
      exact (from_ _ (mem_cleaned held)).elim (by decide) free.2
  refine ⟨parts, found, https, located_of_hostname host, plain, ?_, ?_, ?_⟩
  · simp
  · rw [schemes, scheme.1, strLower_https]
  · exact decodePath_ne decoded

/-! ## The URL before its query -/

omit [Foreign] in
/-- Leading slashes hide neither a query nor a fragment. -/
theorem cleaned_slashes (text : List Char) :
    ∃ pre, Free pre ∧ cleaned text = pre ++ cleaned (text.dropWhile (· == '/')) := by
  cases text with
  | nil => exact ⟨[], by decide, rfl⟩
  | cons c rest =>
  by_cases slash : c = '/'
  · subst slash
    have free : ∀ {kept : List Char} {p : Char → Bool}, (∀ d ∈ kept, d ≠ '?' ∧ d ≠ '#') →
        Free (kept.filter p) := by
      intro kept p plain
      exact ⟨fun held => (plain _ (List.mem_filter.mp held).1).1 rfl,
        fun held => (plain _ (List.mem_filter.mp held).1).2 rfl⟩
    have whole : cleaned ('/' :: rest) = ('/' :: rest).filter (!removed ·) := by
      unfold cleaned
      rw [List.dropWhile_cons_of_neg (by decide)]
    have shape := List.takeWhile_append_dropWhile (p := (· == '/')) (l := '/' :: rest)
    have inner := List.takeWhile_append_dropWhile (p := fun c => decide (c.toNat ≤ 32))
      (l := ('/' :: rest).dropWhile (· == '/'))
    refine ⟨(('/' :: rest).takeWhile (· == '/')).filter (!removed ·) ++
      ((('/' :: rest).dropWhile (· == '/')).takeWhile fun c => decide (c.toNat ≤ 32)).filter
        (!removed ·), ?_, ?_⟩
    · refine (free fun d held => ?_).append (free fun d held => ?_)
      · have same := List.mem_takeWhile_imp held
        rw [beq_iff_eq] at same
        rw [same]
        decide
      · have low := List.mem_takeWhile_imp held
        constructor <;>
        · rintro rfl
          revert low
          decide
    · rw [whole]
      conv_lhs => rw [← shape, ← inner]
      rw [List.filter_append, List.filter_append, ← List.append_assoc]
      rfl
  · refine ⟨[], by decide, ?_⟩
    rw [List.dropWhile_cons_of_neg (by simpa using slash)]
    rfl

/-- What is known of the URL before a query is appended. -/
structure Resolved (client : SafeHttpClient) (candidate : String) (url : String) (parts : Parts) :
    Prop where
  parses : Urls.urlparse [] url.toList = some parts
  scheme : parts.scheme = "https".toList
  netloc : parts.netloc = authorityOf client candidate
  located : parts.netloc ≠ []
  query : parts.query = queryOf (cleaned (strip candidate).toList)
  fragment : parts.fragment = []
  own : absolute candidate = true → url = strip candidate
  joined : absolute candidate = false →
    '#' ∉ cleaned url.toList ∧ (parts.query = [] → '?' ∉ cleaned url.toList)

omit [Foreign] in
theorem https_named : Named "https".toList := ⟨by decide, by decide, by decide⟩

omit [Foreign] in
theorem https_some : "https".toList ≠ [] := by decide

omit [Foreign] in
theorem https_relative : "https".toList ∈ usesRelative := List.mem_map_of_mem (by decide)

omit [Foreign] in
theorem https_hosted : "https".toList ∈ usesNetloc := List.mem_map_of_mem (by decide)

omit [Foreign] in
theorem not_mem_of_tails {parts : Parts} (sound : Sound parts) (named : Named parts.scheme)
    (located : parts.netloc ≠ []) (whole : parts.fragment = []) :
    '#' ∉ cleaned (urlunparse parts) ∧
      (parts.query = [] → '?' ∉ cleaned (urlunparse parts)) := by
  obtain ⟨same, pre, free, shape⟩ := urlunparse_cleaned sound named located
  obtain ⟨hash, mark⟩ := free_tails sound whole
  rw [same, shape]
  constructor
  · rw [List.mem_append, not_or]
    exact ⟨free.2, hash⟩
  · intro none_
    rw [List.mem_append, not_or]
    exact ⟨free.1, mark none_⟩

theorem absolute_iff {candidate : String} {parts : Parts}
    (parses : Urls.urlparse [] (strip candidate).toList = some parts) :
    absolute candidate = true ↔ (ofParts parts).scheme ≠ "" := by
  unfold absolute
  rw [bne_iff_ne, ← scheme_of_urlparse parses]
  exact not_congr ofList_eq_empty.symm

omit [Foreign] in
theorem urljoin_empty [NetlocChecks] {base : List Char} (base_ : base ≠ []) :
    Urls.urljoin base [] = some base := by
  unfold Urls.urljoin
  rw [if_neg base_]
  rfl

/-- A relative candidate is joined to the base URL. -/
theorem resolved_of_join {client : SafeHttpClient} {candidate : String} {based parts : Parts}
    {joined : List Char} (parsed : Urls.urlparse [] client.baseUrl.toList = some based)
    (https : based.scheme = "https".toList) (located : based.netloc ≠ [])
    (plain : Free (cleaned client.baseUrl.toList)) (base : client.baseUrl.toList ≠ [])
    (relative : absolute candidate = false)
    (joins : Urls.urljoin client.baseUrl.toList ((strip candidate).toList.dropWhile (· == '/')) =
      some joined)
    (parses : Urls.urlparse [] joined = some parts) (scheme : parts.scheme = "https".toList)
    (whole : parts.fragment = []) :
    Resolved client candidate (String.ofList joined) parts := by
  have noQuery : based.query = [] := by rw [urlparse_query parsed, queryOf_eq_nil plain]
  have reference : referenceOf candidate = (strip candidate).toList.dropWhile (· == '/') := by
    unfold referenceOf
    rw [relative]
    rfl
  obtain ⟨pre, free, slashes⟩ := cleaned_slashes (strip candidate).toList
  rw [← reference] at joins slashes
  have candidateQuery : queryOf (cleaned (strip candidate).toList) =
      queryOf (cleaned (referenceOf candidate)) := by
    rw [slashes, queryOf_append free]
  by_cases empty : referenceOf candidate = []
  · -- nothing but slashes: the base URL itself
    rw [empty] at joins candidateQuery
    rw [urljoin_empty base] at joins
    obtain rfl := Option.some.inj joins
    have same : based = parts := Option.some.inj (parsed.symm.trans parses)
    rw [same] at located noQuery
    have netloc := netloc_of_urlparse parses
    have again : Urls.urlparse [] (String.ofList client.baseUrl.toList).toList = some parts := by
      rw [String.toList_ofList]
      exact parses
    have noneQuery : queryOf (cleaned (strip candidate).toList) = [] := by
      rw [candidateQuery]
      rfl
    refine ⟨again, scheme, ?_, located, noQuery.trans noneQuery.symm, whole, ?_, ?_⟩
    · rw [netloc]
      unfold authorityOf
      rw [if_pos (by rw [empty]; rfl)]
    · intro absolute_
      rw [relative] at absolute_
      cases absolute_
    · intro _
      rw [String.toList_ofList]
      exact ⟨plain.2, fun _ => plain.1⟩
  · obtain ⟨own, found, cases_⟩ := of_urljoin parsed noQuery (by rw [https]; exact https_relative)
      (by rw [https]; exact https_hosted) base empty joins
    -- `urljoin` returns the reference as it is, or puts a URL together
    rcases cases_ with ⟨other, same⟩ | ⟨built, shape, sound, schemes, netloc, query, fragment⟩
    · -- a scheme of its own is not `https`
      rw [same] at parses
      refine absurd ?_ other
      have explicit : (splitScheme [] (cleaned (referenceOf candidate))).1 ≠ [] := by
        rw [← scheme_of_urlparse parses, scheme]
        exact https_some
      rw [scheme_of_urlparse found, splitScheme_explicit explicit, ← scheme_of_urlparse parses,
        scheme, https]
    · have named : Named built.scheme := by
        rw [schemes, https]
        exact https_named
      have kept : built.netloc ≠ [] := by
        rw [netloc]
        split
        · exact located
        · assumption
      subst shape
      obtain ⟨-, netlocs, queries, fragments⟩ := urlparse_urlunparse sound named kept parses
      have again : Urls.urlparse [] (String.ofList (urlunparse built)).toList = some parts := by
        rw [String.toList_ofList]
        exact parses
      refine ⟨again, scheme, ?_, by rw [netlocs]; exact kept, ?_, whole, ?_, ?_⟩
      · rw [netlocs, netloc, netloc_of_urlparse found, netloc_of_urlparse parsed]
        rfl
      · rw [queries, query, urlparse_query found, candidateQuery]
      · intro absolute_
        rw [relative] at absolute_
        cases absolute_
      · intro _
        rw [String.toList_ofList, queries]
        exact not_mem_of_tails sound named kept (fragments.symm.trans whole)

omit [Foreign] in
/-- A computation whose first step is one of two. -/
theorem of_ite_bind_ok {α β : Type} {c : Prop} [Decidable c] {first second : Except Exn α}
    {f : α → Except Exn β} {value : β}
    (run : (if c then first >>= f else second >>= f) = .ok value) :
    ∃ a, (if c then first else second) = .ok a ∧ f a = .ok value := by
  split at run
  · next holds =>
      rw [if_pos holds]
      exact of_bind_ok run
  · next fails =>
      rw [if_neg fails]
      exact of_bind_ok run

theorem resolve_facts {baseUrl : String} {maxResponseBytes retryAttempts : Int}
    {allowedMethods : List String} {client : SafeHttpClient} {candidate u : String}
    {query : List (String × Json)}
    (built : SafeHttpClient.new baseUrl maxResponseBytes retryAttempts allowedMethods = .ok client)
    (resolved : client.resolveUrl candidate query = .ok u) :
    ∃ url parts, Resolved client candidate url parts ∧
      originOf (ofParts parts) = .ok client.origin ∧
      (∃ decoded, decodedSafePath (ofParts parts).path = some decoded ∧
        underPath client.scopePath decoded = true) ∧
      (∃ original, UrlLibrary.urlparse (strip candidate) = .ok original ∧
        original.query = String.ofList (queryOf (cleaned (strip candidate).toList))) ∧
      u = if query = [] then url else url ++ (if (ofParts parts).query = "" then "?" else "&") ++
        UrlLibrary.urlencode (queryItems query) := by
  obtain ⟨based, parsed, https, located, plain, base, scheme, -⟩ := of_new built
  unfold SafeHttpClient.resolveUrl at resolved
  simp only at resolved
  split at resolved
  · cases resolved
  obtain ⟨own, owns, resolved⟩ := of_bind_ok resolved
  split at resolved
  · cases resolved
  split at resolved
  · cases resolved
  obtain ⟨url, joins, resolved⟩ := of_ite_bind_ok resolved
  obtain ⟨parsedUrl, parses, resolved⟩ := of_bind_ok resolved
  obtain ⟨origin, origins, resolved⟩ := of_bind_ok resolved
  split at resolved
  · cases resolved
  next same =>
  rw [ne_eq, not_not] at same
  subst same
  obtain ⟨inside, within, resolved⟩ := of_bind_ok resolved
  split at resolved
  · cases resolved
  next inside_ =>
  rw [Bool.not_eq_false] at inside_
  subst inside_
  split at resolved
  · cases resolved
  obtain ⟨again, decodedPath, parsesAgain, -, decoded, below, -, -, fragment⟩ :=
    of_urlWithinScope within
  have same := Except.ok.inj (parsesAgain.symm.trans parses)
  subst same
  obtain ⟨parts, found, shape⟩ := of_urlparse_ok parses
  subst shape
  have origin := of_originOrNone origins
  have schemes : parts.scheme = "https".toList := by
    have lower := (of_originOf origin).1
    rw [scheme, show (ofParts parts).scheme = String.ofList parts.scheme from rfl,
      scheme_lower found] at lower
    rw [lower, String.toList_ofList]
  have whole : parts.fragment = [] := ofList_eq_empty.mp fragment
  obtain ⟨ownParts, ownFound, ownShape⟩ := of_urlparse_ok owns
  have facts : Resolved client candidate url parts := by
    split at joins
    · next named =>
        have absolute_ : absolute candidate = true :=
          (absolute_iff ownFound).mpr (ownShape ▸ named)
        -- an absolute candidate is the URL itself
        have same := Except.ok.inj joins
        have reference : referenceOf candidate = url.toList := by
          unfold referenceOf
          rw [if_pos absolute_, same]
        have located := located_of_hostname (of_originOf origin).2.2.1
        have netloc := netloc_of_urlparse found
        refine ⟨found, schemes, ?_, located, ?_, whole, fun _ => same.symm, ?_⟩
        · unfold authorityOf
          rw [reference, ← netloc, if_neg located]
        · rw [urlparse_query found, same]
        · intro relative
          rw [absolute_] at relative
          cases relative
    · next unnamed =>
        have relative : absolute candidate = false := by
          rw [Bool.eq_false_iff]
          exact fun named => unnamed (ownShape ▸ (absolute_iff ownFound).mp named)
        simp only [UrlLibrary.urljoin, String.toList_ofList] at joins
        split at joins
        · next joined found_ =>
            have same := Except.ok.inj joins
            subst same
            rw [String.toList_ofList] at found
            exact resolved_of_join parsed https located plain base relative found_ found schemes
              whole
        · cases joins
  refine ⟨url, parts, facts, origin, ⟨decodedPath, decoded, below⟩, ⟨own, owns, ?_⟩, ?_⟩
  · rw [ownShape, ← urlparse_query ownFound]
    rfl
  · split at resolved
    · next none_ =>
        rw [if_pos none_]
        exact (Except.ok.inj resolved).symm
    · next some_ =>
        rw [if_neg some_]
        exact (Except.ok.inj resolved).symm

/-! ## Decoded paths -/

omit [Foreign] in
/-- However often an accepted path is decoded, it has no dot segment. -/
theorem decodePath_always [UrlLibrary] {rounds : Nat} {candidate path : String}
    (accepted : decodePath rounds candidate = some path) (n : Nat) :
    traversalShaped (UrlLibrary.unquote^[n] candidate) = false := by
  obtain ⟨-, last, fixed, -, below⟩ := decodePath_fixed accepted
  rcases Nat.le_total n last with small | large
  · exact below n small
  · obtain ⟨more, rfl⟩ := Nat.exists_eq_add_of_le' large
    rw [Function.iterate_add_apply, Function.iterate_fixed fixed]
    exact below last (Nat.le_refl last)

omit [Foreign] in
theorem split_withoutSlash (path : String) : ∃ kept slashes : List Char,
    path.toList = kept ++ slashes ∧ (∀ c ∈ slashes, c = '/') ∧
      withoutSlash path = if kept = [] then "/" else String.ofList kept := by
  have shape := List.takeWhile_append_dropWhile (p := (· == '/')) (l := path.toList.reverse)
  refine ⟨(path.toList.reverse.dropWhile (· == '/')).reverse,
    (path.toList.reverse.takeWhile (· == '/')).reverse, ?_, ?_, ?_⟩
  · rw [← List.reverse_append, shape, List.reverse_reverse]
  · intro c held
    simpa using List.mem_takeWhile_imp (List.mem_reverse.mp held)
  · unfold withoutSlash
    simp only [ofList_eq_empty]

omit [Foreign] in
/-- A path that lies below another without its last slashes lies below it. -/
theorem underPath_withoutSlash {path decoded : String} (some_ : path ≠ "")
    (below : underPath path (withoutSlash decoded) = true) : underPath path decoded = true := by
  unfold underPath at below ⊢
  simp only [Bool.or_eq_true, beq_iff_eq, List.isPrefixOf_iff_prefix] at below ⊢
  obtain ⟨kept, slashes, split, all, without⟩ := split_withoutSlash decoded
  by_cases root : kept = []
  · rw [if_pos root] at without
    rw [without] at below
    rcases below with (below | below) | ⟨rest, below⟩
    · exact .inl (.inl below)
    · exact .inl (.inl below.symm)
    · -- nothing but the root itself begins with a slash there
      have short : path.toList = [] := by
        cases chars : path.toList with
        | nil => rfl
        | cons c tail =>
            rw [chars, show "/".toList = ['/'] by decide] at below
            simp at below
      exact absurd (String.toList_inj.mp (by rw [short]; decide)) some_
  · rw [if_neg root] at without
    rw [without, String.toList_ofList] at below
    rcases below with (below | below) | below
    · exact .inl (.inl below)
    · rw [← below, String.toList_ofList, split]
      cases slashes with
      | nil =>
          refine .inl (.inr ?_)
          rw [List.append_nil] at split
          exact String.toList_inj.mp (by rw [split, String.toList_ofList])
      | cons c slashes =>
          rw [all c List.mem_cons_self]
          exact .inr ⟨slashes, by simp⟩
    · rw [split]
      exact .inr (below.trans (List.prefix_append _ _))

/-! ## Returned URLs -/

omit [Foreign] in
/-- Cleaning removes controls and spaces only. -/
theorem mem_cleaned_iff {text : List Char} {c : Char} (high : 32 < c.toNat)
    (kept : removed c = false) : c ∈ cleaned text ↔ c ∈ text := by
  unfold cleaned
  rw [List.mem_filter, kept]
  have shape := List.takeWhile_append_dropWhile (p := fun c => decide (c.toNat ≤ 32)) (l := text)
  constructor
  · exact fun held => (List.dropWhile_suffix _).subset held.1
  · intro held
    rw [← shape, List.mem_append] at held
    rcases held with held | held
    · have low := List.mem_takeWhile_imp held
      rw [decide_eq_true_eq] at low
      omega
    · exact ⟨held, rfl⟩

/-- Of a URL with the path and the location that were checked, the rest is left to show. -/
theorem scoped_iff {client : SafeHttpClient} {candidate url : String}
    {query : List (String × Json)} {parts again : Parts} {decoded : String} {original : ParsedUrl}
    (facts : Resolved client candidate url parts)
    (origin : originOf (ofParts parts) = .ok client.origin)
    (https : client.origin.1 = "https") (scopePath : client.scopePath ≠ "")
    (accepted : decodedSafePath (ofParts parts).path = some decoded)
    (below : underPath client.scopePath decoded = true)
    (owns : UrlLibrary.urlparse (strip candidate) = .ok original)
    (scheme : again.scheme = parts.scheme) (netloc : again.netloc = parts.netloc)
    (path : again.path = parts.path) :
    Scoped client candidate query (ofParts again) ↔
      '@' ∉ authorityOf client candidate ∧ portOf (authorityOf client candidate) ≠ .ok (some 0) ∧
        again.fragment = [] ∧ String.ofList again.query = expectedQuery original.query query := by
  obtain ⟨schemes, host, -, port, ports, standard⟩ := of_originOf origin
  have here : parts.netloc = authorityOf client candidate := facts.netloc
  have samePort : (ofParts again).port = .ok port := by
    show portOf again.netloc = _
    rw [netloc]
    exact ports
  have location : portOf (authorityOf client candidate) = .ok port := by
    rw [← here]
    exact ports
  rw [show strLower (ofParts parts).scheme = "https" from schemes ▸ https, if_pos rfl] at standard
  have sameUser : (ofParts again).username = (userinfo (authorityOf client candidate)).1.map
      String.ofList := by
    rw [← here, ← netloc]
    rfl
  have samePath : (ofParts again).path = (ofParts parts).path := congrArg String.ofList path
  constructor
  · intro stays
    refine ⟨?_, ?_, ofList_eq_empty.mp stays.fragment, ?_⟩
    · have none_ := stays.userinfo.1
      rw [sameUser, Option.map_eq_none_iff] at none_
      exact (no_username _).mp none_
    · intro zero
      obtain ⟨port', ports', same⟩ := stays.port
      rw [samePort] at ports'
      rw [location] at zero
      obtain rfl := Except.ok.inj ports'
      rw [Except.ok.inj zero] at same standard
      rw [standard] at same
      cases same
    · obtain ⟨original', owns', same⟩ := stays.query
      rw [Except.ok.inj (owns'.symm.trans owns)] at same
      exact same
  · -- the checks of the URL before the query speak of this one too
    rintro ⟨user, zero, fragment, queries⟩
    refine ⟨?_, ?_, ⟨port, samePort, ?_⟩, ⟨?_, ?_⟩, ofList_eq_empty.mpr fragment, ?_, ?_,
      ⟨original, owns, queries⟩⟩
    · show String.ofList again.scheme = _
      rw [scheme, facts.scheme, https, String.ofList_toList]
    · rw [host]
      show strLower ((hostnameOf again.netloc).getD "") = _
      rw [netloc]
      rfl
    · rw [standard]
      rw [location] at zero
      cases port with
      | none => rfl
      | some n =>
          have positive : n ≠ 0 := fun none_ => zero (by rw [none_])
          simp [positive]
    · rw [sameUser, (no_username _).mpr user]
      rfl
    · show (userinfo again.netloc).2.map String.ofList = none
      rw [netloc, here, no_password user]
      rfl
    · unfold decodedFrom
      rw [samePath]
      exact decodePath_always accepted
    · unfold decodedFrom
      rw [samePath]
      obtain ⟨-, n, fixed, rfl, -⟩ := decodePath_fixed accepted
      exact ⟨n, fixed, underPath_withoutSlash scopePath below⟩

/-- What is appended to the URL keeps its query and brings no fragment. -/
def Appendable (url : String) (parts : Parts) : Prop :=
  '#' ∉ cleaned url.toList ∧ (parts.query = [] → '?' ∉ cleaned url.toList)

theorem settled_query {client : SafeHttpClient} {candidate url : String} {parts : Parts}
    (facts : Resolved client candidate url parts) :
    Appendable url parts ↔ (absolute candidate = true →
      '#' ∉ (strip candidate).toList ∧
        (queryOf (cleaned (strip candidate).toList) = [] → '?' ∉ (strip candidate).toList)) := by
  have hash : '#' ∈ cleaned (strip candidate).toList ↔ '#' ∈ (strip candidate).toList :=
    mem_cleaned_iff (by decide) (by decide)
  have mark : '?' ∈ cleaned (strip candidate).toList ↔ '?' ∈ (strip candidate).toList :=
    mem_cleaned_iff (by decide) (by decide)
  cases named : absolute candidate with
  | false =>
      refine iff_of_true (facts.joined named) ?_
      intro absolute_
      cases absolute_
  | true =>
      unfold Appendable
      rw [facts.query, facts.own named, hash, mark]
      exact ⟨fun holds _ => holds, fun holds => holds rfl⟩

/-- A URL with a query appended, parsed again. -/
theorem urlparse_appended {url : String} {parts : Parts} {encoded : List Char}
    (parses : Urls.urlparse [] url.toList = some parts) (scheme : parts.scheme ≠ [])
    (located : parts.netloc ≠ []) (plain : Plain encoded) :
    ∃ again, Urls.urlparse [] (url.toList ++ (if parts.query = [] then '?' else '&') :: encoded) =
        some again ∧ again.scheme = parts.scheme ∧ again.netloc = parts.netloc ∧
      (again.fragment = [] → '#' ∉ cleaned url.toList) ∧
      (Appendable url parts → again.path = parts.path ∧ again.fragment = [] ∧
        again.query = if parts.query = [] then encoded else parts.query ++ '&' :: encoded) ∧
      ('#' ∉ cleaned url.toList → parts.query = [] → '?' ∈ cleaned url.toList →
        again.query = '?' :: encoded) := by
  have query := urlparse_query parses
  have more : Plain ((if parts.query = [] then '?' else '&') :: encoded) := by
    intro c held
    rcases List.mem_cons.mp held with rfl | held
    · split <;> decide
    · exact plain c held
  have noHash : '#' ∉ (if parts.query = [] then '?' else '&') :: encoded :=
    fun held => (more _ held).2 rfl
  have marked : parts.query ≠ [] → '?' ∈ cleaned url.toList := by
    intro some_
    by_contra absent
    exact some_ (query.trans (after_absent fun held => absent (mem_of_before held)))
  have ends : ¬ Free (cleaned url.toList) ∨
      ((if parts.query = [] then '?' else '&') :: encoded).head? = some '?' := by
    by_cases none_ : parts.query = []
    · rw [if_pos none_]
      exact .inr rfl
    · exact .inl fun free => free.1 (marked none_)
  obtain ⟨again, found, schemes, netlocs, queries, fragments, paths⟩ :=
    urlparse_append parses scheme located more ends
  refine ⟨again, found, schemes, netlocs, ?_, ?_, ?_⟩
  · intro whole held
    rw [fragments, fragmentOf_append_hash held] at whole
    exact absurd whole (by simp)
  · rintro ⟨hash, bare⟩
    refine ⟨paths hash, ?_, ?_⟩
    · rw [fragments]
      exact after_absent (by
        rw [List.mem_append, not_or]
        exact ⟨hash, noHash⟩)
    · rw [queries]
      by_cases none_ : parts.query = []
      · rw [if_pos none_] at noHash ⊢
        rw [if_pos none_, queryOf_append_mark ⟨bare none_, hash⟩
          fun held => (plain _ held).2 rfl]
      · rw [if_neg none_] at noHash ⊢
        rw [if_neg none_, queryOf_append_query hash noHash (marked none_), ← query]
  · intro hash none_ held
    rw [if_pos none_] at noHash queries
    rw [queries, queryOf_append_query hash noHash held, ← query, none_, List.nil_append]

theorem urlencode_encoded (items : List (String × Json)) :
    ∃ encoded, Plain encoded ∧ UrlLibrary.urlencode items = String.ofList encoded :=
  ⟨_, urlencode_plain _, rfl⟩

end

/-! ## Samples -/

namespace Samples

/-- Texts of plain ASCII, without escapes. -/
@[reducible] def plainForeign : Foreign where
  bracketedHost _ := true
  normalized _ := true
  unquote text := text
  lowered text := text
  upper text := String.ofList (text.toList.map (·.toUpper))
  shown _ := ""

def scopeClient : SafeHttpClient :=
  ⟨"https://host/scope/", ("https", "host", 443), "/scope", 1000000, 2, ["GET"]⟩

attribute [local instance] plainForeign

theorem scopeClient_new :
    SafeHttpClient.new "https://host/scope" 1000000 2 ["GET"] = .ok scopeClient := by
  decide +kernel

theorem reading_resolves : scopeClient.resolveUrl "/x?y=2" [("a", .str "1 2")] =
    .ok "https://host/scope/x?y=2&a=1+2" := by
  decide +kernel

end Samples

attribute [local instance] Samples.plainForeign

end MasterAgent.Http
