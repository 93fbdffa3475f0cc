import Mathlib.Data.List.Basic
import Mathlib.Data.List.TakeWhile

/-!
# URLs

`urllib.parse` on the characters of a text: `urlsplit`, `urlparse`, `urlunparse` and `urljoin`, and
what appending to a URL does to its parts. The checks of a network location are parameters.

Results:

1. `urlparse_query`, `urlparse_fragment`: query and fragment as parts of the whole text;
2. `urlparse_append`: a URL with text behind it;
3. `urlparse_urlunparse`: what is put together is taken apart again;
4. `of_urljoin`: the parts of a joined URL.
-/

namespace Base.Urls

/-! ## Splitting at a character -/

/-- `text.split(c, 1)[0]` -/
def before (c : Char) (text : List Char) : List Char := text.takeWhile (· != c)

/-- `text.split(c, 1)[1]`, or nothing. -/
def after (c : Char) (text : List Char) : List Char := (text.dropWhile (· != c)).tail

section split
variable {c : Char} {text more : List Char}

theorem all_ne (absent : c ∉ text) : ∀ d ∈ text, (d != c) = true := by
  rintro d held
  rw [bne_iff_ne]
  rintro rfl
  exact absent held

theorem before_append_absent (absent : c ∉ text) : before c (text ++ more) = text ++ before c more :=
  List.takeWhile_append_of_pos (all_ne absent)

theorem after_append_absent (absent : c ∉ text) : after c (text ++ more) = after c more := by
  unfold after
  rw [List.dropWhile_append_of_pos (all_ne absent)]

theorem before_absent (absent : c ∉ text) : before c text = text := by
  have := @before_append_absent c text [] absent
  rwa [List.append_nil, show before c [] = [] from rfl, List.append_nil] at this

theorem after_absent (absent : c ∉ text) : after c text = [] := by
  have := @after_append_absent c text [] absent
  rwa [List.append_nil] at this

@[simp] theorem before_cons_self : before c (c :: text) = [] := by simp [before]

@[simp] theorem after_cons_self : after c (c :: text) = text := by simp [after]

/-- A text that holds the character is what is before it, the character and what is after it. -/
theorem before_after (held : c ∈ text) : before c text ++ c :: after c text = text := by
  have shape := List.takeWhile_append_dropWhile (p := (· != c)) (l := text)
  cases rest : text.dropWhile (· != c) with
  | nil =>
      have all := List.dropWhile_eq_nil_iff.mp rest c held
      simp at all
  | cons d tail =>
      have head : (d != c) = false := by
        have := List.dropWhile_get_zero_not (· != c) text (by simp [rest])
        simpa [rest] using this
      rw [rest] at shape
      unfold before after
      rw [rest, List.tail_cons]
      rwa [bne_eq_false_iff_eq.mp head] at shape

theorem not_mem_before : c ∉ before c text := by
  intro held
  simpa using List.mem_takeWhile_imp held

theorem mem_of_before {d : Char} (held : d ∈ before c text) : d ∈ text :=
  (List.takeWhile_prefix _).subset held

theorem mem_of_after {d : Char} (held : d ∈ after c text) : d ∈ text :=
  (List.dropWhile_suffix _).subset (List.mem_of_mem_tail held)

theorem before_append (held : c ∈ text) : before c (text ++ more) = before c text := by
  conv_lhs => rw [← before_after held, List.append_assoc, List.cons_append]
  rw [before_append_absent not_mem_before, before_cons_self, List.append_nil]

theorem after_append (held : c ∈ text) : after c (text ++ more) = after c text ++ more := by
  conv_lhs => rw [← before_after held, List.append_assoc, List.cons_append]
  rw [after_append_absent not_mem_before, after_cons_self]

end split

/-! ## Parsing -/

structure Parts where
  scheme : List Char
  netloc : List Char
  path : List Char
  params : List Char
  query : List Char
  fragment : List Char
deriving DecidableEq

/-- The checks of a network location that look beyond its characters. -/
class NetlocChecks where
  /-- `_check_bracketed_host` raises nothing. -/
  bracketedHost : List Char → Bool
  /-- The NFKC normal form brings no delimiter. -/
  normalized : List Char → Bool

/-- `_UNSAFE_URL_BYTES_TO_REMOVE` -/
def removed (c : Char) : Bool := c == '\t' || c == '\r' || c == '\n'

def cleaned (url : List Char) : List Char :=
  (url.dropWhile fun c => decide (c.toNat ≤ 32)).filter (!removed ·)

/-- `scheme_chars` -/
def schemeChar (c : Char) : Bool := c.isAlphanum || c == '+' || c == '-' || c == '.'

/-- The text before the first colon is a scheme. -/
def hasScheme (text : List Char) : Bool :=
  text.contains ':' && (text.head?.any (·.isAlpha)) && (before ':' text).all schemeChar

def splitScheme (default text : List Char) : List Char × List Char :=
  if hasScheme text then ((before ':' text).map (·.toLower), after ':' text) else (default, text)

def delimiter (c : Char) : Bool := c == '/' || c == '?' || c == '#'

/-- `_splitnetloc`, where a network location is announced. -/
def splitNetloc : List Char → List Char × List Char
  | '/' :: '/' :: rest => (rest.takeWhile (!delimiter ·), rest.dropWhile (!delimiter ·))
  | text => ([], text)

def netlocValid [NetlocChecks] (netloc : List Char) : Bool :=
  (netloc.contains '[' == netloc.contains ']') &&
    (!netloc.contains '[' || NetlocChecks.bracketedHost (before ']' (after '[' netloc))) &&
    (netloc.all (·.toNat < 128) || NetlocChecks.normalized netloc)

def fragmentOf (text : List Char) : List Char := after '#' text
def queryOf (text : List Char) : List Char := after '?' (before '#' text)
def pathOf (text : List Char) : List Char := before '?' (before '#' text)

/-- `urlsplit`, with a default scheme that is a parsed one. -/
def urlsplit [NetlocChecks] (default url : List Char) : Option Parts :=
  let (scheme, rest) := splitScheme default (cleaned url)
  let (netloc, rest) := splitNetloc rest
  if netlocValid netloc then
    some ⟨scheme, netloc, pathOf rest, [], queryOf rest, fragmentOf rest⟩
  else none

def usesParams : List (List Char) :=
  ["", "ftp", "hdl", "prospero", "http", "imap", "https", "shttp", "rtsp", "rtsps", "rtspu", "sip",
    "sips", "mms", "sftp", "tel"].map (·.toList)

/-- `_splitparams` -/
def splitParams (path : List Char) : List Char × List Char :=
  let directory := (path.reverse.dropWhile (· != '/')).reverse
  let segment := (path.reverse.takeWhile (· != '/')).reverse
  if segment.contains ';' then (directory ++ before ';' segment, after ';' segment) else (path, [])

def withParams (parts : Parts) : Parts :=
  if parts.scheme ∈ usesParams ∧ ';' ∈ parts.path then
    { parts with path := (splitParams parts.path).1, params := (splitParams parts.path).2 }
  else parts

def urlparse [NetlocChecks] (default url : List Char) : Option Parts :=
  (urlsplit default url).map withParams

/-! ## Putting together -/

def usesRelative : List (List Char) :=
  ["", "ftp", "http", "gopher", "nntp", "imap", "wais", "file", "https", "shttp", "mms",
    "prospero", "rtsp", "rtsps", "rtspu", "sftp", "svn", "svn+ssh", "ws", "wss"].map (·.toList)

def usesNetloc : List (List Char) :=
  ["", "ftp", "http", "gopher", "nntp", "telnet", "imap", "wais", "file", "mms", "https", "shttp",
    "snews", "prospero", "rtsp", "rtsps", "rtspu", "rsync", "svn", "svn+ssh", "sftp", "nfs", "git",
    "git+ssh", "ws", "wss"].map (·.toList)

/-- The path with its parameters, below a network location where there is one. -/
def hierarchy (parts : Parts) : List Char :=
  let url := if parts.params = [] then parts.path else parts.path ++ ';' :: parts.params
  if parts.netloc ≠ [] ∨ (parts.scheme ≠ [] ∧ parts.scheme ∈ usesNetloc) ∨
      url.take 2 = ['/', '/'] then
    '/' :: '/' :: (parts.netloc ++
      if url ≠ [] ∧ url.head? ≠ some '/' then '/' :: url else url)
  else url

def urlunparse (parts : Parts) : List Char :=
  (if parts.scheme = [] then hierarchy parts else parts.scheme ++ ':' :: hierarchy parts) ++
    (if parts.query = [] then [] else '?' :: parts.query) ++
    (if parts.fragment = [] then [] else '#' :: parts.fragment)

/-- `filter(None, segments[1:-1])` in place of the segments between the first and the last. -/
def withoutEmpty : List (List Char) → List (List Char)
  | [] => []
  | first :: rest => first :: (rest.dropLast.filter (· ≠ []) ++ rest.getLast?.toList)

def resolveSegment (resolved : List (List Char)) (segment : List Char) : List (List Char) :=
  if segment = ['.', '.'] then resolved.dropLast
  else if segment = ['.'] then resolved
  else resolved ++ [segment]

/-- The path of a relative reference below the path of a base. -/
def resolvePath (base path : List Char) : List Char :=
  let baseParts := base.splitOn '/'
  let baseParts := if baseParts.getLast? = some [] then baseParts else baseParts.dropLast
  let segments :=
    if path.head? = some '/' then path.splitOn '/' else withoutEmpty (baseParts ++ path.splitOn '/')
  let resolved := segments.foldl resolveSegment []
  let resolved :=
    if segments.getLast? = some ['.'] ∨ segments.getLast? = some ['.', '.'] then resolved ++ [[]]
    else resolved
  let joined := ['/'].intercalate resolved
  if joined = [] then ['/'] else joined

def urljoin [NetlocChecks] (base url : List Char) : Option (List Char) :=
  if base = [] then some url
  else if url = [] then some base
  else do
    let based ← urlparse [] base
    let parts ← urlparse based.scheme url
    if parts.scheme ≠ based.scheme ∨ parts.scheme ∉ usesRelative then some url
    else if parts.scheme ∈ usesNetloc ∧ parts.netloc ≠ [] then some (urlunparse parts)
    else
      let netloc := if parts.scheme ∈ usesNetloc then based.netloc else parts.netloc
      if parts.path = [] ∧ parts.params = [] then
        let query := if parts.query = [] then based.query else parts.query
        some (urlunparse
          { parts with netloc := netloc, path := based.path, params := based.params, query := query })
      else
        some (urlunparse { parts with netloc := netloc, path := resolvePath based.path parts.path })

/-! ## What parsing finds -/

/-- The text has neither a query nor a fragment. -/
def Free (text : List Char) : Prop := '?' ∉ text ∧ '#' ∉ text

instance (text : List Char) : Decidable (Free text) := inferInstanceAs (Decidable (_ ∧ _))

section free
variable {pre rest : List Char}

theorem Free.append {first second : List Char} (one : Free first) (two : Free second) :
    Free (first ++ second) := by
  simp only [Free, List.mem_append, not_or]
  exact ⟨⟨one.1, two.1⟩, one.2, two.2⟩

theorem Free.cons {c : Char} (plain : c ≠ '?' ∧ c ≠ '#') (free : Free rest) : Free (c :: rest) := by
  simp only [Free, List.mem_cons, not_or]
  exact ⟨⟨plain.1.symm, free.1⟩, plain.2.symm, free.2⟩

theorem fragmentOf_append (free : Free pre) : fragmentOf (pre ++ rest) = fragmentOf rest :=
  after_append_absent free.2

theorem queryOf_append (free : Free pre) : queryOf (pre ++ rest) = queryOf rest := by
  unfold queryOf
  rw [before_append_absent free.2, after_append_absent free.1]

theorem queryOf_eq_nil (free : Free pre) : queryOf pre = [] := by
  unfold queryOf
  rw [before_absent free.2, after_absent free.1]

end free

theorem schemeChar_ne {c : Char} (scheme : schemeChar c = true) :
    c ≠ '?' ∧ c ≠ '#' ∧ c ≠ ':' := by
  refine ⟨?_, ?_, ?_⟩ <;>
  · rintro rfl
    revert scheme
    decide

theorem free_of_schemeChars {scheme : List Char} (all : scheme.all schemeChar = true) :
    Free scheme := by
  rw [List.all_eq_true] at all
  exact ⟨fun held => (schemeChar_ne (all _ held)).1 rfl,
    fun held => (schemeChar_ne (all _ held)).2.1 rfl⟩

/-- What stands before the rest of a text without its scheme is free. -/
theorem splitScheme_prefix (default text : List Char) :
    ∃ pre, Free pre ∧ text = pre ++ (splitScheme default text).2 := by
  unfold splitScheme
  split
  · next scheme =>
      unfold hasScheme at scheme
      simp only [Bool.and_eq_true] at scheme
      refine ⟨before ':' text ++ [':'], (free_of_schemeChars scheme.2).append (by decide), ?_⟩
      rw [List.append_assoc]
      exact (before_after (by simpa using scheme.1.1)).symm
  · exact ⟨[], by decide, rfl⟩

theorem not_delimiter {netloc : List Char} (plain : ∀ c ∈ netloc, delimiter c = false) :
    Free netloc :=
  ⟨fun held => by simpa [delimiter] using plain _ held,
    fun held => by simpa [delimiter] using plain _ held⟩

theorem splitNetloc_plain (text : List Char) :
    ∀ c ∈ (splitNetloc text).1, delimiter c = false := by
  unfold splitNetloc
  split
  · intro c held
    simpa using List.mem_takeWhile_imp held
  · intro c held
    cases held

theorem splitNetloc_prefix (text : List Char) :
    ∃ pre, Free pre ∧ text = pre ++ (splitNetloc text).2 := by
  have plain := not_delimiter (splitNetloc_plain text)
  unfold splitNetloc at plain ⊢
  split
  · next rest =>
      refine ⟨'/' :: '/' :: rest.takeWhile (!delimiter ·), ?_, ?_⟩
      · exact Free.cons (by decide) (Free.cons (by decide) plain)
      · simp
  · exact ⟨[], by decide, rfl⟩

section parse
variable [NetlocChecks] {default url : List Char} {parts : Parts}

omit [NetlocChecks] in
theorem withParams_same (parts : Parts) :
    (withParams parts).scheme = parts.scheme ∧ (withParams parts).netloc = parts.netloc ∧
      (withParams parts).query = parts.query ∧ (withParams parts).fragment = parts.fragment := by
  unfold withParams
  split <;> exact ⟨rfl, rfl, rfl, rfl⟩

/-- What a parsed URL is, by the rest behind its scheme and the rest behind its location. -/
theorem of_urlparse (parses : urlparse default url = some parts) :
    netlocValid (splitNetloc (splitScheme default (cleaned url)).2).1 = true ∧
      parts = withParams ⟨(splitScheme default (cleaned url)).1,
        (splitNetloc (splitScheme default (cleaned url)).2).1,
        pathOf (splitNetloc (splitScheme default (cleaned url)).2).2, [],
        queryOf (splitNetloc (splitScheme default (cleaned url)).2).2,
        fragmentOf (splitNetloc (splitScheme default (cleaned url)).2).2⟩ := by
  unfold urlparse urlsplit at parses
  simp only at parses
  split at parses
  · next valid => exact ⟨valid, (Option.some.inj parses).symm⟩
  · cases parses

omit [NetlocChecks] in
theorem withParams_path {one two : Parts} (scheme : one.scheme = two.scheme)
    (path : one.path = two.path) : (withParams one).path = (withParams two).path := by
  unfold withParams
  rw [scheme, path]
  split
  · rfl
  · exact path

omit [NetlocChecks] in
theorem parsed_prefix (default url : List Char) :
    ∃ pre, Free pre ∧
      cleaned url = pre ++ (splitNetloc (splitScheme default (cleaned url)).2).2 := by
  obtain ⟨first, freeFirst, shapeFirst⟩ := splitScheme_prefix default (cleaned url)
  obtain ⟨second, freeSecond, shapeSecond⟩ :=
    splitNetloc_prefix (splitScheme default (cleaned url)).2
  refine ⟨first ++ second, freeFirst.append freeSecond, ?_⟩
  rw [List.append_assoc, ← shapeSecond, ← shapeFirst]

/-- The query stands between the first question mark and the first hash of the whole text. -/
theorem urlparse_query (parses : urlparse default url = some parts) :
    parts.query = queryOf (cleaned url) := by
  obtain ⟨-, rfl⟩ := of_urlparse parses
  obtain ⟨pre, free, shape⟩ := parsed_prefix default url
  rw [(withParams_same _).2.2.1]
  conv_rhs => rw [shape, queryOf_append free]

theorem urlparse_fragment (parses : urlparse default url = some parts) :
    parts.fragment = fragmentOf (cleaned url) := by
  obtain ⟨-, rfl⟩ := of_urlparse parses
  obtain ⟨pre, free, shape⟩ := parsed_prefix default url
  rw [(withParams_same _).2.2.2]
  conv_rhs => rw [shape, fragmentOf_append free]

theorem urlparse_netloc_plain (parses : urlparse default url = some parts) :
    ∀ c ∈ parts.netloc, delimiter c = false := by
  obtain ⟨-, rfl⟩ := of_urlparse parses
  rw [(withParams_same _).2.1]
  exact splitNetloc_plain _

end parse

/-! ## Appending to a URL -/

/-- Text that appending leaves as it is: no character is removed, and no fragment begins. -/
def Plain (more : List Char) : Prop := ∀ c ∈ more, removed c = false ∧ c ≠ '#'

section parts
variable {text more : List Char}

theorem pathOf_append (noHash : '#' ∉ text) (plain : '#' ∉ more)
    (marked : '?' ∈ text ∨ more.head? = some '?') : pathOf (text ++ more) = pathOf text := by
  unfold pathOf
  rw [before_append_absent noHash, before_absent plain, before_absent noHash]
  by_cases held : '?' ∈ text
  · exact before_append held
  · rw [before_append_absent held, before_absent held]
    cases more with
    | nil => rw [before, List.takeWhile_nil, List.append_nil]
    | cons c tail =>
        obtain rfl := Option.some.inj (marked.resolve_left held)
        rw [before_cons_self, List.append_nil]

/-- Behind a query, more text is more of the query. -/
theorem queryOf_append_query (noHash : '#' ∉ text) (plain : '#' ∉ more) (marked : '?' ∈ text) :
    queryOf (text ++ more) = queryOf text ++ more := by
  unfold queryOf
  rw [before_append_absent noHash, before_absent plain, before_absent noHash, after_append marked]

theorem queryOf_append_mark (free : Free text) (plain : '#' ∉ more) :
    queryOf (text ++ '?' :: more) = more := by
  have absent : '#' ∉ '?' :: more := by
    rw [List.mem_cons, not_or]
    exact ⟨by decide, plain⟩
  unfold queryOf
  rw [before_append_absent free.2, before_absent absent, after_append_absent free.1,
    after_cons_self]

theorem fragmentOf_append_hash (held : '#' ∈ text) :
    fragmentOf (text ++ more) = fragmentOf text ++ more := after_append held

end parts

theorem cleaned_append {url more : List Char} (some_ : cleaned url ≠ []) (plain : Plain more) :
    cleaned (url ++ more) = cleaned url ++ more := by
  unfold cleaned at some_ ⊢
  rw [List.dropWhile_append]
  split
  · next empty =>
      rw [List.isEmpty_iff.mp empty] at some_
      exact absurd rfl some_
  · rw [List.filter_append]
    congr 1
    rw [List.filter_eq_self]
    intro c held
    rw [(plain c held).1]
    rfl

theorem splitScheme_append {text more : List Char} (named : (splitScheme [] text).1 ≠ []) :
    splitScheme [] (text ++ more) =
      ((splitScheme [] text).1, (splitScheme [] text).2 ++ more) := by
  unfold splitScheme at named ⊢
  split at named
  · next scheme =>
      have parts := scheme
      simp only [hasScheme, Bool.and_eq_true, List.contains_iff_mem] at parts
      obtain ⟨⟨colon, first⟩, all⟩ := parts
      have still : hasScheme (text ++ more) = true := by
        simp only [hasScheme, Bool.and_eq_true, List.contains_iff_mem, before_append colon]
        refine ⟨⟨List.mem_append_left _ colon, ?_⟩, all⟩
        cases text with
        | nil => cases colon
        | cons c text => exact first
      rw [if_pos still, if_pos scheme, before_append colon, after_append colon]
  · exact absurd rfl named

theorem of_splitNetloc {text : List Char} (named : (splitNetloc text).1 ≠ []) :
    ∃ rest, text = '/' :: '/' :: rest := by
  unfold splitNetloc at named
  split at named
  · exact ⟨_, rfl⟩
  · exact absurd rfl named

theorem of_located {text : List Char} {c : Char} (held : c ∈ (splitNetloc text).1) : c ∈ text := by
  obtain ⟨rest, rfl⟩ := of_splitNetloc (List.ne_nil_of_mem held)
  have found : c ∈ rest.takeWhile (!delimiter ·) := held
  exact List.mem_cons_of_mem _ (List.mem_cons_of_mem _ ((List.takeWhile_prefix _).subset found))

theorem splitNetloc_append {text more : List Char} (named : (splitNetloc text).1 ≠ [])
    (ends : ¬ Free text ∨ more.head? = some '?') :
    splitNetloc (text ++ more) = ((splitNetloc text).1, (splitNetloc text).2 ++ more) := by
  obtain ⟨rest, rfl⟩ := of_splitNetloc named
  simp only [List.cons_append, splitNetloc]
  -- the location ends at a delimiter of its own, or where the text behind it begins
  by_cases all : ∀ c ∈ rest, (!delimiter c) = true
  · have free : Free ('/' :: '/' :: rest) :=
      Free.cons (by decide) (Free.cons (by decide)
        (not_delimiter fun c held => by simpa using all c held))
    have head := ends.resolve_left (not_not_intro free)
    cases more with
    | nil => cases head
    | cons c tail =>
    obtain rfl := Option.some.inj head
    have whole : (rest ++ '?' :: tail).takeWhile (!delimiter ·) =
        rest ++ ('?' :: tail).takeWhile (!delimiter ·) := List.takeWhile_append_of_pos all
    have rests : (rest ++ '?' :: tail).dropWhile (!delimiter ·) =
        ('?' :: tail).dropWhile (!delimiter ·) := List.dropWhile_append_of_pos all
    rw [List.takeWhile_cons_of_neg (by decide), List.append_nil] at whole
    rw [List.dropWhile_cons_of_neg (by decide)] at rests
    rw [whole, rests, List.takeWhile_eq_self_iff.mpr all, List.dropWhile_eq_nil_iff.mpr all]
    rfl
  · have kept : rest.dropWhile (!delimiter ·) ≠ [] := by
      rw [ne_eq, List.dropWhile_eq_nil_iff]
      exact all
    have short : ¬ (rest.takeWhile (!delimiter ·)).length = rest.length := by
      intro same
      exact all (List.takeWhile_eq_self_iff.mp
        ((List.takeWhile_prefix _).eq_of_length same))
    rw [List.takeWhile_append, if_neg short, List.dropWhile_append,
      if_neg (by rwa [List.isEmpty_iff])]

section parse
variable [NetlocChecks] {url more : List Char} {parts : Parts}

/-- Text behind a URL changes its path, query and fragment only, and its path only if it has
neither a query nor a fragment and the text brings none. -/
theorem urlparse_append (parses : urlparse [] url = some parts) (named : parts.scheme ≠ [])
    (located : parts.netloc ≠ []) (plain : Plain more)
    (ends : ¬ Free (cleaned url) ∨ more.head? = some '?') :
    ∃ appended, urlparse [] (url ++ more) = some appended ∧ appended.scheme = parts.scheme ∧
      appended.netloc = parts.netloc ∧ appended.query = queryOf (cleaned url ++ more) ∧
      appended.fragment = fragmentOf (cleaned url ++ more) ∧
      ('#' ∉ cleaned url → appended.path = parts.path) := by
  obtain ⟨valid, shape⟩ := of_urlparse parses
  have same := withParams_same ⟨(splitScheme [] (cleaned url)).1,
    (splitNetloc (splitScheme [] (cleaned url)).2).1,
    pathOf (splitNetloc (splitScheme [] (cleaned url)).2).2, [],
    queryOf (splitNetloc (splitScheme [] (cleaned url)).2).2,
    fragmentOf (splitNetloc (splitScheme [] (cleaned url)).2).2⟩
  rw [← shape] at same
  have scheme : parts.scheme = (splitScheme [] (cleaned url)).1 := same.1
  have netloc : parts.netloc = (splitNetloc (splitScheme [] (cleaned url)).2).1 := same.2.1
  have some_ : cleaned url ≠ [] := by
    intro empty
    rw [scheme, empty] at named
    exact named rfl
  -- scheme and location hold no delimiter of the query, so the rest has what the text has
  obtain ⟨first, freeFirst, textFirst⟩ := splitScheme_prefix [] (cleaned url)
  obtain ⟨second, freeSecond, textSecond⟩ := splitNetloc_prefix (splitScheme [] (cleaned url)).2
  have endsRest : ¬ Free (splitScheme [] (cleaned url)).2 ∨ more.head? = some '?' :=
    ends.imp_left fun held free => held (textFirst ▸ freeFirst.append free)
  have schemes := @splitScheme_append (cleaned url) more (scheme ▸ named)
  have netlocs := splitNetloc_append (netloc ▸ located) endsRest
  have text := cleaned_append some_ plain
  have parsed : urlparse [] (url ++ more) = some (withParams ⟨parts.scheme, parts.netloc,
      pathOf ((splitNetloc (splitScheme [] (cleaned url)).2).2 ++ more), [],
      queryOf ((splitNetloc (splitScheme [] (cleaned url)).2).2 ++ more),
      fragmentOf ((splitNetloc (splitScheme [] (cleaned url)).2).2 ++ more)⟩) := by
    unfold urlparse urlsplit
    rw [text]
    simp only [schemes, netlocs, valid, if_true, Option.map_some, scheme, netloc]
  have kept := withParams_same ⟨parts.scheme, parts.netloc,
      pathOf ((splitNetloc (splitScheme [] (cleaned url)).2).2 ++ more), [],
      queryOf ((splitNetloc (splitScheme [] (cleaned url)).2).2 ++ more),
      fragmentOf ((splitNetloc (splitScheme [] (cleaned url)).2).2 ++ more)⟩
  refine ⟨_, parsed, kept.1, kept.2.1, ?_, ?_, ?_⟩
  · rw [urlparse_query parsed, text]
  · rw [urlparse_fragment parsed, text]
  · intro whole
    have text : cleaned url = first ++ second ++ (splitNetloc (splitScheme [] (cleaned url)).2).2 := by
      rw [List.append_assoc, ← textSecond, ← textFirst]
    have noHash : '#' ∉ (splitNetloc (splitScheme [] (cleaned url)).2).2 := by
      intro held
      exact whole (text ▸ List.mem_append_right _ held)
    have marked : '?' ∈ (splitNetloc (splitScheme [] (cleaned url)).2).2 ∨
        more.head? = some '?' := by
      refine ends.imp_left fun held => ?_
      by_contra absent
      exact held (text ▸ (freeFirst.append freeSecond).append ⟨absent, noHash⟩)
    have still := pathOf_append noHash (fun held => (plain _ held).2 rfl) marked
    exact (withParams_path scheme still).trans (congrArg Parts.path shape.symm)

end parse

/-! ## Taking apart what was put together -/

/-- Parts as parsing leaves them. -/
structure Sound (parts : Parts) : Prop where
  netloc : ∀ c ∈ parts.netloc, delimiter c = false
  path : Free parts.path
  params : Free parts.params
  query : '#' ∉ parts.query
  kept : ∀ c ∈ parts.netloc ++ parts.path ++ parts.params ++ parts.query ++ parts.fragment,
    removed c = false

theorem of_splitParams (path : List Char) :
    (∀ c ∈ (splitParams path).1, c ∈ path) ∧ ∀ c ∈ (splitParams path).2, c ∈ path := by
  have directory : ∀ c ∈ (path.reverse.dropWhile (· != '/')).reverse, c ∈ path := by
    intro c held
    exact List.mem_reverse.mp ((List.dropWhile_suffix _).subset (List.mem_reverse.mp held))
  have segment : ∀ c ∈ (path.reverse.takeWhile (· != '/')).reverse, c ∈ path := by
    intro c held
    exact List.mem_reverse.mp ((List.takeWhile_prefix _).subset (List.mem_reverse.mp held))
  unfold splitParams
  simp only
  split
  · refine ⟨fun c held => ?_, fun c held => segment c (mem_of_after held)⟩
    rcases List.mem_append.mp held with held | held
    · exact directory c held
    · exact segment c (mem_of_before held)
  · exact ⟨fun c held => held, fun c held => nomatch held⟩

theorem of_withParams {parts : Parts} (none_ : parts.params = []) :
    (∀ c ∈ (withParams parts).path, c ∈ parts.path) ∧
      ∀ c ∈ (withParams parts).params, c ∈ parts.path := by
  unfold withParams
  split
  · exact of_splitParams parts.path
  · rw [none_]
    exact ⟨fun c held => held, fun c held => absurd held List.not_mem_nil⟩

theorem kept_of_cleaned {url : List Char} : ∀ c ∈ cleaned url, removed c = false := by
  intro c held
  simpa using (List.mem_filter.mp held).2

theorem free_of_subset {text within : List Char} (free : Free within)
    (subset : ∀ c ∈ text, c ∈ within) : Free text :=
  ⟨fun held => free.1 (subset _ held), fun held => free.2 (subset _ held)⟩

theorem free_pathOf (text : List Char) : Free (pathOf text) :=
  ⟨not_mem_before, fun held => not_mem_before (mem_of_before held)⟩

theorem urlparse_sound [NetlocChecks] {default url : List Char} {parts : Parts}
    (parses : urlparse default url = some parts) : Sound parts := by
  have query := urlparse_query parses
  have fragment := urlparse_fragment parses
  have plain := urlparse_netloc_plain parses
  obtain ⟨-, shape⟩ := of_urlparse parses
  obtain ⟨first, -, textFirst⟩ := splitScheme_prefix default (cleaned url)
  obtain ⟨second, -, textSecond⟩ := splitNetloc_prefix (splitScheme default (cleaned url)).2
  have within : ∀ c ∈ (splitScheme default (cleaned url)).2, c ∈ cleaned url := fun c held =>
    textFirst ▸ List.mem_append_right _ held
  have rest : ∀ c ∈ (splitNetloc (splitScheme default (cleaned url)).2).2, c ∈ cleaned url :=
    fun c held => within c (textSecond ▸ List.mem_append_right _ held)
  have netloc : ∀ c ∈ parts.netloc, c ∈ cleaned url := by
    intro c held
    rw [shape, (withParams_same _).2.1] at held
    exact within c (of_located held)
  have ⟨paths, params⟩ := @of_withParams ⟨(splitScheme default (cleaned url)).1,
    (splitNetloc (splitScheme default (cleaned url)).2).1,
    pathOf (splitNetloc (splitScheme default (cleaned url)).2).2, [],
    queryOf (splitNetloc (splitScheme default (cleaned url)).2).2,
    fragmentOf (splitNetloc (splitScheme default (cleaned url)).2).2⟩ rfl
  rw [← shape] at paths params
  have located : ∀ c ∈ pathOf (splitNetloc (splitScheme default (cleaned url)).2).2,
      c ∈ cleaned url := fun c held => rest c (mem_of_before (mem_of_before held))
  refine ⟨plain, free_of_subset (free_pathOf _) paths, free_of_subset (free_pathOf _) params,
    ?_, ?_⟩
  · rw [query]
    exact fun held => not_mem_before (mem_of_after held)
  · intro c held
    refine @kept_of_cleaned url c ?_
    simp only [List.mem_append] at held
    rcases held with (((held | held) | held) | held) | held
    · exact netloc c held
    · exact located c (paths c held)
    · exact located c (params c held)
    · exact mem_of_before (mem_of_after (query ▸ held))
    · exact mem_of_after (fragment ▸ held)

/-- A scheme as parsing leaves it. -/
structure Named (scheme : List Char) : Prop where
  first : scheme.head?.any (·.isAlpha) = true
  chars : scheme.all schemeChar = true
  lower : scheme.map (·.toLower) = scheme

theorem splitScheme_named {scheme : List Char} (named : Named scheme) (default rest : List Char) :
    splitScheme default (scheme ++ ':' :: rest) = (scheme, rest) := by
  have absent : ':' ∉ scheme := fun held =>
    (schemeChar_ne (List.all_eq_true.mp named.chars _ held)).2.2 rfl
  have head : before ':' (scheme ++ ':' :: rest) = scheme := by
    rw [before_append_absent absent, before_cons_self, List.append_nil]
  have has : hasScheme (scheme ++ ':' :: rest) = true := by
    simp only [hasScheme, Bool.and_eq_true, List.contains_iff_mem, head]
    refine ⟨⟨by simp, ?_⟩, named.chars⟩
    have first := named.first
    cases scheme with
    | nil => cases first
    | cons c scheme => exact first
  unfold splitScheme
  rw [if_pos has, head, named.lower, after_append_absent absent, after_cons_self]

theorem splitNetloc_located {netloc rest : List Char}
    (plain : ∀ c ∈ netloc, delimiter c = false) (stop : ∀ c ∈ rest.head?, delimiter c = true) :
    splitNetloc ('/' :: '/' :: (netloc ++ rest)) = (netloc, rest) := by
  have all : ∀ c ∈ netloc, (!delimiter c) = true := fun c held => by rw [plain c held]; rfl
  show ((netloc ++ rest).takeWhile (!delimiter ·), (netloc ++ rest).dropWhile (!delimiter ·)) = _
  rw [List.takeWhile_append_of_pos all, List.dropWhile_append_of_pos all]
  cases rest with
  | nil => rw [List.takeWhile_nil, List.dropWhile_nil, List.append_nil]
  | cons c rest =>
      have first := stop c rfl
      rw [List.takeWhile_cons_of_neg (by simp [first]), List.dropWhile_cons_of_neg (by simp [first]),
        List.append_nil]

/-- A text that begins with a letter and holds no removed character is its own cleaned form. -/
theorem cleaned_same {text : List Char} (first : text.head?.any (·.isAlpha) = true)
    (kept : ∀ c ∈ text, removed c = false) : cleaned text = text := by
  unfold cleaned
  cases text with
  | nil => rfl
  | cons c text =>
      have high : decide (c.toNat ≤ 32) = false := by
        have letter : c.isAlpha = true := first
        simp only [decide_eq_false_iff_not, Char.toNat]
        rcases Bool.or_eq_true_iff.mp letter with upper | lower
        · have between : c.val ≥ 'A'.val ∧ c.val ≤ 'Z'.val := of_decide_eq_true upper
          have : 65 ≤ c.val.toNat := between.1
          omega
        · have between : (decide (c.val ≥ 'a'.val) && decide (c.val ≤ 'z'.val)) = true := lower
          have : 97 ≤ c.val.toNat := of_decide_eq_true (Bool.and_eq_true_iff.mp between).1
          omega
      rw [List.dropWhile_cons_of_neg (by simp [high]), List.filter_eq_self]
      intro d held
      rw [kept d held]
      rfl

theorem removed_schemeChar {c : Char} (scheme : schemeChar c = true) : removed c = false := by
  by_contra bad
  rw [Bool.not_eq_false] at bad
  simp only [removed, Bool.or_eq_true, beq_iff_eq] at bad
  rcases bad with (rfl | rfl) | rfl <;>
  · revert scheme
    decide

/-- What stands below the location: a path that is empty or begins with a slash. -/
theorem of_hierarchy {parts : Parts} (sound : Sound parts) (located : parts.netloc ≠ []) :
    ∃ below, hierarchy parts = '/' :: '/' :: (parts.netloc ++ below) ∧ Free below ∧
      (∀ c ∈ below, removed c = false) ∧ ∀ c ∈ below.head?, c = '/' := by
  have kept := sound.kept
  simp only [List.mem_append] at kept
  have url : ∃ url, (if parts.params = [] then parts.path else parts.path ++ ';' :: parts.params)
      = url ∧ Free url ∧ ∀ c ∈ url, removed c = false := by
    refine ⟨_, rfl, ?_⟩
    split
    · exact ⟨sound.path, fun c held => kept c (by simp [held])⟩
    · refine ⟨sound.path.append (Free.cons (by decide) sound.params), ?_⟩
      intro c held
      rcases List.mem_append.mp held with held | held
      · exact kept c (by simp [held])
      · rcases List.mem_cons.mp held with rfl | held
        · rfl
        · exact kept c (by simp [held])
  obtain ⟨url, shape, free, plain⟩ := url
  unfold hierarchy
  rw [shape]
  simp only [if_pos (Or.inl located : parts.netloc ≠ [] ∨ _)]
  refine ⟨_, rfl, ?_⟩
  split
  · refine ⟨Free.cons (by decide) free, ?_, ?_⟩
    · intro c held
      rcases List.mem_cons.mp held with rfl | held
      · rfl
      · exact plain c held
    · intro c head
      exact (Option.some.inj head).symm
  · next rooted =>
      refine ⟨free, plain, ?_⟩
      intro c head
      cases url with
      | nil => cases head
      | cons d url =>
          rw [not_and_not_right] at rooted
          have slash := rooted (List.cons_ne_nil d url)
          exact (Option.some.inj (head.symm.trans slash))

section unparse
variable {parts : Parts} (sound : Sound parts) (named : Named parts.scheme)
  (located : parts.netloc ≠ [])

/-- The query and the fragment as `urlunparse` writes them. -/
def tails (parts : Parts) : List Char :=
  (if parts.query = [] then [] else '?' :: parts.query) ++
    (if parts.fragment = [] then [] else '#' :: parts.fragment)

include sound in
theorem of_tails : queryOf (tails parts) = parts.query ∧ fragmentOf (tails parts) = parts.fragment ∧
    (∀ c ∈ (tails parts).head?, delimiter c = true) := by
  have mark : '#' ∉ '?' :: parts.query := by
    rw [List.mem_cons, not_or]
    exact ⟨by decide, sound.query⟩
  unfold tails queryOf fragmentOf
  by_cases query : parts.query = [] <;> by_cases fragment : parts.fragment = []
  · rw [if_pos query, if_pos fragment, query, fragment]
    exact ⟨rfl, rfl, fun c head => nomatch head⟩
  · rw [if_pos query, if_neg fragment, query]
    refine ⟨by simp [before, after], by simp, ?_⟩
    rintro c ⟨⟩
    rfl
  · rw [if_neg query, if_pos fragment, fragment, List.append_nil, before_absent mark,
      after_absent mark]
    refine ⟨by simp, rfl, ?_⟩
    rintro c ⟨⟩
    rfl
  · rw [if_neg query, if_neg fragment, before_append_absent mark, after_append_absent mark]
    refine ⟨by simp, by simp, ?_⟩
    rintro c ⟨⟩
    rfl

include sound in
theorem kept_tails : ∀ c ∈ tails parts, removed c = false := by
  have kept := sound.kept
  simp only [List.mem_append] at kept
  intro c held
  rcases List.mem_append.mp held with held | held
  · split at held
    · cases held
    · rcases List.mem_cons.mp held with rfl | held
      · rfl
      · exact kept c (by simp [held])
  · split at held
    · cases held
    · rcases List.mem_cons.mp held with rfl | held
      · rfl
      · exact kept c (by simp [held])

include sound in
/-- Without a fragment no hash is written, and without a query no question mark. -/
theorem free_tails (whole : parts.fragment = []) :
    '#' ∉ tails parts ∧ (parts.query = [] → '?' ∉ tails parts) := by
  unfold tails
  rw [if_pos whole, List.append_nil]
  constructor
  · split
    · exact List.not_mem_nil
    · rw [List.mem_cons, not_or]
      exact ⟨by decide, sound.query⟩
  · intro none_
    rw [if_pos none_]
    exact List.not_mem_nil

include sound named located in
theorem urlunparse_shape : ∃ below, urlunparse parts =
      parts.scheme ++ ':' :: '/' :: '/' :: (parts.netloc ++ (below ++ tails parts)) ∧
    Free below ∧ (∀ c ∈ below, removed c = false) ∧ ∀ c ∈ below.head?, c = '/' := by
  obtain ⟨below, shape, free, kept, root⟩ := of_hierarchy sound located
  have scheme : parts.scheme ≠ [] := by
    intro empty
    have first := named.first
    rw [empty] at first
    cases first
  refine ⟨below, ?_, free, kept, root⟩
  unfold urlunparse tails
  rw [if_neg scheme, shape]
  simp only [List.append_assoc, List.cons_append]

include sound named located in
/-- A URL that was put together is its own cleaned form, free up to its query and fragment. -/
theorem urlunparse_cleaned : cleaned (urlunparse parts) = urlunparse parts ∧
    ∃ pre, Free pre ∧ urlunparse parts = pre ++ tails parts := by
  obtain ⟨below, shape, free, kept, -⟩ := urlunparse_shape sound named located
  have chars := List.all_eq_true.mp named.chars
  have netloc : ∀ c ∈ parts.netloc, removed c = false := fun c held =>
    sound.kept c (by simp [held])
  constructor
  · rw [shape]
    refine cleaned_same ?_ ?_
    · have first := named.first
      cases scheme : parts.scheme with
      | nil =>
          rw [scheme] at first
          cases first
      | cons c rest =>
          rw [scheme] at first
          exact first
    · intro c held
      simp only [List.mem_append, List.mem_cons] at held
      rcases held with held | rfl | rfl | rfl | held | held | held
      · exact removed_schemeChar (chars c held)
      · rfl
      · rfl
      · rfl
      · exact netloc c held
      · exact kept c held
      · exact kept_tails sound c held
  · refine ⟨parts.scheme ++ [':', '/', '/'] ++ parts.netloc ++ below, ?_, ?_⟩
    · exact (((free_of_schemeChars named.chars).append (by decide)).append
        (not_delimiter sound.netloc)).append free
    · rw [shape]
      simp

include sound named located in
/-- Parts that were put together are taken apart again, up to the path. -/
theorem urlparse_urlunparse [NetlocChecks] {again : Parts}
    (parses : urlparse [] (urlunparse parts) = some again) :
    again.scheme = parts.scheme ∧ again.netloc = parts.netloc ∧ again.query = parts.query ∧
      again.fragment = parts.fragment := by
  have query := urlparse_query parses
  have fragment := urlparse_fragment parses
  obtain ⟨same, pre, free, split⟩ := urlunparse_cleaned sound named located
  obtain ⟨below, shape, -, -, root⟩ := urlunparse_shape sound named located
  obtain ⟨queries, fragments, stop⟩ := of_tails sound
  rw [same, split, queryOf_append free, queries] at query
  rw [same, split, fragmentOf_append free, fragments] at fragment
  obtain ⟨-, parsed⟩ := of_urlparse parses
  have ends : ∀ c ∈ (below ++ tails parts).head?, delimiter c = true := by
    cases below with
    | nil => exact stop
    | cons c below =>
        intro d head
        rw [root d head]
        rfl
  rw [same, shape, splitScheme_named named, splitNetloc_located sound.netloc ends] at parsed
  rw [parsed]
  refine ⟨(withParams_same _).1, (withParams_same _).2.1, ?_, ?_⟩
  · rw [← parsed, query]
  · rw [← parsed, fragment]

end unparse

/-! ## Joining -/

theorem mem_of_splitOn {text segment : List Char} {separator : Char}
    (held : segment ∈ text.splitOn separator) : ∀ c ∈ segment, c ∈ text := by
  induction text generalizing segment with
  | nil =>
      rw [List.splitOn_nil, List.mem_singleton] at held
      rw [held]
      exact fun c none_ => none_
  | cons d text ih =>
      rw [List.splitOn_cons_eq_if_modifyHead] at held
      split at held
      · rcases List.mem_cons.mp held with rfl | held
        · exact fun c none_ => absurd none_ List.not_mem_nil
        · exact fun c found => List.mem_cons_of_mem _ (ih held c found)
      · cases shape : text.splitOn separator with
        | nil =>
            rw [shape] at held
            cases held
        | cons first rest =>
            rw [shape, List.modifyHead_cons] at held
            rcases List.mem_cons.mp held with rfl | held
            · intro c found
              rcases List.mem_cons.mp found with rfl | found
              · exact List.mem_cons_self
              · exact List.mem_cons_of_mem _ (ih (shape ▸ List.mem_cons_self) c found)
            · intro c found
              exact List.mem_cons_of_mem _ (ih (shape ▸ List.mem_cons_of_mem _ held) c found)

theorem mem_intercalate {separator : List Char} {segments : List (List Char)} {c : Char}
    (held : c ∈ separator.intercalate segments) :
    c ∈ separator ∨ ∃ segment ∈ segments, c ∈ segment := by
  induction segments with
  | nil => cases held
  | cons first rest ih =>
      by_cases last : rest = []
      · rw [last, List.intercalate_singleton] at held
        exact .inr ⟨first, List.mem_cons_self, held⟩
      · rw [List.intercalate_cons_of_ne_nil last, List.mem_append, List.mem_append] at held
        rcases held with (held | held) | held
        · exact .inr ⟨first, List.mem_cons_self, held⟩
        · exact .inl held
        · rcases ih held with found | ⟨segment, member, found⟩
          · exact .inl found
          · exact .inr ⟨segment, List.mem_cons_of_mem _ member, found⟩

theorem mem_withoutEmpty {segments : List (List Char)} :
    ∀ segment ∈ withoutEmpty segments, segment ∈ segments := by
  intro segment held
  cases segments with
  | nil => cases held
  | cons first rest =>
      unfold withoutEmpty at held
      rw [List.mem_cons, List.mem_append, List.mem_filter, Option.mem_toList] at held
      rcases held with rfl | ⟨held, -⟩ | held
      · exact List.mem_cons_self
      · exact List.mem_cons_of_mem _ ((List.dropLast_subset _) held)
      · exact List.mem_cons_of_mem _ (List.mem_of_getLast? held)

theorem mem_foldl_resolveSegment {segments resolved : List (List Char)} :
    ∀ segment ∈ segments.foldl resolveSegment resolved, segment ∈ resolved ∨ segment ∈ segments := by
  induction segments generalizing resolved with
  | nil => exact fun segment held => .inl held
  | cons first rest ih =>
      intro segment held
      rcases ih segment held with found | found
      · unfold resolveSegment at found
        split at found
        · exact .inl ((List.dropLast_subset _) found)
        split at found
        · exact .inl found
        · rcases List.mem_append.mp found with found | found
          · exact .inl found
          · exact .inr (List.mem_singleton.mp found ▸ List.mem_cons_self)
      · exact .inr (List.mem_cons_of_mem _ found)

/-- A resolved path holds characters of the two paths, and slashes. -/
theorem mem_resolvePath {base path : List Char} :
    ∀ c ∈ resolvePath base path, c = '/' ∨ c ∈ base ∨ c ∈ path := by
  intro c held
  unfold resolvePath at held
  simp only at held
  have slash : ∀ {text : List Char}, c ∈ (if text = [] then ['/'] else text) →
      c = '/' ∨ c ∈ text := by
    intro text found
    split at found
    · exact .inl (List.mem_singleton.mp found)
    · exact .inr found
  rcases slash held with rfl | held
  · exact .inl rfl
  rcases mem_intercalate held with found | ⟨segment, member, found⟩
  · exact .inl (List.mem_singleton.mp found)
  refine .inr ?_
  -- an empty segment that stands for a last dot holds no character
  have inFold : ∀ {cond : Prop} [Decidable cond] {resolved : List (List Char)},
      segment ∈ (if cond then resolved ++ [[]] else resolved) → segment ∈ resolved := by
    intro cond _ resolved member
    split at member
    · rcases List.mem_append.mp member with member | member
      · exact member
      · rw [List.mem_singleton.mp member] at found
        cases found
    · exact member
  rcases mem_foldl_resolveSegment segment (inFold member) with none_ | source
  · cases none_
  split at source
  · exact .inr (mem_of_splitOn source c found)
  · rcases List.mem_append.mp (mem_withoutEmpty segment source) with source | source
    · refine .inl (@mem_of_splitOn base segment '/' ?_ c found)
      split at source
      · exact source
      · exact (List.dropLast_subset _) source
    · exact .inr (mem_of_splitOn source c found)

theorem Sound.resolved {based parts : Parts} (base : Sound based) (sound : Sound parts) :
    Sound { parts with netloc := based.netloc, path := resolvePath based.path parts.path } := by
  have keptBase := base.kept
  have kept := sound.kept
  simp only [List.mem_append] at keptBase kept
  refine ⟨base.netloc, ?_, sound.params, sound.query, ?_⟩
  · constructor
    · intro held
      rcases mem_resolvePath _ held with same | held | held
      · exact absurd same (by decide)
      · exact base.path.1 held
      · exact sound.path.1 held
    · intro held
      rcases mem_resolvePath _ held with same | held | held
      · exact absurd same (by decide)
      · exact base.path.2 held
      · exact sound.path.2 held
  · intro c held
    simp only [List.mem_append] at held
    rcases held with (((held | held) | held) | held) | held
    · exact keptBase c (by simp [held])
    · rcases mem_resolvePath _ held with rfl | held | held
      · rfl
      · exact keptBase c (by simp [held])
      · exact kept c (by simp [held])
    · exact kept c (by simp [held])
    · exact kept c (by simp [held])
    · exact kept c (by simp [held])

theorem Sound.emptied {based parts : Parts} (base : Sound based) (sound : Sound parts) :
    Sound { parts with netloc := based.netloc, path := based.path, params := based.params } := by
  have keptBase := base.kept
  have kept := sound.kept
  simp only [List.mem_append] at keptBase kept
  refine ⟨base.netloc, base.path, base.params, sound.query, ?_⟩
  intro c held
  simp only [List.mem_append] at held
  rcases held with (((held | held) | held) | held) | held
  · exact keptBase c (by simp [held])
  · exact keptBase c (by simp [held])
  · exact keptBase c (by simp [held])
  · exact kept c (by simp [held])
  · exact kept c (by simp [held])

/-- A URL joined to a base without a query has another scheme, or is put together from parts that
keep its own location, query and fragment, or the location of the base. -/
theorem of_urljoin [NetlocChecks] {base url joined : List Char} {based : Parts}
    (parsed : urlparse [] base = some based) (noQuery : based.query = [])
    (relative : based.scheme ∈ usesRelative) (hosted : based.scheme ∈ usesNetloc)
    (base_ : base ≠ []) (some_ : url ≠ []) (joins : urljoin base url = some joined) :
    ∃ parts, urlparse based.scheme url = some parts ∧
      ((parts.scheme ≠ based.scheme ∧ joined = url) ∨
        ∃ built, joined = urlunparse built ∧ Sound built ∧ built.scheme = based.scheme ∧
          built.netloc = (if parts.netloc = [] then based.netloc else parts.netloc) ∧
          built.query = parts.query ∧ built.fragment = parts.fragment) := by
  unfold urljoin at joins
  rw [if_neg base_, if_neg some_, parsed] at joins
  simp only [Option.bind_eq_bind, Option.bind_some] at joins
  cases parses : urlparse based.scheme url with
  | none =>
      rw [parses] at joins
      cases joins
  | some parts =>
  rw [parses, Option.bind_some] at joins
  have soundBase := urlparse_sound parsed
  have sound := urlparse_sound parses
  refine ⟨parts, rfl, ?_⟩
  split at joins
  · next other =>
      -- another scheme: the reference is returned unchanged
      refine .inl ⟨?_, (Option.some.inj joins).symm⟩
      rcases other with other | other
      · exact other
      · intro same
        exact other (same ▸ relative)
  next same =>
  rw [not_or, not_not, not_not] at same
  obtain ⟨same, -⟩ := same
  have hosts : parts.scheme ∈ usesNetloc := same ▸ hosted
  refine .inr ?_
  split at joins
  · next own =>
      refine ⟨parts, (Option.some.inj joins).symm, sound, same, ?_, rfl, rfl⟩
      rw [if_neg own.2]
  next bare =>
  rw [not_and, not_not] at bare
  split at joins
  · refine ⟨_, (Option.some.inj joins).symm, ?_, same, ?_, ?_, rfl⟩
    · have emptied := soundBase.emptied sound
      refine ⟨emptied.netloc, emptied.path, emptied.params, ?_, ?_⟩
      · split
        · rw [noQuery]
          exact List.not_mem_nil
        · exact sound.query
      · intro c held
        refine emptied.kept c ?_
        simp only [List.mem_append] at held ⊢
        rcases held with (held | held) | held
        · exact .inl (.inl held)
        · refine .inl (.inr ?_)
          split at held
          · rw [noQuery] at held
            cases held
          · exact held
        · exact .inr held
    · rw [if_pos (bare hosts)]
    · split
      · next none_ => rw [noQuery, none_]
      · rfl
  · refine ⟨_, (Option.some.inj joins).symm, soundBase.resolved sound, same, ?_, rfl, rfl⟩
    rw [if_pos (bare hosts)]

/-! ## Quoting -/

def hexDigit (n : Nat) : Char := if n < 10 then Char.ofNat (48 + n) else Char.ofNat (55 + n)

/-- What `quote_plus` writes for a byte. -/
def quotedByte (n : Nat) : List Char :=
  let c := Char.ofNat n
  if n < 128 ∧ (c.isAlphanum ∨ c ∈ ['_', '.', '-', '~']) then [c]
  else if n = 32 then ['+']
  else ['%', hexDigit (n / 16), hexDigit (n % 16)]

def quotePlus (text : String) : List Char :=
  text.toUTF8.data.toList.flatMap fun byte => quotedByte byte.toNat

/-- `urlencode` of pairs of texts. -/
def urlencode (items : List (String × String)) : List Char :=
  ['&'].intercalate (items.map fun item => quotePlus item.1 ++ '=' :: quotePlus item.2)

/-- A character of an encoded query. -/
def encodedChar (c : Char) : Bool := c.isAlphanum || ['_', '.', '-', '~', '+', '%', '&', '='].contains c

theorem quotedByte_encoded : ∀ n < 256, (quotedByte n).all encodedChar = true := by
  decide +kernel

theorem quotePlus_encoded (text : String) : ∀ c ∈ quotePlus text, encodedChar c = true := by
  intro c held
  obtain ⟨byte, -, found⟩ := List.mem_flatMap.mp held
  exact List.all_eq_true.mp (quotedByte_encoded byte.toNat byte.toNat_lt) c found

theorem encoded_plain {c : Char} (encoded : encodedChar c = true) : removed c = false ∧ c ≠ '#' := by
  constructor
  · by_contra bad
    rw [Bool.not_eq_false] at bad
    simp only [removed, Bool.or_eq_true, beq_iff_eq] at bad
    rcases bad with (rfl | rfl) | rfl <;>
    · revert encoded
      decide
  · rintro rfl
    revert encoded
    decide

theorem urlencode_plain (items : List (String × String)) : Plain (urlencode items) := by
  intro c held
  refine encoded_plain ?_
  rcases mem_intercalate held with found | ⟨segment, member, found⟩
  · rw [List.mem_singleton.mp found]
    rfl
  · obtain ⟨item, -, rfl⟩ := List.mem_map.mp member
    rw [List.mem_append, List.mem_cons] at found
    rcases found with found | rfl | found
    · exact quotePlus_encoded _ c found
    · rfl
    · exact quotePlus_encoded _ c found

end Base.Urls
