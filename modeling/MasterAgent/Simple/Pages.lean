import MasterAgent.Simple.Transport

/-!
# Pagination of the simple providers

`Providers._pages`, whose consumer may stop it at any item, and the three ways in which a server
pages a list.

Results:

1. `wp_pages`: a traversal makes no more than `MAX_PAGES` reads and nothing else;
2. `pages_complete`: what a traversal of a consistent server yields;
3. `pages_discovered`: a consumer that does not stop has seen all that a traversal yields.
-/

namespace MasterAgent.Simple
open Base Base.Effect

/-! ## Settings -/

/-- A section of the configuration. -/
structure Section where
  url : String
  deployment : String

/-- `Providers`: the sections, and what making a client raises. -/
structure Providers where
  config : String → Option Section
  connect : String → Except Raised Unit

section
variable [ProviderLibrary]
open ProviderLibrary

namespace Providers

/-- `_settings` -/
def settings (self : Providers) (name : String) : Except Raised Section :=
  match self.config name with
  | none => .error (providerError ("Configure " ++ name ++ ".url before using this tool."))
  | some section_ =>
      if section_.url = "" then
        .error (providerError ("Configure " ++ name ++ ".url before using this tool."))
      else if section_.deployment ≠ "cloud" ∧ section_.deployment ≠ "server" then
        .error (providerError ("Set " ++ name ++ ".deployment to cloud or server."))
      else .ok section_

/-- `_cloud` -/
def cloud (self : Providers) (name : String) : Except Raised Bool := do
  let section_ ← self.settings name
  .ok (section_.deployment == "cloud")

/-- `_base` -/
def base (self : Providers) (name : String) : Except Raised String := do
  let section_ ← self.settings name
  let base := rstripSlashes section_.url
  validateUrl base base
  let cloud ← self.cloud name
  if name = "bitbucket" ∧ cloud = true ∧ base ≠ "https://bitbucket.org" then
    .error (providerError "Set Bitbucket Cloud URL to https://bitbucket.org.")
  else if name = "confluence" ∧ cloud = true then
    match urlsplit base with
    | none => .error .valueError
    | some parsed => .ok (if parsed.path = "" then base ++ "/wiki" else base)
  else .ok base

/-- The base URL of the API. -/
def apiBase (self : Providers) (name : String) : Except Raised String := do
  let cloud ← self.cloud name
  if name = "bitbucket" ∧ cloud = true then .ok "https://api.bitbucket.org/2.0"
  else self.base name

/-- `_request`, with `_client` -/
def request (self : Providers) (network : Network) (name : String) (method : Method)
    (path : String) (data : Option Json) : Session Json := do
  liftExcept (discard (self.settings name))
  let base ← liftExcept (self.base name)
  let api ← liftExcept (self.cloud name)
  liftExcept (self.connect name)
  Simple.request network
    (if name = "bitbucket" ∧ api = true then "https://api.bitbucket.org/2.0" else base)
    method path data

end Providers

/-! ## Pages -/

def MAX_PAGES : Nat := 10

/-- The truth of a value. -/
def truthy : Json → Bool
  | .null => false
  | .bool b => b
  | .int n => n != 0
  | .float f => f.text.toList.any fun c => '1' ≤ c && c ≤ '9'
  | .str s => s != ""
  | .arr items => !items.isEmpty
  | .obj fields => !fields.isEmpty

/-- `str` -/
def str : Json → String
  | .str s => s
  | value => repr value

/-- `int` -/
def toInt : Json → Except Raised Int
  | .int n => .ok n
  | .bool b => .ok (if b then 1 else 0)
  | value => int value

/-- `data.get(key, default)` of a dictionary. -/
def member (data : Json) (key : String) (default : Json) : Json := (data.get? key).getD default

/-- The path with another value of a parameter. -/
def withParameter (path key value : String) : Except Raised String :=
  match urlsplit path with
  | none => .error .valueError
  | some parsed =>
      let query := parse_qs parsed.query
      let query := if query.any (·.1 == key) then
          query.map fun entry => if entry.1 == key then (key, [value]) else entry
        else query ++ [(key, [value])]
      .ok (urlunsplit parsed.path (urlencode query))

/-- `data["next"]` -/
def linkedPage (self : Providers) (name path nextUrl : String) : Except Raised String := do
  let base ← self.apiBase name
  validateUrl nextUrl base
  match urlsplit (base ++ "/" ++ path), urlsplit nextUrl with
  | some expected, some parsed =>
      if parsed.path ≠ expected.path then
        .error (providerError "Provider pagination changed its API endpoint.")
      else .ok nextUrl
  | _, _ => .error .valueError

/-- `data["nextPageStart"]` -/
def offsetPage (path : String) : Json → Except Raised String
  | .int nextStart =>
      if nextStart < 0 then
        .error (providerError "Provider pagination omitted its next offset.")
      else withParameter path "start" (toString nextStart)
  | .bool nextStart => withParameter path "start" (if nextStart then "True" else "False")
  | _ => .error (providerError "Provider pagination omitted its next offset.")

/-- `data["startAt"]` and `data["total"]` -/
def countedPage (path : String) (startAt total : Int) (count : Nat) :
    Except Raised (Option String) :=
  if startAt + count < total then
    if count = 0 then
      .error (providerError "Provider returned an empty page before discovery completed.")
    else (withParameter path "startAt" (toString (startAt + count))).map some
  else .ok none

/-- The page that follows one with this many values, if any. -/
def nextPage (self : Providers) (name path field : String) (data : Json) (count : Nat) :
    Except Raised (Option String) :=
  if truthy (member data "next" .null) then
    (linkedPage self name path (str (member data "next" .null))).map some
  else if member data "isLastPage" .null = .bool false then
    (offsetPage path (member data "nextPageStart" .null)).map some
  else if field = "comments" then do
    let startAt ← toInt (member data "startAt" (.int 0))
    let total ← toInt (member data "total" (.int 0))
    countedPage path startAt total count
  else .ok none

/-- The consumer of the items: it goes on with an accumulator, or stops with a result. -/
abbrev Consumer (A R : Type) := A → Json → Except Raised (A ⊕ R)

section
variable {A R : Type}

/-- `data[field]` -/
def pageValues (data : Json) (field : String) : Except Raised (List Json) :=
  match data.get? field with
  | some (.arr values) => .ok values
  | _ => .error (providerError "Provider returned an unexpected paginated response.")

/-- The items of one page. -/
def consume (body : Consumer A R) : A → List Json → Except Raised (A ⊕ R)
  | a, [] => .ok (.inl a)
  | a, .obj fields :: rest => do
      match ← body a (.obj fields) with
      | .inl a => consume body a rest
      | .inr result => .ok (.inr result)
  | _, _ :: _ => .error (providerError "Provider returned an unexpected item.")

/-- What follows the consumption of a page. -/
def pagesOn (proceed : String → A → Session (A ⊕ R)) (next_ : Except Raised (Option String)) :
    A ⊕ R → Session (A ⊕ R)
  | .inr result => pure (.inr result)
  | .inl a => do
      match ← liftExcept next_ with
      | none => pure (.inl a)
      | some url => proceed url a

/-- The rounds of `_pages`, from a page and the pages seen. -/
def pagesFrom (self : Providers) (network : Network) (name path field : String)
    (body : Consumer A R) : Nat → List String → String → A → Session (A ⊕ R)
  | 0, _, _, _ => Effect.raise (providerError
      ("Discovery exceeded " ++ toString MAX_PAGES ++
        " pages; narrow the target before retrying."))
  | rounds + 1, seen, current, a =>
      if current ∈ seen then
        Effect.raise (providerError
          "Provider pagination repeated a page; discovery is incomplete.")
      else do
        let data ← self.request network name .get current none
        let values ← liftExcept (pageValues data field)
        let consumed ← liftExcept (consume body a values)
        pagesOn (pagesFrom self network name path field body rounds (current :: seen))
          (nextPage self name path field data values.length) consumed

/-- `for item in self._pages(name, path, field)` -/
def pages (self : Providers) (network : Network) (name path field : String) (body : Consumer A R)
    (a : A) : Session (A ⊕ R) :=
  pagesFrom self network name path field body MAX_PAGES [] path a

end

/-- The consumer that takes everything. -/
def collect : Consumer (List Json) Empty := fun items item => .ok (.inl (items ++ [item]))

/-! ## What a traversal sends -/

section
variable {self : Providers} {network : Network} {name path field : String} {A R : Type}
  {body : Consumer A R} {history : History}

/-- Reads have been added to the attempts, for so many requests at most. -/
def Reads (n : Nat) (history h : History) : Prop :=
  ∃ added, h = history ++ added ∧ (∀ attempt ∈ added, attempt.method = .get) ∧
    (added.filter fun attempt => attempt.number = 0).length ≤ n

omit [ProviderLibrary] in
theorem Reads.refl {n : Nat} : Reads n history history :=
  ⟨[], (List.append_nil _).symm, nofun, Nat.zero_le _⟩

omit [ProviderLibrary] in
theorem Reads.trans {n m : Nat} {h h' : History} (first : Reads n history h)
    (second : Reads m h h') : Reads (n + m) history h' := by
  obtain ⟨added, rfl, gets, few⟩ := first
  obtain ⟨more, rfl, gets', few'⟩ := second
  refine ⟨added ++ more, List.append_assoc .., fun attempt listed => ?_, ?_⟩
  · exact (List.mem_append.mp listed).elim (gets attempt) (gets' attempt)
  · rw [List.filter_append, List.length_append]
    exact Nat.add_le_add few few'

omit [ProviderLibrary] in
theorem Reads.mono {n m : Nat} {h : History} (more : n ≤ m) (reads : Reads n history h) :
    Reads m history h := by
  obtain ⟨added, shape, gets, few⟩ := reads
  exact ⟨added, shape, gets, Nat.le_trans few more⟩

omit [ProviderLibrary] in
/-- Only the first attempt of a request has number zero. -/
theorem reads_tries {data : Option Json} {count : Nat} :
    Reads 1 history (history ++ tries .get path data 0 count) := by
  refine ⟨_, rfl, fun attempt listed => ?_, ?_⟩
  · obtain ⟨k, -, rfl⟩ := List.mem_map.mp listed
    rfl
  · cases count with
    | zero => exact Nat.zero_le _
    | succ count =>
        have later : (tries .get path data 1 count).filter (fun a => a.number = 0) = [] := by
          rw [List.filter_eq_nil_iff]
          intro attempt listed first
          obtain ⟨k, within, rfl⟩ := List.mem_map.mp listed
          have := List.left_le_of_mem_range' within
          have := of_decide_eq_true first
          dsimp only at this
          omega
        show (List.filter _ (⟨.get, path, data, 0⟩ :: tries .get path data 1 count)).length ≤ 1
        rw [List.filter_cons_of_pos (by rfl), later]
        exact Nat.le_refl _

/-- The last attempt is a read of this path, and its reply is the value. -/
def Received (network : Network) (path : String) (value : Json) (h : History) : Prop :=
  ∃ before attempt, h = before ++ [attempt] ∧ attempt.method = .get ∧ attempt.path = path ∧
    Answered network true value h

theorem wp_read :
    wp (self.request network name .get path none)
      (fun value h => Reads 1 history h ∧ Received network path value h)
      (fun _ h => Reads 1 history h) (fun _ => False) history := by
  unfold Providers.request
  refine wp_bind.mpr (wp_liftExcept.mpr ⟨fun _ _ => ?_, fun _ _ => Reads.refl⟩)
  refine wp_bind.mpr (wp_liftExcept.mpr ⟨fun _ _ => ?_, fun _ _ => Reads.refl⟩)
  refine wp_bind.mpr (wp_liftExcept.mpr ⟨fun _ _ => ?_, fun _ _ => Reads.refl⟩)
  refine wp_bind.mpr (wp_liftExcept.mpr ⟨fun _ _ => ?_, fun _ _ => Reads.refl⟩)
  refine wp_mono wp_request_get ?_ ?_ fun _ => id
  · rintro value h ⟨count, some_, rfl, answered⟩
    refine ⟨reads_tries, ?_⟩
    obtain ⟨count, rfl⟩ := Nat.exists_eq_succ_of_ne_zero (Nat.ne_of_gt some_)
    have last : tries .get path none 0 (count + 1) =
        tries .get path none 0 count ++ [⟨.get, path, none, count⟩] := by
      unfold tries
      rw [List.range'_concat, List.map_append, Nat.zero_add, Nat.one_mul]
      rfl
    refine ⟨history ++ tries .get path none 0 count, ⟨.get, path, none, count⟩, ?_, rfl, rfl,
      answered⟩
    rw [last, List.append_assoc]
  · rintro raised h ⟨count, rfl⟩
    exact reads_tries

theorem wp_pagesFrom {rounds : Nat} {seen : List String} {current : String} {a : A} :
    wp (pagesFrom self network name path field body rounds seen current a)
      (fun _ h => Reads rounds history h) (fun _ h => Reads rounds history h) (fun _ => False)
      history := by
  induction rounds generalizing seen current a history with
  | zero => exact wp_raise.mpr Reads.refl
  | succ rounds ih =>
  unfold pagesFrom
  split
  · exact wp_raise.mpr Reads.refl
  have longer {h : History} (one : Reads 1 history h) : Reads (rounds + 1) history h :=
    one.mono (Nat.succ_le_succ (Nat.zero_le _))
  refine wp_bind.mpr (wp_mono wp_read ?_ (fun _ h => longer) fun _ => id)
  rintro data h ⟨one, -⟩
  refine wp_bind.mpr (wp_liftExcept.mpr ⟨fun values _ => ?_, fun _ _ => longer one⟩)
  refine wp_bind.mpr (wp_liftExcept.mpr ⟨fun consumed _ => ?_, fun _ _ => longer one⟩)
  cases consumed with
  | inr result => exact longer one
  | inl a =>
      refine wp_bind.mpr (wp_liftExcept.mpr ⟨fun next_ _ => ?_, fun _ _ => longer one⟩)
      cases next_ with
      | none => exact longer one
      | some url =>
          have rest {h' : History} (more : Reads rounds h h') : Reads (rounds + 1) history h' := by
            rw [Nat.add_comm]
            exact one.trans more
          exact wp_mono ih (fun _ _ => rest) (fun _ _ => rest) fun _ => id

/-- A traversal makes no more reads than there may be pages. -/
theorem wp_pages {a : A} :
    wp (pages self network name path field body a) (fun _ h => Reads MAX_PAGES history h)
      (fun _ h => Reads MAX_PAGES history h) (fun _ => False) history := wp_pagesFrom

/-! ## Consistent servers -/

/-- Every read of a path that is answered has the page as its answer. -/
def Serves (network : Network) (page : String → Json) : Prop :=
  ∀ path value h, Received network path value h → value = page path

/-- The page carries none of the members that announce another one. -/
def Bare (data : Json) : Prop :=
  data.get? "next" = none ∧ data.get? "isLastPage" = none ∧ data.get? "startAt" = none ∧
    data.get? "total" = none

/-- A server that pages by links. What remains is known for every address. -/
def LinkServer (page : String → Json) (field : String) (remaining : String → List Json) : Prop :=
  ∀ url, ∃ values, (page url).get? field = some (.arr values) ∧
    ((Bare (page url) ∧ values = remaining url) ∨
      ∃ link, (page url).get? "next" = some (.str link) ∧ link ≠ "" ∧
        values ++ remaining link = remaining url)

/-- A server that pages by offsets, which it reads from the address. -/
structure OffsetServer (page : String → Json) (path field : String)
    (remaining : Nat → List Json) (reads : String → Nat) : Prop where
  first : reads path = 0
  later : ∀ (offset : Nat) url,
    withParameter path "start" (toString (offset : Int)) = .ok url → reads url = offset
  answers : ∀ url, ∃ values, (page url).get? field = some (.arr values) ∧
    (page url).get? "next" = none ∧
    (((page url).get? "isLastPage" = some (.bool true) ∧ (page url).get? "startAt" = none ∧
        (page url).get? "total" = none ∧ values = remaining (reads url)) ∨
      ∃ offset : Nat, (page url).get? "isLastPage" = some (.bool false) ∧
        (page url).get? "nextPageStart" = some (.int offset) ∧
        values ++ remaining offset = remaining (reads url))

/-- A server that pages by `startAt` and `total`, with no empty page before the end. -/
structure TotalServer (page : String → Json) (path field : String) (items : List Json)
    (reads : String → Nat) : Prop where
  first : reads path = 0
  later : ∀ (offset : Nat) url, offset ≤ items.length →
    withParameter path "startAt" (toString (offset : Int)) = .ok url → reads url = offset
  answers : ∀ url, ∃ values, (page url).get? field = some (.arr values) ∧
    (page url).get? "next" = none ∧ (page url).get? "isLastPage" = none ∧
    (page url).get? "startAt" = some (.int (reads url)) ∧
    (page url).get? "total" = some (.int items.length) ∧
    values <+: items.drop (reads url) ∧ (reads url < items.length → values ≠ [])

/-- Each page holds the first of what remains at its address, and leads to the rest of it. -/
def Continues (self : Providers) (name path field : String) (page : String → Json)
    (remaining : String → List Json) (served : String → Prop) : Prop :=
  ∀ url, served url → ∃ values, (page url).get? field = some (.arr values) ∧
    ∀ next_, nextPage self name path field (page url) values.length = .ok next_ →
      match next_ with
      | none => values = remaining url
      | some url' => served url' ∧ values ++ remaining url' = remaining url

omit [ProviderLibrary] in
theorem consume_collect : ∀ {values items : List Json} {r : List Json ⊕ Empty},
    consume collect items values = .ok r → r = .inl (items ++ values)
  | [], items, _, h => by
      cases h
      rw [List.append_nil]
  | .obj fields :: rest, items, r, h => by
      have later : r = .inl ((items ++ [.obj fields]) ++ rest) := consume_collect h
      rw [later, List.append_assoc]
      rfl

theorem wp_pagesFrom_collect {page : String → Json} {remaining : String → List Json}
    {served : String → Prop} (serves : Serves network page)
    (continues : Continues self name path field page remaining served) {rounds : Nat}
    {seen : List String} {current : String} {items : List Json} (here : served current) :
    wp (pagesFrom self network name path field collect rounds seen current items)
      (fun r _ => r = .inl (items ++ remaining current)) (fun _ _ => True) (fun _ => False)
      history := by
  induction rounds generalizing seen current items history with
  | zero => exact trivial
  | succ rounds ih =>
  unfold pagesFrom
  split
  · exact trivial
  refine wp_bind.mpr (wp_mono wp_read ?_ (fun _ _ _ => trivial) fun _ => id)
  rintro data h ⟨-, received⟩
  obtain rfl := serves _ _ _ received
  obtain ⟨values, found, leads⟩ := continues current here
  refine wp_bind.mpr (wp_liftExcept.mpr ⟨fun values' read => ?_, fun _ _ => trivial⟩)
  unfold pageValues at read
  rw [found] at read
  cases read
  refine wp_bind.mpr (wp_liftExcept.mpr ⟨fun consumed taken => ?_, fun _ _ => trivial⟩)
  obtain rfl := consume_collect taken
  refine wp_bind.mpr (wp_liftExcept.mpr ⟨fun next_ led => ?_, fun _ _ => trivial⟩)
  have step := leads next_ led
  cases next_ with
  | none =>
      dsimp only at step
      exact congrArg (fun rest => Sum.inl (items ++ rest)) step
  | some url =>
      obtain ⟨served', rest⟩ := step
      refine wp_mono (ih served') ?_ (fun _ _ => id) fun _ => id
      rintro r _ rfl
      rw [List.append_assoc, rest]

/-- A traversal of a server that is consistent yields what remains at its first address. -/
theorem pages_complete {page : String → Json} {remaining : String → List Json}
    {served : String → Prop} (serves : Serves network page)
    (continues : Continues self name path field page remaining served) (here : served path) :
    wp (pages self network name path field collect [])
      (fun r _ => r = .inl (remaining path)) (fun _ _ => True) (fun _ => False) history :=
  wp_pagesFrom_collect serves continues here

omit [ProviderLibrary] in
theorem member_none {data : Json} {key : String} {default : Json} (absent : data.get? key = none) :
    member data key default = default := by
  unfold member
  rw [absent]
  rfl

omit [ProviderLibrary] in
theorem member_some {data value : Json} {key : String} {default : Json}
    (found : data.get? key = some value) : member data key default = value := by
  unfold member
  rw [found]
  rfl

theorem linkedPage_ok {link url : String} (h : linkedPage self name path link = .ok url) :
    url = link := by
  unfold linkedPage at h
  obtain ⟨base, -, h⟩ := of_bind_ok h
  obtain ⟨-, -, h⟩ := of_bind_ok h
  split at h
  · split at h
    · cases h
    · cases h
      rfl
  · cases h

omit [ProviderLibrary] in
theorem of_map_some {result : Except Raised String} {next_ : Option String}
    (h : result.map some = .ok next_) : ∃ url, result = .ok url ∧ next_ = some url := by
  cases result with
  | ok url =>
      cases h
      exact ⟨url, rfl, rfl⟩
  | error raised => cases h

/-- Without a member that announces another page there is none. -/
theorem nextPage_last {data : Json} {count : Nat} (none_ : data.get? "next" = none)
    (last : member data "isLastPage" .null ≠ .bool false) (start : data.get? "startAt" = none)
    (total : data.get? "total" = none) : nextPage self name path field data count = .ok none := by
  unfold nextPage
  rw [member_none none_, if_neg (by decide), if_neg last, member_none start, member_none total]
  split
  · have enough : ¬(0 : Int) + count < 0 := by omega
    show countedPage path 0 0 count = .ok none
    unfold countedPage
    exact if_neg enough
  · rfl

theorem LinkServer.continues {page : String → Json} {remaining : String → List Json}
    (h : LinkServer page field remaining) :
    Continues self name path field page remaining fun _ => True := by
  intro url _
  obtain ⟨values, found, ⟨⟨none_, last, start, total⟩, rest⟩ | ⟨link, next_, some_, rest⟩⟩ := h url
  · refine ⟨values, found, fun next_ led => ?_⟩
    have last : member (page url) "isLastPage" .null ≠ .bool false := by
      rw [member_none last]
      nofun
    rw [nextPage_last none_ last start total] at led
    cases led
    exact rest
  · refine ⟨values, found, fun next_' led => ?_⟩
    unfold nextPage at led
    rw [member_some next_, if_pos (by simpa [truthy] using some_)] at led
    obtain ⟨url', linked, rfl⟩ := of_map_some led
    rw [show url' = link from linkedPage_ok linked]
    exact ⟨trivial, rest⟩

theorem OffsetServer.continues {page : String → Json} {remaining : Nat → List Json}
    {reads : String → Nat} (h : OffsetServer page path field remaining reads) :
    Continues self name path field page (fun url => remaining (reads url)) fun _ => True := by
  intro url _
  obtain ⟨values, found, none_, ⟨last, start, total, rest⟩ | ⟨offset, more, next_, rest⟩⟩ :=
    h.answers url
  · refine ⟨values, found, fun next_ led => ?_⟩
    have last : member (page url) "isLastPage" .null ≠ .bool false := by
      rw [member_some last]
      nofun
    rw [nextPage_last none_ last start total] at led
    cases led
    exact rest
  · refine ⟨values, found, fun next_' led => ?_⟩
    unfold nextPage at led
    rw [member_none none_, if_neg (by decide), member_some more, if_pos rfl, member_some next_] at led
    obtain ⟨url', rewritten, rfl⟩ := of_map_some led
    have positive : ¬(offset : Int) < 0 := by omega
    dsimp only [offsetPage] at rewritten
    rw [if_neg positive] at rewritten
    refine ⟨trivial, ?_⟩
    show values ++ remaining (reads url') = _
    rw [h.later offset url' rewritten, rest]

/-- The third way of paging is known for the field `comments` only. -/
theorem TotalServer.continues {page : String → Json} {items : List Json} {reads : String → Nat}
    (h : TotalServer page path field items reads) (comments : field = "comments") :
    Continues self name path field page (fun url => items.drop (reads url))
      fun url => reads url ≤ items.length := by
  intro url within
  obtain ⟨values, found, none_, last, start, total, ⟨rest, shape⟩, -⟩ := h.answers url
  refine ⟨values, found, fun next_ led => ?_⟩
  unfold nextPage at led
  rw [member_none none_, if_neg (by decide), member_none last, if_neg (by decide), if_pos comments,
    member_some start, member_some total] at led
  have counted : countedPage path (reads url) items.length values.length = .ok next_ := led
  have length := congrArg List.length shape
  rw [List.length_append, List.length_drop] at length
  unfold countedPage at counted
  split at counted
  · next more =>
      split at counted
      · cases counted
      obtain ⟨url', rewritten, rfl⟩ := of_map_some counted
      have offset : reads url' = reads url + values.length :=
        h.later _ url' (by omega) (by rw [Nat.cast_add]; exact rewritten)
      refine ⟨by omega, ?_⟩
      show values ++ items.drop (reads url') = items.drop (reads url)
      rw [offset, ← List.drop_drop, ← shape, List.drop_left]
  · next enough =>
      cases counted
      have none_ : rest = [] := List.length_eq_zero_iff.mp (by omega)
      rw [none_, List.append_nil] at shape
      exact shape

/-! ## Consumers that do not stop -/

omit [ProviderLibrary] in
theorem liftExcept_ok {a : A} {result : Except Raised A} {h : History}
    (returned : liftExcept result history = (h, .ok a)) : result = .ok a ∧ h = history := by
  cases result with
  | ok b =>
      cases returned
      exact ⟨rfl, rfl⟩
  | error raised => cases returned

omit [ProviderLibrary] in
theorem liftExcept_bind {B : Type} {a : A} {f : A → Session B} :
    (liftExcept (.ok a) >>= f) history = f a history := rfl

omit [ProviderLibrary] in
theorem consume_all {body : Consumer Unit R} : ∀ {values items : List Json},
    consume body () values = .ok (.inl ()) →
      consume collect items values = .ok (.inl (items ++ values)) ∧
        ∀ value ∈ values, body () value = .ok (.inl ())
  | [], items, _ => ⟨by rw [List.append_nil]; rfl, nofun⟩
  | .obj fields :: rest, items, h => by
      unfold consume at h
      obtain ⟨first, taken, h⟩ := of_bind_ok h
      cases first with
      | inr result => cases h
      | inl u =>
          obtain ⟨all, rest_⟩ := @consume_all body rest (items ++ [.obj fields]) h
          refine ⟨?_, fun value listed => ?_⟩
          · have next_ : consume collect items (.obj fields :: rest) =
                consume collect (items ++ [.obj fields]) rest := rfl
            rw [next_, all, List.append_assoc]
            rfl
          · rcases List.mem_cons.mp listed with rfl | later
            · exact taken
            · exact rest_ value later

theorem pagesFrom_discovered {body : Consumer Unit R} {rounds : Nat} {seen : List String}
    {current : String} {items : List Json} {h : History}
    (done : pagesFrom self network name path field body rounds seen current () history =
      (h, .ok (.inl ()))) :
    ∃ more, pagesFrom self network name path field collect rounds seen current items history =
        (h, .ok (.inl (items ++ more))) ∧ ∀ item ∈ more, body () item = .ok (.inl ()) := by
  induction rounds generalizing seen current items history with
  | zero => cases done
  | succ rounds ih =>
  unfold pagesFrom at done ⊢
  split at done
  · cases done
  next fresh =>
  rw [if_neg fresh]
  obtain ⟨data, _, read, paged⟩ := returned_of_bind done
  obtain ⟨values, _, lifted, rest⟩ := returned_of_bind paged
  obtain ⟨found, rfl⟩ := liftExcept_ok lifted
  obtain ⟨consumed, _, lifted, left⟩ := returned_of_bind rest
  obtain ⟨taken, rfl⟩ := liftExcept_ok lifted
  cases consumed with
  | inr result => cases left
  | inl u =>
  obtain ⟨all, none_⟩ := @consume_all R body values items taken
  obtain ⟨next_, _, lifted, last⟩ := returned_of_bind left
  obtain ⟨leads, rfl⟩ := liftExcept_ok lifted
  rw [bind_of_returned read, found, liftExcept_bind, all, liftExcept_bind]
  dsimp only [pagesOn]
  rw [leads, liftExcept_bind]
  cases next_ with
  | none =>
      cases last
      exact ⟨values, rfl, none_⟩
  | some url =>
      obtain ⟨more, rest, nowhere⟩ := @ih _ (current :: seen) url (items ++ values) last
      refine ⟨values ++ more, ?_, fun item listed => ?_⟩
      · rw [← List.append_assoc]
        exact rest
      · exact (List.mem_append.mp listed).elim (none_ item) (nowhere item)

/-- A consumer that has not stopped has gone on at every item that a traversal yields. -/
theorem pages_discovered {body : Consumer Unit R} {h : History}
    (done : pages self network name path field body () history = (h, .ok (.inl ()))) :
    ∃ items, pages self network name path field collect [] history = (h, .ok (.inl items)) ∧
      ∀ item ∈ items, body () item = .ok (.inl ()) :=
  pagesFrom_discovered done

end

end

end MasterAgent.Simple
