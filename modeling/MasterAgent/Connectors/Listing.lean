import MasterAgent.Connectors.Utils

/-!
# Bounded listings

The list methods of the GitHub connector and the Jira Data Center search, which ask for one page after
the other until the limit, the page bound or the end of the list is reached.

Results:

1. `listFrom_serves`: what the GitHub methods return of a list that the server holds;
2. `collected_bounded_iff`: for which limits and page bounds that is a prefix of the list;
3. `searchDataCenter_serves`: what the Jira search returns;
4. `bounded_listings`: the same of all the methods.
-/

namespace MasterAgent.Connectors.Listing
open Base

/-- `self._client.request_json`: the method, the path, the query and the body, to the value and the URL
of the response. -/
abbrev Client := String → String → Fields → Option Json → Except Exn (Json × String)

/-! ## GitHub -/

/-- One of the list methods of the connector: the path it reads, its query for a page size and a page
number, and what it takes from a response. -/
structure Endpoint where
  path : String
  query : Int → Nat → Fields
  page : Json → Except Exn (List Json)
  mapped : List Json → Except Exn (List Json)

/-- The rounds of the loop that are left, from a page number on. -/
def listFrom (client : Client) (endpoint : Endpoint) (limit : Int) :
    Nat → Nat → List Json → String → Except Exn (List Json × String)
  | 0, _, results, reference => .ok (results, reference)
  | pages + 1, pageNumber, results, reference =>
    let remaining := limit - results.length
    if remaining ≤ 0 then .ok (results, reference)
    else do
      let pageSize := min remaining 100
      let (data, url) ← client "GET" endpoint.path (endpoint.query pageSize pageNumber) none
      let page ← endpoint.page data
      let mapped ← endpoint.mapped page
      if page.length < pageSize then .ok (results ++ mapped, url)
      else listFrom client endpoint limit pages (pageNumber + 1) (results ++ mapped) url

/-- `results[:limit]`; a negative limit leaves no results. -/
def listAll (client : Client) (endpoint : Endpoint) (limit : Int) (maxPages : Nat) :
    Except Exn (List Json × String) := do
  let (results, reference) ← listFrom client endpoint limit maxPages 1 [] endpoint.path
  .ok (results.take limit.toNat, reference)

/-- A response that is a list. -/
def listPage (message : String) : Json → Except Exn (List Json)
  | .arr items => .ok items
  | _ => .error (connectorError message)

/-- A response that is an object with a list of check runs. -/
def checkRunsPage (data : Json) : Except Exn (List Json) :=
  if isObject data then
    listPage "GitHub check-runs value must be a list" (getValue data "check_runs")
  else .error (connectorError "GitHub check-runs response must be an object")

/-- The objects of a page. -/
def objectsOf (page : List Json) : Except Exn (List Json) := .ok (page.filter isObject)

/-- The objects of a page that holds nothing else. -/
def onlyObjects (message : String) (page : List Json) : Except Exn (List Json) :=
  if (page.filter isObject).length ≠ page.length then .error (connectorError message)
  else .ok (page.filter isObject)

def REPOSITORY_AFFILIATIONS : String := "owner,collaborator,organization_member"

/-- `_list_pull_requests` -/
def pullRequests (path state : String) : Endpoint where
  path := path
  query pageSize pageNumber := [("state", .str state), ("sort", .str "updated"),
    ("direction", .str "desc"), ("per_page", .int pageSize), ("page", .int pageNumber)]
  page := listPage "GitHub pull-request list response must be a list"
  mapped := objectsOf

/-- `_list_repositories` -/
def repositories (visibility : String) : Endpoint where
  path := "user/repos"
  query pageSize pageNumber := [("visibility", .str visibility),
    ("affiliation", .str REPOSITORY_AFFILIATIONS), ("sort", .str "updated"),
    ("direction", .str "desc"), ("per_page", .int pageSize), ("page", .int pageNumber)]
  page := listPage "GitHub repository list response must be a list"
  mapped := onlyObjects "GitHub repository list contains a non-object item"

/-- `_list_public_repositories` of a quoted user name. -/
def publicRepositories (quoted : String) : Endpoint where
  path := "users/" ++ quoted ++ "/repos"
  query pageSize pageNumber := [("type", .str "owner"), ("sort", .str "updated"),
    ("direction", .str "desc"), ("per_page", .int pageSize), ("page", .int pageNumber)]
  page := listPage "GitHub public-user repository list response must be a list"
  mapped := onlyObjects "GitHub public-user repository list contains a non-object item"

/-- `_list_check_runs` -/
def checkRuns (path : String) : Endpoint where
  path := path
  query pageSize pageNumber := [("per_page", .int pageSize), ("page", .int pageNumber)]
  page := checkRunsPage
  mapped := objectsOf

/-! ## Jira Data Center -/

/-- Where the search stands after its rounds. `cut` says that it ran out of rounds. -/
structure Search where
  issues : List Json
  total : Int
  reference : String
  cut : Bool

section
variable [Host]

/-- The rounds of the loop that are left. -/
def searchFrom (client : Client) (jql : String) (fields : List String) (limit : Int) :
    Nat → List Json → Int → Int → String → Except Exn Search
  | 0, issues, _, total, reference => .ok ⟨issues, total, reference, true⟩
  | pages + 1, issues, startAt, total, reference =>
    let remaining := limit - issues.length
    if remaining ≤ 0 then .ok ⟨issues, total, reference, false⟩
    else do
      let body := Json.obj [("jql", .str jql), ("fields", .arr (fields.map .str)),
        ("maxResults", .int (min remaining 100)), ("startAt", .int startAt)]
      let (data, url) ← client "POST" "rest/api/2/search" [] (some body)
      if ¬ isObject data then .error (connectorError "Jira search response must be an object")
      else do
        let page ← listPage "Jira issues response must be a list" ((data.get? "issues").getD (.arr []))
        let mapped := page.filter isObject
        let total ← pyInt ((data.get? "total").getD (.int (issues ++ mapped).length))
        if mapped = [] ∨ startAt + mapped.length ≥ total then
          .ok ⟨issues ++ mapped, total, url, false⟩
        else searchFrom client jql fields limit pages (issues ++ mapped) (startAt + mapped.length) total url

/-- `_search_data_center` -/
def searchDataCenter (client : Client) (jql : String) (fields : List String) (limit : Int)
    (maxPages : Nat) : Except Exn Search := do
  let search ← searchFrom client jql fields limit maxPages [] 0 0 ""
  .ok { search with issues := search.issues.take limit.toNat }

end

/-! ## Servers -/

/-- The entries of a page, by its size and its number. -/
def pageAt (held : List Json) (pageSize pageNumber : Nat) : List Json :=
  (held.drop ((pageNumber - 1) * pageSize)).take pageSize

/-- A server that holds a list behind an endpoint. -/
def Endpoint.Serves (endpoint : Endpoint) (client : Client) (held : List Json) : Prop :=
  ∀ pageSize pageNumber : Nat, 1 ≤ pageSize → 1 ≤ pageNumber → ∃ data url,
    client "GET" endpoint.path (endpoint.query pageSize pageNumber) none = .ok (data, url) ∧
      endpoint.page data = .ok (pageAt held pageSize pageNumber)

/-- A Jira server that holds a list for a query. It may give fewer entries than it is asked for, but at
least one while there are any. -/
def ServesSearch (client : Client) (jql : String) (fields : List String) (held : List Json) : Prop :=
  ∀ startAt maxResults : Nat, 1 ≤ maxResults → ∃ data url count,
    client "POST" "rest/api/2/search" [] (some (.obj [("jql", .str jql),
      ("fields", .arr (fields.map .str)), ("maxResults", .int maxResults), ("startAt", .int startAt)])) =
        .ok (data, url) ∧
      isObject data = true ∧ data.get? "issues" = some (.arr ((held.drop startAt).take count)) ∧
      data.get? "total" = some (.int held.length) ∧ count ≤ maxResults ∧
      (startAt < held.length → 1 ≤ count)

/-- The list methods. -/
inductive ListMethod : Endpoint → Prop
  | pullRequests (path state : String) : ListMethod (pullRequests path state)
  | repositories (visibility : String) : ListMethod (repositories visibility)
  | publicRepositories (quoted : String) : ListMethod (publicRepositories quoted)
  | checkRuns (path : String) : ListMethod (checkRuns path)

/-- A prefix, which has all that the limit allows unless the page bound was reached. -/
def Bounded (held : List Json) (limit maxPages : Nat) (results : List Json) : Prop :=
  results <+: held ∧
    (limit ≤ 100 * maxPages ∨ held.length < 100 * maxPages → results.length = min held.length limit)

/-- After full pages, the loop asks for a last page of another size. -/
def LastPageShrinks (held : List Json) (limit maxPages : Nat) : Prop :=
  100 ≤ limit ∧ limit % 100 ≠ 0 ∧ limit / 100 < maxPages ∧ 100 * (limit / 100) ≤ held.length

instance (held : List Json) (limit maxPages : Nat) : Decidable (LastPageShrinks held limit maxPages) :=
  inferInstanceAs (Decidable (_ ∧ _))

/-- What the loop collects. -/
def collected (held : List Json) (limit maxPages : Nat) : List Json :=
  if LastPageShrinks held limit maxPages then
    held.take (100 * (limit / 100)) ++ pageAt held (limit % 100) (limit / 100 + 1)
  else held.take (min limit (100 * maxPages))

/-! ## What the methods collect -/

theorem filter_objects {page : List Json} (objects : ∀ item ∈ page, isObject item = true) :
    page.filter isObject = page := List.filter_eq_self.mpr objects

/-- Every list method takes all the objects of a page. -/
theorem ListMethod.mapped {endpoint : Endpoint} (method : ListMethod endpoint) {page : List Json}
    (objects : ∀ item ∈ page, isObject item = true) : endpoint.mapped page = .ok page := by
  have all := filter_objects objects
  cases method with
  | pullRequests => exact congrArg Except.ok all
  | checkRuns => exact congrArg Except.ok all
  | repositories =>
    change onlyObjects _ page = _
    rw [onlyObjects, all, if_neg (not_not.mpr rfl)]
  | publicRepositories =>
    change onlyObjects _ page = _
    rw [onlyObjects, all, if_neg (not_not.mpr rfl)]

theorem mem_pageAt {held : List Json} {pageSize pageNumber : Nat} {item : Json}
    (listed : item ∈ pageAt held pageSize pageNumber) : item ∈ held :=
  List.mem_of_mem_drop (List.mem_of_mem_take listed)

theorem length_pageAt {held : List Json} {pageSize pageNumber : Nat} :
    (pageAt held pageSize pageNumber).length =
      min pageSize (held.length - (pageNumber - 1) * pageSize) := by
  rw [pageAt, List.length_take, List.length_drop]

section
variable {client : Client} {endpoint : Endpoint} {held : List Json} {limit : Nat}

/-- A round below the limit: it asks for the next page, and goes on if that is full. -/
theorem listFrom_round (method : ListMethod endpoint) (objects : ∀ item ∈ held, isObject item = true)
    (serves : endpoint.Serves client held) (pages size : Nat) {pageNumber : Nat} (results : List Json)
    (reference : String) (number : 1 ≤ pageNumber) (left : results.length < limit)
    (sized : size = min (limit - results.length) 100) :
    ∃ url, listFrom client endpoint limit (pages + 1) pageNumber results reference =
      if (pageAt held size pageNumber).length < size then
        .ok (results ++ pageAt held size pageNumber, url)
      else listFrom client endpoint limit pages (pageNumber + 1)
        (results ++ pageAt held size pageNumber) url := by
  have asked : min ((limit : Int) - results.length) 100 = (size : Nat) := by omega
  obtain ⟨data, url, answered, page⟩ := serves size pageNumber (by omega) number
  have mapped : endpoint.mapped (pageAt held size pageNumber) = .ok (pageAt held size pageNumber) :=
    method.mapped fun item listed => objects item (mem_pageAt listed)
  refine ⟨url, ?_⟩
  rw [listFrom, if_neg (by omega), asked]
  dsimp only
  rw [answered, ok_bind]
  dsimp only
  rw [page, ok_bind, mapped, ok_bind]
  simp only [Nat.cast_lt]

/-- The loop stops where the limit is reached. -/
theorem listFrom_full {pages pageNumber : Nat} {results : List Json} {reference : String}
    (full : limit ≤ results.length) :
    listFrom client endpoint limit pages pageNumber results reference = .ok (results, reference) := by
  cases pages with
  | zero => rfl
  | succ pages => rw [listFrom, if_pos (by omega)]

/-- A full page continues the full pages before it. -/
theorem take_page (held : List Json) (k : Nat) :
    held.take (100 * k) ++ pageAt held 100 (k + 1) = held.take (100 * (k + 1)) := by
  rw [pageAt, Nat.add_sub_cancel, Nat.mul_comm k 100, ← List.take_add, Nat.mul_add_one]

/-- The last page is a shorter one, after `k` full pages. -/
theorem collected_last {k maxPages : Nat} (rounds : k < maxPages) (inside : 100 * k ≤ held.length)
    (below : 100 * k < limit) (last : limit < 100 * k + 100) :
    held.take (100 * k) ++ pageAt held (limit - 100 * k) (k + 1) = collected held limit maxPages := by
  have quotient : limit / 100 = k := by omega
  have rest : limit % 100 = limit - 100 * k := by omega
  rw [collected, quotient, rest]
  by_cases first : k = 0
  · have aligned : ¬ LastPageShrinks held limit maxPages := fun shrinks => by
      have := shrinks.1
      omega
    rw [if_neg aligned, first, Nat.min_eq_left (by omega), pageAt, Nat.mul_zero, List.take_zero,
      List.nil_append, Nat.add_sub_cancel, Nat.zero_mul, List.drop_zero, Nat.sub_zero]
  · have shrinks : LastPageShrinks held limit maxPages := by
      refine ⟨by omega, by omega, by omega, ?_⟩
      rwa [quotient]
    rw [if_pos shrinks]

/-- After `k` full pages, the rounds that are left collect the rest. -/
theorem listFrom_serves (method : ListMethod endpoint) (objects : ∀ item ∈ held, isObject item = true)
    (serves : endpoint.Serves client held) (pages : Nat) : ∀ (k : Nat) (reference : String),
    100 * k ≤ held.length → 100 * k ≤ limit → ∃ reference',
      listFrom client endpoint limit pages (k + 1) (held.take (100 * k)) reference =
        .ok (collected held limit (k + pages), reference') := by
  induction pages with
  | zero =>
    intro k reference _ within
    have aligned : ¬ LastPageShrinks held limit (k + 0) := fun shrinks => by
      have := shrinks.2.2.1
      omega
    exact ⟨reference, by rw [listFrom, collected, if_neg aligned, Nat.add_zero, Nat.min_eq_right within]⟩
  | succ pages ih =>
    intro k reference inside within
    have length : (held.take (100 * k)).length = 100 * k := List.length_take_of_le inside
    rcases Nat.eq_or_lt_of_le within with reached | below
    · -- the limit is reached with the last page
      have aligned : ¬ LastPageShrinks held limit (k + (pages + 1)) := fun shrinks => by
        have := shrinks.2.1
        omega
      refine ⟨reference, ?_⟩
      rw [listFrom_full (by omega), collected, if_neg aligned, Nat.min_eq_left (by omega), reached]
    have left : (held.take (100 * k)).length < limit := by omega
    by_cases whole : 100 * k + 100 ≤ limit
    · have sized : 100 = min (limit - (held.take (100 * k)).length) 100 := by omega
      obtain ⟨url, round⟩ := listFrom_round method objects serves pages 100 (held.take (100 * k)) reference
        (Nat.le_add_left 1 k) left sized
      rw [round, take_page, length_pageAt, Nat.add_sub_cancel]
      split_ifs with short
      · -- the list ends inside this page
        have ends : held.length < 100 * (k + 1) := by omega
        have aligned : ¬ LastPageShrinks held limit (k + (pages + 1)) := fun shrinks => by
          have := shrinks.2.2.2
          omega
        refine ⟨url, ?_⟩
        rw [collected, if_neg aligned, List.take_of_length_le ends.le,
          List.take_of_length_le (by omega)]
      · have next := ih (k + 1) url (by omega) (by omega)
        rwa [show k + 1 + pages = k + (pages + 1) by omega] at next
    · have sized : limit - 100 * k = min (limit - (held.take (100 * k)).length) 100 := by omega
      obtain ⟨url, round⟩ := listFrom_round method objects serves pages (limit - 100 * k)
        (held.take (100 * k)) reference (Nat.le_add_left 1 k) left sized
      have rounds : k < k + (pages + 1) := by omega
      have last := collected_last rounds inside below (by omega)
      rw [round]
      split_ifs with short
      · exact ⟨url, by rw [last]⟩
      · -- a full last page reaches the limit
        refine ⟨url, ?_⟩
        rw [listFrom_full (by rw [List.length_append]; omega), last]

theorem length_collected_le (held : List Json) (limit maxPages : Nat) :
    (collected held limit maxPages).length ≤ limit := by
  rw [collected]
  split_ifs
  · rw [List.length_append, length_pageAt, List.length_take]
    omega
  · rw [List.length_take]
    omega

/-- What a list method returns of the list that the server holds. -/
theorem listAll_serves (method : ListMethod endpoint) (objects : ∀ item ∈ held, isObject item = true)
    (serves : endpoint.Serves client held) (limit : Int) (maxPages : Nat) : ∃ reference,
    listAll client endpoint limit maxPages = .ok (collected held limit.toNat maxPages, reference) := by
  by_cases positive : 0 ≤ limit
  · obtain ⟨reference, ran⟩ : ∃ reference, listFrom client endpoint limit.toNat maxPages (0 + 1)
        (held.take (100 * 0)) endpoint.path = .ok (collected held limit.toNat (0 + maxPages), reference) :=
      listFrom_serves method objects serves maxPages 0 endpoint.path (Nat.zero_le _) (Nat.zero_le _)
    rw [Int.toNat_of_nonneg positive, Nat.mul_zero, List.take_zero, Nat.zero_add, Nat.zero_add] at ran
    refine ⟨reference, ?_⟩
    rw [listAll, ran, ok_bind]
    dsimp only
    rw [List.take_of_length_le (length_collected_le ..)]
  · have none : limit.toNat = 0 := by omega
    have ran : listFrom client endpoint limit maxPages 1 [] endpoint.path = .ok ([], endpoint.path) := by
      cases maxPages with
      | zero => rfl
      | succ pages =>
        rw [listFrom, if_pos]
        rw [List.length_nil]
        omega
    refine ⟨endpoint.path, ?_⟩
    rw [listAll, ran, ok_bind, none, collected, if_neg (fun shrinks => absurd shrinks.1 (by decide)),
      Nat.zero_min]
    rfl

end

/-! ## When that is a prefix -/

/-- The page that is asked for last does not continue the list: it begins before the end of the pages
before it. -/
theorem lastPage_prefix_length {held : List Json} {limit maxPages : Nat}
    (shrinks : LastPageShrinks held limit maxPages)
    (continues : pageAt held (limit % 100) (limit / 100 + 1) <+: held.drop (100 * (limit / 100))) :
    (pageAt held (limit % 100) (limit / 100 + 1)).length = limit % 100 := by
  obtain ⟨hundred, rest, -, inside⟩ := shrinks
  have fits := continues.length_le
  rw [length_pageAt, Nat.add_sub_cancel, List.length_drop] at fits
  rw [length_pageAt, Nat.add_sub_cancel]
  have before : limit / 100 * (limit % 100) ≤ limit / 100 * 99 := Nat.mul_le_mul_left _ (by omega)
  omega

/-- What the loop collects is a prefix where the last page is no shorter one, or happens to continue the
list. -/
theorem collected_bounded_iff (held : List Json) (limit maxPages : Nat) :
    Bounded held limit maxPages (collected held limit maxPages) ↔
      (LastPageShrinks held limit maxPages →
        pageAt held (limit % 100) (limit / 100 + 1) <+: held.drop (100 * (limit / 100))) := by
  rw [collected]
  split_ifs with shrinks
  · rw [forall_prop_of_true shrinks]
    have continues_iff : held.take (100 * (limit / 100)) ++ pageAt held (limit % 100) (limit / 100 + 1) <+:
        held ↔ pageAt held (limit % 100) (limit / 100 + 1) <+: held.drop (100 * (limit / 100)) := by
      have same : held.take (100 * (limit / 100)) ++ pageAt held (limit % 100) (limit / 100 + 1) <+:
          held.take (100 * (limit / 100)) ++ held.drop (100 * (limit / 100)) ↔ _ :=
        List.prefix_append_right_inj _
      rwa [List.take_append_drop] at same
    refine ⟨fun bounded => continues_iff.mp bounded.1, fun continues =>
      ⟨continues_iff.mpr continues, fun _ => ?_⟩⟩
    have fits := continues.length_le
    have page := lastPage_prefix_length shrinks continues
    rw [page, List.length_drop] at fits
    rw [List.length_append, page, List.length_take_of_le shrinks.2.2.2]
    have := shrinks.2.2.2
    omega
  · refine iff_of_true ⟨List.take_prefix _ _, fun enough => ?_⟩ fun other => absurd other shrinks
    rw [List.length_take]
    omega

/-! ## What the search collects -/

section
variable [Host] {client : Client} {jql : String} {fields : List String} {held : List Json}

omit [Host] in
/-- A stretch of the list continues what was collected up to its start. -/
theorem take_stretch (startAt count : Nat) :
    held.take startAt ++ (held.drop startAt).take count =
      held.take (startAt + ((held.drop startAt).take count).length) := by
  rw [← List.take_add, List.take_eq_take_iff, List.length_take, List.length_drop]
  omega

/-- The rounds that are left go on from where the search stands. -/
theorem searchFrom_serves (objects : ∀ item ∈ held, isObject item = true)
    (serves : ServesSearch client jql fields held) (limit pages : Nat) :
    ∀ (startAt : Nat) (total : Int) (reference : String), startAt ≤ held.length → startAt ≤ limit →
      ∃ search count, searchFrom client jql fields limit pages (held.take startAt) startAt total reference =
          .ok search ∧ search.issues = held.take count ∧ count ≤ min held.length limit ∧
        (search.cut = false → count = min held.length limit) := by
  induction pages with
  | zero =>
    intro startAt total reference inside within
    exact ⟨_, startAt, rfl, rfl, by omega, nofun⟩
  | succ pages ih =>
    intro startAt total reference inside within
    have length : (held.take startAt).length = startAt := List.length_take_of_le inside
    rw [searchFrom, length]
    by_cases reached : limit ≤ startAt
    · refine ⟨_, startAt, if_pos (by omega), rfl, by omega, fun _ => by omega⟩
    · have asked : min ((limit : Int) - startAt) 100 = (min (limit - startAt) 100 : Nat) := by omega
      obtain ⟨data, url, count, answered, isObj, issues, all, few, some_⟩ :=
        serves startAt (min (limit - startAt) 100) (by omega)
      have mapped : ((held.drop startAt).take count).filter isObject = (held.drop startAt).take count :=
        filter_objects fun item listed => objects item (List.mem_of_mem_drop (List.mem_of_mem_take listed))
      have given : ((held.drop startAt).take count).length = min count (held.length - startAt) := by
        rw [List.length_take, List.length_drop]
      rw [if_neg (by omega), asked]
      dsimp only
      rw [answered, ok_bind]
      dsimp only
      rw [if_neg (not_not.mpr isObj), issues, Option.getD_some, listPage, ok_bind, mapped, all,
        Option.getD_some, pyInt_int, ok_bind, take_stretch]
      split_ifs with ends
      · -- an empty page comes only after the end
        have whole : startAt + ((held.drop startAt).take count).length = held.length := by
          rcases ends with nothing | total
          · rw [nothing, List.length_nil] at given ⊢
            omega
          · omega
        exact ⟨_, _, rfl, rfl, by omega, fun _ => by omega⟩
      · have next := ih (startAt + ((held.drop startAt).take count).length) held.length url (by omega) (by omega)
        rwa [Nat.cast_add] at next

/-- What the search returns of the list that the server holds. -/
theorem searchDataCenter_serves (objects : ∀ item ∈ held, isObject item = true)
    (serves : ServesSearch client jql fields held) (limit : Int) (maxPages : Nat) :
    ∃ search, searchDataCenter client jql fields limit maxPages = .ok search ∧
      search.issues <+: held ∧ search.issues.length ≤ limit.toNat ∧
        (search.cut = false → search.issues.length = min held.length limit.toNat) := by
  by_cases positive : 0 ≤ limit
  · obtain ⟨search, count, ran, issues, fits, complete⟩ := searchFrom_serves objects serves
      limit.toNat maxPages 0 0 "" (Nat.zero_le _) (Nat.zero_le _)
    rw [Int.toNat_of_nonneg positive, List.take_zero, Nat.cast_zero] at ran
    have kept : search.issues.take limit.toNat = held.take count := by
      rw [issues, List.take_take, Nat.min_eq_right (by omega)]
    have length : (held.take count).length = count := List.length_take_of_le (by omega)
    refine ⟨{ search with issues := search.issues.take limit.toNat }, ?_, ?_, ?_, fun uncut => ?_⟩
    · rw [searchDataCenter, ran, ok_bind]
    · exact kept ▸ List.take_prefix _ _
    · exact List.length_take_le _ _
    · rw [kept, length, complete uncut]
  · have ran : ∃ cut, searchFrom client jql fields limit maxPages [] 0 0 "" = .ok ⟨[], 0, "", cut⟩ := by
      cases maxPages with
      | zero => exact ⟨true, rfl⟩
      | succ pages =>
        refine ⟨false, ?_⟩
        rw [searchFrom, if_pos]
        rw [List.length_nil]
        omega
    obtain ⟨cut, ran⟩ := ran
    refine ⟨⟨[], 0, "", cut⟩, ?_, List.nil_prefix, Nat.zero_le _, fun _ => ?_⟩
    · rw [searchDataCenter, ran, ok_bind, List.take_nil]
    · rw [List.length_nil]
      omega

end

/-- The list methods of GitHub return a prefix of the server's list, with all that the limit allows unless
the page bound was reached, exactly where the page that is asked for last has the size of the others or
happens to continue the list; the search of Jira always does. -/
theorem bounded_listings [Host] :
    (∀ (client : Client) (endpoint : Endpoint) (held : List Json) (limit : Int) (maxPages : Nat),
      ListMethod endpoint → (∀ item ∈ held, isObject item = true) → endpoint.Serves client held →
      ∃ results reference, listAll client endpoint limit maxPages = .ok (results, reference) ∧
        (Bounded held limit.toNat maxPages results ↔
          (LastPageShrinks held limit.toNat maxPages →
            pageAt held (limit.toNat % 100) (limit.toNat / 100 + 1) <+:
              held.drop (100 * (limit.toNat / 100))))) ∧
    ∀ (client : Client) (jql : String) (fields : List String) (held : List Json) (limit : Int)
        (maxPages : Nat),
      (∀ item ∈ held, isObject item = true) → ServesSearch client jql fields held →
      ∃ search, searchDataCenter client jql fields limit maxPages = .ok search ∧
        search.issues <+: held ∧ search.issues.length ≤ limit.toNat ∧
          (search.cut = false → search.issues.length = min held.length limit.toNat) := by
  refine ⟨fun client endpoint held limit maxPages method objects serves => ?_, ?_⟩
  · obtain ⟨reference, ran⟩ := listAll_serves method objects serves limit maxPages
    exact ⟨_, reference, ran, collected_bounded_iff ..⟩
  · exact fun _ _ _ _ limit maxPages objects serves => searchDataCenter_serves objects serves limit maxPages

end MasterAgent.Connectors.Listing

namespace MasterAgent.Connectors.Listing.Samples
open Base

attribute [local instance] plainHost

def pull (number : Nat) : Json := .obj [("number", .int number)]

def pulls (count : Nat) : List Json := (List.range count).map pull

/-- A server that answers with the pages of a list. -/
def paged (held : List Json) : Client := fun _ _ query _ =>
  match query.lookup "per_page", query.lookup "page" with
  | some (.int pageSize), some (.int pageNumber) =>
    .ok (.arr (pageAt held pageSize.toNat pageNumber.toNat), "https://api.github.com")
  | _, _ => .error (connectorError "not found")

/-- A server that answers with what is left of a list. -/
def remaining (held : List Json) : Client := fun _ _ _ body =>
  match (body.bind (·.get? "startAt")), (body.bind (·.get? "maxResults")) with
  | some (.int startAt), some (.int maxResults) =>
    .ok (.obj [("issues", .arr ((held.drop startAt.toNat).take maxResults.toNat)),
      ("total", .int held.length)], "https://jira.example.com")
  | _, _ => .error (connectorError "not found")

theorem pulls_objects (count : Nat) : ∀ item ∈ pulls count, isObject item = true := by
  intro item listed
  obtain ⟨number, -, rfl⟩ := List.mem_map.mp listed
  rfl

theorem paged_serves (held : List Json) :
    (pullRequests "repos/o/r/pulls" "open").Serves (paged held) held :=
  fun _ _ _ _ => ⟨_, "https://api.github.com", rfl, rfl⟩

theorem remaining_serves (held : List Json) : ServesSearch (remaining held) "project = A" ["summary"] held := by
  intro startAt maxResults positive
  exact ⟨_, "https://jira.example.com", maxResults, rfl, rfl, rfl, rfl, le_rfl, fun _ => positive⟩

theorem listings_of_pulls :
    (∃ results reference, listAll (paged (pulls 3)) (pullRequests "repos/o/r/pulls" "open") 2 10 =
        .ok (results, reference) ∧
      (Bounded (pulls 3) 2 10 results ↔ (LastPageShrinks (pulls 3) 2 10 →
        pageAt (pulls 3) 2 1 <+: (pulls 3).drop 0))) ∧
    ∃ search, searchDataCenter (remaining (pulls 3)) "project = A" ["summary"] 2 10 = .ok search ∧
      search.issues <+: pulls 3 ∧ search.issues.length ≤ 2 ∧
        (search.cut = false → search.issues.length = min (pulls 3).length 2) :=
  ⟨bounded_listings.1 _ _ _ 2 10 (.pullRequests _ _) (pulls_objects 3) (paged_serves _),
    bounded_listings.2 _ _ _ _ 2 10 (pulls_objects 3) (remaining_serves _)⟩

/-- With a limit of 150, the last 50 of a hundred pull requests are listed twice. -/
theorem half_listed_twice :
    ∃ results reference, listAll (paged (pulls 100)) (pullRequests "repos/o/r/pulls" "open") 150 10 =
        .ok (results, reference) ∧
      results = pulls 100 ++ (pulls 100).drop 50 ∧ ¬ Bounded (pulls 100) 150 10 results := by
  obtain ⟨reference, ran⟩ :=
    listAll_serves (.pullRequests _ _) (pulls_objects 100) (paged_serves (pulls 100)) 150 10
  have length : (pulls 100).length = 100 := by rw [pulls, List.length_map, List.length_range]
  have twice : collected (pulls 100) 150 10 = pulls 100 ++ (pulls 100).drop 50 := by
    have shrinks : LastPageShrinks (pulls 100) 150 10 := by
      rw [LastPageShrinks, length]
      decide
    rw [collected, if_pos shrinks, List.take_of_length_le (by rw [length]), pageAt,
      List.take_of_length_le (by rw [List.length_drop, length])]
  refine ⟨_, reference, ran, twice, fun bounded => ?_⟩
  have fits := bounded.1.length_le
  rw [show (150 : Int).toNat = 150 from rfl, twice, List.length_append, List.length_drop, length] at fits
  exact absurd fits (by decide)

end MasterAgent.Connectors.Listing.Samples
