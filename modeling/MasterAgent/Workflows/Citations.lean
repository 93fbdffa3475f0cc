import Mathlib.Data.List.Infix
import MasterAgent.Connectors.Utils

/-!
# Citations

Resource citations of retrieved evidence, and the index of the citations that a payload lists. A
citation is the members of an object; an index keeps the first citation of each identifier.
-/

namespace MasterAgent.Citations
open Base Connectors

/-- What the program takes from `urllib.parse` besides the parts of a URL. -/
class Urls where
  /-- `urlsplit(text).port` -/
  port : String → Except Exn (Option Nat)
  /-- `urlparse(text)._replace(query="", fragment="").geturl()` -/
  withoutQuery : String → String

section
variable [Host] [Urls]

/-- `_safe_url` -/
def safeUrl (value : Option String) : Except Exn (Option String) :=
  match value with
  | none => .ok none
  | some text =>
    if (strip text).isEmpty then .ok none
    else do
      let parsed ← Host.urlsplit (strip text)
      if !(parsed.scheme == "http" || parsed.scheme == "https") ||
          !parsed.hostname.any (!·.isEmpty) then .ok none
      else if parsed.username.any (!·.isEmpty) || parsed.password.any (!·.isEmpty) then .ok none
      else .ok (some (Urls.withoutQuery (strip text)))

omit [Host] [Urls] in
/-- `_first_text` of two texts. -/
def firstText (title resourceId : String) : String :=
  if (strip title).isEmpty then strip resourceId else strip title

omit [Urls] in
/-- The identifier of a resource's citation. -/
def citationId (system resourceType resourceId : String) : String :=
  let digest := Host.sha256 (system ++ "\x00" ++ resourceType ++ "\x00" ++ resourceId)
  "CIT-" ++ String.ofList ((digest.toList.take 12).map Char.toUpper)

/-- `make_resource_citation` without a parent. -/
def makeResourceCitation (system resourceType resourceId title : String)
    (url version : Option String) : Except Exn Fields := do
  let safe ← safeUrl url
  let id := citationId system resourceType resourceId
  return [("citation_id", .str id),
    ("marker", .str ("[" ++ id ++ "]")),
    ("system", .str system),
    ("resource_type", .str resourceType),
    ("resource_id", .str resourceId),
    ("parent_resource_id", .null),
    ("title", .str (String.ofList ((firstText title resourceId).toList.take 300))),
    ("url", optStr safe),
    ("version", optStr ((version.map strip).filter (!·.isEmpty)))]

end

/-- A `citation_id` that is a text and not empty. -/
def namedBy (citation : Fields) : Option String :=
  match citation.lookup "citation_id" with
  | some (.str id) => if id.isEmpty then none else some id
  | _ => none

/-- `by_id.setdefault(citation_id, dict(citation))` -/
def setDefault (byId : List (String × Fields)) (citation : Fields) : List (String × Fields) :=
  match namedBy citation with
  | none => byId
  | some id => if byId.any (·.1 == id) then byId else byId ++ [(id, citation)]

/-- The objects of a list. -/
def mappings (items : List Json) : List Fields :=
  items.filterMap fun value => match value with
    | .obj members => some members
    | _ => none

theorem mem_mappings {items : List Json} {members : Fields} :
    members ∈ mappings items ↔ Json.obj members ∈ items := by
  unfold mappings
  rw [List.mem_filterMap]
  constructor
  · rintro ⟨value, listed, shown⟩
    cases value with
    | obj fields => rwa [← Option.some.inj shown]
    | _ => cases shown
  · intro listed
    exact ⟨_, listed, rfl⟩

/-- `citation_index` of one payload. -/
def citationIndex (payload : Fields) : List Fields :=
  match payload.lookup "citations" with
  | some (.arr values) => ((mappings values).foldl setDefault []).map Prod.snd
  | _ => []

/-! ## Indexes -/

/-- Every citation is kept under its own identifier. -/
def Index (byId : List (String × Fields)) : Prop :=
  ∀ entry ∈ byId, namedBy entry.2 = some entry.1

theorem index_setDefault {byId : List (String × Fields)} (citation : Fields) (index : Index byId) :
    Index (setDefault byId citation) := by
  unfold setDefault
  cases named : namedBy citation with
  | none => exact index
  | some id =>
    show Index (if _ then _ else _)
    split
    · exact index
    · intro entry listed
      rcases List.mem_append.mp listed with old | new
      · exact index entry old
      · rw [List.mem_singleton.mp new]
        exact named

/-- Nothing is removed from an index. -/
theorem keys_setDefault {byId : List (String × Fields)} {citation : Fields} {id : String}
    (listed : id ∈ byId.map Prod.fst) : id ∈ (setDefault byId citation).map Prod.fst := by
  unfold setDefault
  cases namedBy citation with
  | none => exact listed
  | some other =>
    show id ∈ List.map Prod.fst (if _ then _ else _)
    split
    · exact listed
    · rw [List.map_append]
      exact List.mem_append_left _ listed

/-- A citation that was added is in the index. -/
theorem mem_setDefault {byId : List (String × Fields)} {citation : Fields} {id : String}
    (named : namedBy citation = some id) : id ∈ (setDefault byId citation).map Prod.fst := by
  unfold setDefault
  rw [named]
  show id ∈ List.map Prod.fst (if _ then _ else _)
  split
  · next already =>
    obtain ⟨entry, listed, same⟩ := List.any_eq_true.mp already
    exact List.mem_map.mpr ⟨entry, listed, beq_iff_eq.mp same⟩
  · rw [List.map_append]
    exact List.mem_append_right _ (List.mem_singleton.mpr rfl)

theorem foldl_setDefault (citations : List Fields) : ∀ {byId : List (String × Fields)}, Index byId →
    Index (citations.foldl setDefault byId) ∧
      (∀ id ∈ byId.map Prod.fst, id ∈ (citations.foldl setDefault byId).map Prod.fst) ∧
      ∀ citation ∈ citations, ∀ id, namedBy citation = some id →
        id ∈ (citations.foldl setDefault byId).map Prod.fst := by
  induction citations with
  | nil => exact fun index => ⟨index, fun _ listed => listed, fun _ none => nomatch none⟩
  | cons first rest ih =>
    intro byId index
    obtain ⟨kept, grows, added⟩ := ih (index_setDefault first index)
    refine ⟨kept, fun id listed => grows id (keys_setDefault listed), ?_⟩
    intro citation listed id named
    rcases List.mem_cons.mp listed with rfl | later
    · exact grows id (mem_setDefault named)
    · exact added citation later id named

/-- Every citation of a payload's index has an identifier. -/
theorem named_citationIndex {payload : Fields} {citation : Fields}
    (listed : citation ∈ citationIndex payload) : ∃ id, namedBy citation = some id := by
  unfold citationIndex at listed
  split at listed
  · next values _ =>
    obtain ⟨entry, isEntry, rfl⟩ := List.mem_map.mp listed
    have empty : Index [] := fun _ none => nomatch none
    have index := (foldl_setDefault (mappings values) empty).1
    exact ⟨entry.1, index entry isEntry⟩
  · cases listed

theorem named_makeResourceCitation [Host] [Urls] {system resourceType resourceId title : String}
    {url version : Option String} {citation : Fields}
    (made : makeResourceCitation system resourceType resourceId title url version = .ok citation) :
    namedBy citation = some (citationId system resourceType resourceId) := by
  unfold makeResourceCitation at made
  obtain ⟨safe, -, built⟩ := of_bind_ok made
  obtain rfl := Except.ok.inj built
  have nonempty : (citationId system resourceType resourceId).isEmpty = false := by
    unfold citationId
    simp
  show (if (citationId system resourceType resourceId).isEmpty then none else
    some (citationId system resourceType resourceId)) = _
  rw [nonempty]
  rfl

end MasterAgent.Citations
