import MasterAgent.Base.Traversal
import MasterAgent.Connectors.Utils
import MasterAgent.Models.Limits

/-!
# Text of rich-text fields

`_review_text` of the Jira connector, which turns an Atlassian document into the text that a reviewer
sees, with a stack of nodes to enter and to leave and a running count of bytes.

Results:

1. `walk_spec`: when the walk of a node ends, and the parts that it adds;
2. `pieces_bytes`: the text of a document is not larger than what was measured of it;
3. `review_text_flattens`: what comes back, and when an error is raised.
-/

namespace MasterAgent.Connectors.ReviewText
open Base Base.Traversal

def MAX_REVIEW_TEXT_BYTES : Nat := 64 * 1024

/-- `text.rstrip()` -/
def rstrip (text : String) : String :=
  String.ofList (text.toList.reverse.dropWhile isSpace).reverse

/-! ## Nodes of a document -/

def nodeType (node : Json) : Json := getValue node "type"

/-- `current.get("content", [])` -/
def contentOf (node : Json) : Json := (node.get? "content").getD (.arr [])

/-- The children of a node whose content is a list. -/
def childrenOf (node : Json) : List Json :=
  match contentOf node with
  | .arr items => items
  | _ => []

/-- The types of the nodes that end a line. -/
def endsLine (node : Json) : Bool :=
  isObject node && ["paragraph", "heading", "listItem"].any fun name => nodeType node == .str name

theorem nodes_sum (items : List Json) : (items.map jsonNodes).sum = nodesOfItems items := by
  induction items with
  | nil => rfl
  | cons item items ih => rw [List.map_cons, List.sum_cons, ih, nodesOfItems]

theorem nodes_lookup {fields : Fields} {key : String} {value : Json}
    (found : fields.lookup key = some value) : jsonNodes value ≤ nodesOfMembers fields := by
  induction fields with
  | nil => cases found
  | cons field fields ih =>
    obtain ⟨name, first⟩ := field
    rw [Json.lookup_cons] at found
    rw [nodesOfMembers]
    split at found
    · cases found
      exact Nat.le_add_right ..
    · exact (ih found).trans (Nat.le_add_left ..)

/-- Children come from a content list. -/
theorem children_cases (node : Json) : childrenOf node = [] ∨ ∃ fields items,
    node = .obj fields ∧ fields.lookup "content" = some (.arr items) ∧ childrenOf node = items := by
  cases node with
  | obj fields =>
    unfold childrenOf contentOf
    cases found : fields.lookup "content" with
    | none =>
      refine .inl ?_
      change (match (fields.lookup "content").getD (.arr []) with | .arr items => items | _ => []) = []
      rw [found]
      rfl
    | some content =>
      have content_eq : ((Json.obj fields).get? "content").getD (.arr []) = content := by
        change (fields.lookup "content").getD (.arr []) = content
        rw [found]
        rfl
      rw [content_eq]
      cases content with
      | arr items => exact .inr ⟨fields, items, rfl, found, rfl⟩
      | _ => exact .inl rfl
  | _ => exact .inl rfl

theorem children_smaller (node : Json) : ((childrenOf node).map jsonNodes).sum < jsonNodes node := by
  obtain childless | ⟨fields, items, rfl, found, listed⟩ := children_cases node
  · rw [childless]
    exact nodes_pos node
  · have smaller := nodes_lookup found
    rw [jsonNodes] at smaller
    rw [listed, nodes_sum, jsonNodes]
    omega

/-- The nodes of a document under their content lists. -/
def documents : Shape Json where
  children := childrenOf
  size := jsonNodes
  smaller := children_smaller

/-! ## The walk -/

/-- The parts so far and their bytes. -/
structure Rendering where
  parts : List String
  renderedBytes : Nat
deriving DecidableEq

/-- A part is added. -/
def Rendering.append (r : Rendering) (part : String) : Rendering :=
  ⟨r.parts ++ [part], r.renderedBytes + part.utf8ByteSize⟩

/-- A text node or a hard break adds its text. -/
def enterText (maxBytes : Nat) (node : Json) (r : Rendering) : Except Exn Rendering :=
  if nodeType node = .str "text" then
    match getValue node "text" with
    | .str text =>
      if r.renderedBytes + text.utf8ByteSize > maxBytes then
        .error (connectorError "Jira review text exceeds its field bound")
      else .ok (r.append text)
    | _ => .error (connectorError "Jira ADF text node is invalid")
  else if nodeType node = .str "hardBreak" then .ok (r.append "\n")
  else .ok r

/-- What the loop does with a node that it enters. -/
def enterNode (maxBytes : Nat) (node : Json) (r : Rendering) : Except Exn Rendering :=
  if !isObject node then .error (connectorError "Jira ADF content contains an unsupported node")
  else
    match nodeType node with
    | .str kind =>
      if kind.isEmpty then .error (connectorError "Jira ADF content contains an invalid node type")
      else
        enterText maxBytes node r >>= fun r =>
          match contentOf node with
          | .arr _ => .ok r
          | _ => .error (connectorError "Jira ADF content must be a list")
    | _ => .error (connectorError "Jira ADF content contains an invalid node type")

def exitNode (node : Json) (r : Rendering) : Rendering :=
  if endsLine node then r.append "\n" else r

def visitor (maxBytes : Nat) : Visitor Json Rendering Exn where
  enter := enterNode maxBytes
  exit := exitNode

/-- `_review_text`; the walk starts with the document alone on the stack. -/
def reviewText (value : Json) (fieldName : String) : Except Exn String :=
  if isNull value then .ok ""
  else
    match measureJsonResources ("Jira review field " ++ fieldName) MAX_REVIEW_TEXT_BYTES value with
    | .error _ => .error (connectorError "Jira review text exceeds its field bound")
    | .ok _ =>
      match value with
      | .str text => .ok text
      | _ =>
        if !isObject value || getValue value "type" != .str "doc" then
          .error (connectorError "Jira review text must be plain text or Atlassian ADF")
        else
          run documents (visitor MAX_REVIEW_TEXT_BYTES) [.enter value] ⟨[], 0⟩ >>= fun r =>
            .ok (rstrip (String.join r.parts))

/-! ## The text of a document -/

/-- What a node itself adds. -/
def own (node : Json) : String :=
  if nodeType node = .str "text" then
    match getValue node "text" with
    | .str text => text
    | _ => ""
  else if nodeType node = .str "hardBreak" then "\n"
  else ""

/-- What follows the children of a node. -/
def lineEnd (node : Json) : String := if endsLine node then "\n" else ""

/-- The text of a node: its own, that of its children in their order, and the end of its line. -/
def flatten (node : Json) : String :=
  own node ++ String.join ((childrenOf node).attach.map fun child => flatten child.1) ++ lineEnd node
termination_by jsonNodes node
decreasing_by exact documents.size_child child.2

theorem flatten_eq (node : Json) :
    flatten node = own node ++ String.join ((childrenOf node).map flatten) ++ lineEnd node := by
  rw [flatten, List.attach_map_val]

/-- A part of a text, and whether it is that of a text node. -/
structure Piece where
  isText : Bool
  text : String

def ownPieces (node : Json) : List Piece :=
  if nodeType node = .str "text" then [⟨true, own node⟩]
  else if nodeType node = .str "hardBreak" then [⟨false, own node⟩]
  else []

/-- The parts of the text of a node, in their order. -/
def pieces (node : Json) : List Piece :=
  ownPieces node ++ (childrenOf node).attach.flatMap (fun child => pieces child.1) ++
    if endsLine node then [⟨false, "\n"⟩] else []
termination_by jsonNodes node
decreasing_by exact documents.size_child child.2

/-- From a size on, the size after each text node stays within the bound. -/
def Fits (maxBytes : Nat) : Nat → List Piece → Prop
  | _, [] => True
  | size, piece :: rest =>
    (piece.isText → size + piece.text.utf8ByteSize ≤ maxBytes) ∧
      Fits maxBytes (size + piece.text.utf8ByteSize) rest

/-- A node that the text can be read of. -/
def Sound (node : Json) : Prop :=
  isObject node = true ∧ (∃ kind, nodeType node = .str kind ∧ kind ≠ "") ∧
    (nodeType node = .str "text" → ∃ text, getValue node "text" = .str text) ∧
    ∃ items, contentOf node = .arr items

/-! ## The walk in terms of the parts -/

def bytesOf (ps : List Piece) : Nat := (ps.map (·.text.utf8ByteSize)).sum

def Rendering.appendAll (r : Rendering) (ps : List Piece) : Rendering :=
  ⟨r.parts ++ ps.map (·.text), r.renderedBytes + bytesOf ps⟩

section
variable {maxBytes : Nat} {node : Json} {r s : Rendering}

@[simp] theorem bytesOf_nil : bytesOf [] = 0 := rfl

@[simp] theorem bytesOf_cons {p : Piece} {ps : List Piece} :
    bytesOf (p :: ps) = p.text.utf8ByteSize + bytesOf ps := by
  rw [bytesOf, List.map_cons, List.sum_cons, bytesOf]

@[simp] theorem bytesOf_append {ps qs : List Piece} : bytesOf (ps ++ qs) = bytesOf ps + bytesOf qs := by
  rw [bytesOf, List.map_append, List.sum_append, bytesOf, bytesOf]

@[simp] theorem appendAll_nil : r.appendAll [] = r := by
  rw [Rendering.appendAll, List.map_nil, List.append_nil]
  rfl

theorem appendAll_one {isText : Bool} {text : String} :
    r.appendAll [⟨isText, text⟩] = r.append text := rfl

theorem appendAll_append {ps qs : List Piece} :
    r.appendAll (ps ++ qs) = (r.appendAll ps).appendAll qs := by
  simp only [Rendering.appendAll, List.map_append, List.append_assoc, bytesOf_append, Nat.add_assoc]

theorem fits_append {size : Nat} {ps qs : List Piece} : Fits maxBytes size (ps ++ qs) ↔
    Fits maxBytes size ps ∧ Fits maxBytes (size + bytesOf ps) qs := by
  induction ps generalizing size with
  | nil => simp [Fits]
  | cons p ps ih => simp [Fits, ih, and_assoc, Nat.add_assoc]

theorem fits_of_bytes {size : Nat} {ps : List Piece} (small : size + bytesOf ps ≤ maxBytes) :
    Fits maxBytes size ps := by
  induction ps generalizing size with
  | nil => trivial
  | cons p ps ih =>
    rw [bytesOf_cons, ← Nat.add_assoc] at small
    exact ⟨fun _ => (Nat.le_add_right ..).trans small, ih small⟩

theorem pieces_eq (node : Json) : pieces node =
    ownPieces node ++ (childrenOf node).flatMap pieces ++
      if endsLine node then [⟨false, "\n"⟩] else [] := by
  rw [pieces, List.flatMap_subtype fun _ _ => rfl, List.unattach_attach]

/-- The parts make up the text. -/
theorem join_pieces (node : Json) : String.join ((pieces node).map (·.text)) = flatten node := by
  induction node using documents.induction with
  | step node ih =>
    have children : ∀ nodes : List Json, (∀ child ∈ nodes, child ∈ childrenOf node) →
        String.join ((nodes.flatMap pieces).map (·.text)) = String.join (nodes.map flatten) := by
      intro nodes listed
      induction nodes with
      | nil => rfl
      | cons child nodes step =>
        rw [List.flatMap_cons, List.map_append, String.join_append, List.map_cons, String.join_cons,
          ih child (listed child List.mem_cons_self),
          step fun later member => listed later (List.mem_cons_of_mem _ member)]
    have first : String.join ((ownPieces node).map (·.text)) = own node := by
      unfold ownPieces own
      split <;> [skip; split] <;> simp [String.join]
    have last : String.join ((if endsLine node then [(⟨false, "\n"⟩ : Piece)] else []).map (·.text)) =
        lineEnd node := by
      unfold lineEnd
      split <;> rfl
    rw [pieces_eq, flatten_eq, List.map_append, List.map_append, String.join_append, String.join_append,
      children _ fun _ listed => listed, first, last]

theorem enterText_ok (sound : nodeType node = .str "text" → ∃ text, getValue node "text" = .str text) :
    enterText maxBytes node r = .ok s ↔
      Fits maxBytes r.renderedBytes (ownPieces node) ∧ s = r.appendAll (ownPieces node) := by
  unfold enterText ownPieces own
  by_cases isText : nodeType node = .str "text"
  · obtain ⟨text, given⟩ := sound isText
    simp only [if_pos isText, given, appendAll_one, Fits]
    split
    · next large => simp [Nat.not_le.mpr large]
    · next small => simp [Nat.not_lt.mp small, eq_comm]
  · simp only [if_neg isText]
    split <;> simp [Fits, appendAll_one, eq_comm]

/-- What it takes to enter a node. -/
theorem enterNode_ok : enterNode maxBytes node r = .ok s ↔
    Sound node ∧ Fits maxBytes r.renderedBytes (ownPieces node) ∧ s = r.appendAll (ownPieces node) := by
  unfold enterNode Sound
  cases isObject node with
  | false => simp
  | true =>
    cases named : nodeType node with
    | str kind =>
      by_cases empty : kind = ""
      · subst empty
        simp
      · have filled : kind.isEmpty = false := by simpa using empty
        simp only [Bool.not_true, Bool.false_eq_true, if_false, filled, true_and, Json.str.injEq,
          exists_eq_left', ne_eq, empty, not_false_eq_true]
        constructor
        · intro entered
          obtain ⟨t, texts, rest⟩ := of_bind_ok entered
          have sound : nodeType node = .str "text" → ∃ text, getValue node "text" = .str text := by
            intro isText
            unfold enterText at texts
            rw [if_pos isText] at texts
            cases given : getValue node "text" with
            | str text => exact ⟨text, rfl⟩
            | _ =>
              rw [given] at texts
              cases texts
          obtain ⟨fits, rfl⟩ := (enterText_ok sound).mp texts
          cases content : contentOf node with
          | arr items =>
            rw [content] at rest
            cases rest
            exact ⟨⟨fun isText => sound (named.trans (congrArg Json.str isText)), items, rfl⟩, fits, rfl⟩
          | _ =>
            rw [content] at rest
            cases rest
        · rintro ⟨⟨sound, items, content⟩, fits, rfl⟩
          have typed : nodeType node = .str "text" → ∃ text, getValue node "text" = .str text :=
            fun isText => sound (Json.str.inj (named.symm.trans isText))
          rw [(enterText_ok typed).mpr ⟨fits, rfl⟩, ok_bind, content]
    | _ => simp

/-- The visits of nodes one after the other, given what the walk of each of them does. -/
theorem children_ok {nodes : List Json}
    (each : ∀ child ∈ nodes, ∀ r s : Rendering, fold documents (visitor maxBytes) child r = .ok s ↔
      (∀ inner, documents.Reaches child inner → Sound inner) ∧
        Fits maxBytes r.renderedBytes (pieces child) ∧ s = r.appendAll (pieces child)) :
    ∀ r s : Rendering, nodes.foldlM (fun r child => fold documents (visitor maxBytes) child r) r = .ok s ↔
      (∀ child ∈ nodes, ∀ inner, documents.Reaches child inner → Sound inner) ∧
        Fits maxBytes r.renderedBytes (nodes.flatMap pieces) ∧ s = r.appendAll (nodes.flatMap pieces) := by
  induction nodes with
  | nil =>
    intro r s
    simp [Fits, pure_ok, eq_comm]
  | cons child nodes ih =>
    intro r s
    have later := ih fun later member => each later (List.mem_cons_of_mem _ member)
    rw [List.foldlM_cons, bind_ok_iff, List.flatMap_cons, fits_append, appendAll_append,
      List.forall_mem_cons]
    constructor
    · rintro ⟨t, first, rest⟩
      obtain ⟨sound, fits, rfl⟩ := (each child List.mem_cons_self r t).mp first
      obtain ⟨sounds, fitsRest, rfl⟩ := (later _ s).mp rest
      exact ⟨⟨sound, sounds⟩, ⟨fits, fitsRest⟩, rfl⟩
    · rintro ⟨⟨sound, sounds⟩, ⟨fits, fitsRest⟩, rfl⟩
      exact ⟨_, (each child List.mem_cons_self r _).mpr ⟨sound, fits, rfl⟩,
        (later _ _).mpr ⟨sounds, fitsRest, rfl⟩⟩

theorem exitNode_eq : exitNode node r =
    r.appendAll (if endsLine node then [⟨false, "\n"⟩] else []) := by
  unfold exitNode
  split
  · rfl
  · rw [appendAll_nil]

/-- The walk of a node ends exactly when all nodes are sound and the size stays within the bound, and
it adds the parts of the node. -/
theorem walk_spec (node : Json) : ∀ r s : Rendering,
    fold documents (visitor maxBytes) node r = .ok s ↔
      (∀ inner, documents.Reaches node inner → Sound inner) ∧
        Fits maxBytes r.renderedBytes (pieces node) ∧ s = r.appendAll (pieces node) := by
  induction node using documents.induction with
  | step node ih =>
    intro r s
    have ends (size : Nat) : Fits maxBytes size
        (if endsLine node then [⟨false, "\n"⟩] else []) := by split <;> simp [Fits]
    rw [fold, bind_ok_iff, Shape.forall_reaches_iff, pieces_eq, fits_append, fits_append,
      appendAll_append, appendAll_append]
    constructor
    · rintro ⟨t, entered, rest⟩
      obtain ⟨sound, fits, rfl⟩ := enterNode_ok.mp entered
      obtain ⟨u, walked, left⟩ := of_bind_ok rest
      obtain ⟨sounds, fitsRest, rfl⟩ := (children_ok ih _ u).mp walked
      cases left
      exact ⟨⟨sound, sounds⟩, ⟨⟨fits, fitsRest⟩, ends _⟩, exitNode_eq⟩
    · rintro ⟨⟨sound, sounds⟩, ⟨⟨fits, fitsRest⟩, -⟩, rfl⟩
      refine ⟨_, enterNode_ok.mpr ⟨sound, fits, rfl⟩, ?_⟩
      rw [(children_ok ih _ _).mpr ⟨sounds, fitsRest, rfl⟩, ok_bind]
      exact congrArg Except.ok exitNode_eq

theorem enterText_error {e : Exn} (failed : enterText maxBytes node r = .error e) :
    e.kind = .connector := by
  unfold enterText at failed
  split at failed
  · split at failed
    · split at failed <;> cases failed
      rfl
    · cases failed
      rfl
  · split at failed <;> cases failed

/-- What is raised on the way is a connector error. -/
theorem enterNode_error {e : Exn} (failed : enterNode maxBytes node r = .error e) :
    e.kind = .connector := by
  unfold enterNode at failed
  split at failed
  · cases failed
    rfl
  · split at failed
    · split at failed
      · cases failed
        rfl
      · cases texts : enterText maxBytes node r with
        | error raised =>
          rw [texts] at failed
          cases failed
          exact enterText_error texts
        | ok rendered =>
          rw [texts, ok_bind] at failed
          split at failed <;> cases failed
          rfl
    · cases failed
      rfl

end

/-! ## The size of the text -/

/-- The bytes of a member that is there. -/
def memberBytes (fields : Fields) (key : String) : Nat := ((fields.lookup key).map jsonBytes).getD 0

theorem memberBytes_le (fields : Fields) (key : String) :
    memberBytes fields key ≤ bytesOfMembers fields := by
  induction fields with
  | nil => exact Nat.le_refl 0
  | cons field fields ih =>
    obtain ⟨name, first⟩ := field
    unfold memberBytes at ih ⊢
    rw [Json.lookup_cons, bytesOfMembers]
    split
    · exact Nat.le_add_right ..
    · exact ih.trans (Nat.le_add_left ..)

/-- Members under different keys are measured both. -/
theorem memberBytes_two (fields : Fields) {key other : String} (differ : key ≠ other) :
    memberBytes fields key + memberBytes fields other ≤ bytesOfMembers fields := by
  induction fields with
  | nil => exact Nat.le_refl 0
  | cons field fields ih =>
    obtain ⟨name, first⟩ := field
    have single := memberBytes_le fields
    unfold memberBytes at ih single ⊢
    rw [Json.lookup_cons, Json.lookup_cons, bytesOfMembers]
    split
    · next same =>
      rw [if_neg fun also => differ (same.trans also.symm)]
      exact Nat.add_le_add_left (single other) _
    · split
      · next same =>
        rw [Nat.add_comm]
        exact Nat.add_le_add_left (single key) _
      · exact ih.trans (Nat.le_add_left ..)

theorem key_le {fields : Fields} {key : String} {value : Json}
    (found : fields.lookup key = some value) : key.utf8ByteSize ≤ bytesOfKeys fields := by
  induction fields with
  | nil => cases found
  | cons field fields ih =>
    obtain ⟨name, first⟩ := field
    rw [Json.lookup_cons] at found
    rw [bytesOfKeys]
    split at found
    · next same =>
      rw [same]
      exact Nat.le_add_right ..
    · exact (ih found).trans (Nat.le_add_left ..)

theorem children_bytes {items : List Json}
    (each : ∀ child ∈ items, bytesOf (pieces child) ≤ jsonBytes child) :
    bytesOf (items.flatMap pieces) ≤ bytesOfItems items := by
  induction items with
  | nil => exact Nat.le_refl 0
  | cons child items ih =>
    rw [List.flatMap_cons, bytesOf_append, bytesOfItems]
    exact Nat.add_le_add (each child List.mem_cons_self)
      (ih fun later member => each later (List.mem_cons_of_mem _ member))

theorem lineEnd_bytes (node : Json) : bytesOf (if endsLine node then [⟨false, "\n"⟩] else []) =
    if endsLine node then 1 else 0 := by
  split <;> rfl

/-- What a node adds besides its children was measured in its text or in the name of a key. -/
theorem own_bytes (fields : Fields) :
    bytesOf (ownPieces (.obj fields)) + (if endsLine (.obj fields) then 1 else 0) ≤
        memberBytes fields "text" ∨
      bytesOf (ownPieces (.obj fields)) + (if endsLine (.obj fields) then 1 else 0) ≤
        bytesOfKeys fields := by
  cases found : fields.lookup "type" with
  | none =>
    have untyped : nodeType (.obj fields) = .null := by
      change (fields.lookup "type").getD .null = .null
      rw [found]
      rfl
    refine .inl ?_
    unfold ownPieces endsLine
    rw [untyped]
    exact Nat.zero_le _
  | some kind =>
    have typed : nodeType (.obj fields) = kind := by
      change (fields.lookup "type").getD .null = kind
      rw [found]
      rfl
    have named : 4 ≤ bytesOfKeys fields := key_le found
    by_cases isText : kind = .str "text"
    · refine .inl ?_
      unfold ownPieces endsLine own getValue memberBytes
      rw [typed, isText]
      change bytesOf [⟨true, match (fields.lookup "text").getD .null with
        | .str text => text
        | _ => ""⟩] + 0 ≤ _
      cases fields.lookup "text" with
      | none => exact Nat.le_refl 0
      | some value => cases value <;> simp [jsonBytes]
    · refine .inr (Nat.le_trans ?_ named)
      unfold ownPieces own
      rw [typed, if_neg isText, if_neg isText]
      have ending : (if endsLine (.obj fields) then 1 else 0) ≤ 1 := by split <;> simp
      split
      · change 1 + 0 + _ ≤ 4
        omega
      · change 0 + _ ≤ 4
        omega

/-- The text of a document is not larger than what was measured of it. -/
theorem pieces_bytes (node : Json) : bytesOf (pieces node) ≤ jsonBytes node := by
  induction node using documents.induction with
  | step node ih =>
    rw [pieces_eq, bytesOf_append, bytesOf_append, lineEnd_bytes]
    cases node with
    | obj fields =>
      have children : bytesOf ((childrenOf (.obj fields)).flatMap pieces) ≤
          memberBytes fields "content" := by
        obtain childless | ⟨_, items, same, found, listed⟩ := children_cases (.obj fields)
        · rw [childless]
          exact Nat.zero_le _
        · cases same
          have bytes := children_bytes ih
          change bytesOf ((childrenOf (.obj _)).flatMap pieces) ≤ bytesOfItems (childrenOf _) at bytes
          unfold memberBytes
          rw [found]
          rw [listed] at bytes ⊢
          exact bytes
      have both := memberBytes_two fields (by decide : "text" ≠ "content")
      have content := memberBytes_le fields "content"
      rw [jsonBytes]
      obtain measured | measured := own_bytes fields <;> omega
    | _ => exact Nat.zero_le _

theorem rstrip_bytes (text : String) : (rstrip text).utf8ByteSize ≤ text.utf8ByteSize := by
  have split : text = rstrip text ++ String.ofList (text.toList.reverse.takeWhile isSpace).reverse := by
    unfold rstrip
    rw [← String.ofList_append, ← List.reverse_append, List.takeWhile_append_dropWhile,
      List.reverse_reverse, String.ofList_toList]
  conv_rhs => rw [split]
  rw [String.utf8ByteSize_append]
  exact Nat.le_add_right ..

theorem join_bytes (ps : List Piece) : (String.join (ps.map (·.text))).utf8ByteSize = bytesOf ps := by
  induction ps with
  | nil => rfl
  | cons p ps ih => rw [List.map_cons, String.join_cons, String.utf8ByteSize_append, ih, bytesOf_cons]

/-! ## What comes back -/

/-- The read of a document that was measured is its walk. -/
theorem reviewText_document {fieldName : String} {value : Json} (isDocument : nodeType value = .str "doc")
    (measured : ∃ usage, measureJsonResources ("Jira review field " ++ fieldName)
      MAX_REVIEW_TEXT_BYTES value = .ok usage) :
    reviewText value fieldName = fold documents (visitor MAX_REVIEW_TEXT_BYTES) value ⟨[], 0⟩ >>= fun r =>
      .ok (rstrip (String.join r.parts)) := by
  obtain ⟨usage, accepted⟩ := measured
  cases value with
  | obj fields =>
    unfold nodeType at isDocument
    unfold reviewText
    rw [accepted, isDocument, run_root]
    rfl
  | _ => cases isDocument

/-- The text of a document that was measured within the bound. Its walk ends; it raises a connector
error when some node under the content lists is not sound or the size exceeds the bound at a text
node, and otherwise returns the flattened text without its trailing space, which is within the
bound. The size never exceeds it. -/
theorem review_text_flattens (fieldName : String) (value : Json) (isDocument : nodeType value = .str "doc")
    (measured : ∃ usage, measureJsonResources ("Jira review field " ++ fieldName)
      MAX_REVIEW_TEXT_BYTES value = .ok usage) :
    ((∃ e, reviewText value fieldName = .error e ∧ e.kind = .connector) ↔
        (∃ inner, documents.Reaches value inner ∧ ¬ Sound inner) ∨
          ¬ Fits MAX_REVIEW_TEXT_BYTES 0 (pieces value)) ∧
      (∀ e, reviewText value fieldName = .error e → e.kind = .connector) ∧
      (∀ text, reviewText value fieldName = .ok text →
        text = rstrip (flatten value) ∧ text.utf8ByteSize ≤ MAX_REVIEW_TEXT_BYTES) ∧
      Fits MAX_REVIEW_TEXT_BYTES 0 (pieces value) := by
  have small : bytesOf (pieces value) ≤ MAX_REVIEW_TEXT_BYTES :=
    (pieces_bytes value).trans (measured_iff.mp measured).2.2.1
  have fits : Fits MAX_REVIEW_TEXT_BYTES 0 (pieces value) :=
    fits_of_bytes ((Nat.zero_add _).symm ▸ small)
  have walked := reviewText_document isDocument measured
  have ends (r : Rendering) := @walk_spec MAX_REVIEW_TEXT_BYTES value ⟨[], 0⟩ r
  have errors (e : Exn) := @fold_error _ _ _ documents
    (visitor MAX_REVIEW_TEXT_BYTES) (fun e => e.kind = .connector)
    (fun _ _ _ failed => enterNode_error failed) value ⟨[], 0⟩ e
  rw [walked]
  cases rendered : fold documents (visitor MAX_REVIEW_TEXT_BYTES) value ⟨[], 0⟩ with
  | error raised =>
    have refused : ∃ inner, documents.Reaches value inner ∧ ¬ Sound inner := by
      by_contra none
      have sound : ∀ inner, documents.Reaches value inner → Sound inner :=
        fun inner reached => by_contra fun unsound => none ⟨inner, reached, unsound⟩
      have walk := (ends _).mpr ⟨sound, fits, rfl⟩
      rw [rendered] at walk
      cases walk
    exact ⟨⟨fun _ => .inl refused, fun _ => ⟨raised, rfl, errors raised rendered⟩⟩,
      fun e same => (by cases same; exact errors raised rendered), fun text same => (by cases same), fits⟩
  | ok r =>
    obtain ⟨sound, -, rfl⟩ := (ends r).mp rendered
    rw [ok_bind]
    have text_eq : String.join (Rendering.appendAll ⟨[], 0⟩ (pieces value)).parts = flatten value :=
      join_pieces value
    have textBytes : (flatten value).utf8ByteSize ≤ MAX_REVIEW_TEXT_BYTES := by
      rw [← join_pieces, join_bytes]
      exact small
    rw [text_eq]
    refine ⟨⟨fun ⟨e, raised, _⟩ => (by cases raised), ?_⟩, fun e raised => (by cases raised), ?_, fits⟩
    · rintro (⟨inner, reached, unsound⟩ | large)
      · exact absurd (sound inner reached) unsound
      · exact absurd fits large
    · rintro text same
      cases same
      exact ⟨rfl, (rstrip_bytes _).trans textBytes⟩

def textNode : Json := .obj [("type", .str "text"), ("text", .str "done")]

def paragraph : Json := .obj [("type", .str "paragraph"), ("content", .arr [textNode])]

/-- A document of one paragraph with one text. -/
def criteria : Json := .obj [("type", .str "doc"), ("content", .arr [paragraph])]

/-- The criteria come back without the end of their line. -/
theorem criteria_text : reviewText criteria "acceptance_criteria" = .ok "done" ∧
    "done" = rstrip (flatten criteria) ∧ "done".utf8ByteSize ≤ MAX_REVIEW_TEXT_BYTES := by
  have measured : ∃ usage, measureJsonResources ("Jira review field " ++ "acceptance_criteria")
      MAX_REVIEW_TEXT_BYTES criteria = .ok usage := ⟨⟨9, 50, 6⟩, by decide +kernel⟩
  have text (r : Rendering) (fits : ¬ r.renderedBytes + 4 > MAX_REVIEW_TEXT_BYTES) :
      fold documents (visitor MAX_REVIEW_TEXT_BYTES) textNode r = .ok (r.append "done") := by
    have entered : enterText MAX_REVIEW_TEXT_BYTES textNode r = .ok (r.append "done") := by
      change (if r.renderedBytes + 4 > MAX_REVIEW_TEXT_BYTES then _ else _) = _
      rw [if_neg fits]
    rw [fold]
    change (enterText _ _ _ >>= _) >>= _ = _
    rw [entered]
    rfl
  have single (node child : Json) (s : Rendering) (only : documents.children node = [child])
      (entered : enterNode MAX_REVIEW_TEXT_BYTES node ⟨[], 0⟩ = .ok ⟨[], 0⟩)
      (walked : fold documents (visitor MAX_REVIEW_TEXT_BYTES) child ⟨[], 0⟩ = .ok s) :
      fold documents (visitor MAX_REVIEW_TEXT_BYTES) node ⟨[], 0⟩ = .ok (exitNode node s) := by
    rw [fold, only]
    change (enterNode _ _ _ >>= _) = _
    rw [entered, ok_bind, List.foldlM_cons, walked]
    rfl
  have read : reviewText criteria "acceptance_criteria" = .ok "done" := by
    rw [reviewText_document rfl measured, single criteria paragraph _ rfl rfl
      (single paragraph textNode _ rfl rfl (text ⟨[], 0⟩ (by decide)))]
    decide +kernel
  exact ⟨read, (review_text_flattens "acceptance_criteria" criteria rfl measured).2.2.1 _ read⟩

end MasterAgent.Connectors.ReviewText
