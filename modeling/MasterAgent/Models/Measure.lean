import Mathlib.Logic.Relation
import MasterAgent.Models.Limits

/-!
# The iterative measurement

`measure_json_resources` as it runs: over objects with identities, with an explicit stack of
containers to enter and to leave, and the set of containers being walked.

Results:

1. `Unfolds.segment`: a piece of the stack that unfolds to finite trees is walked if the trees fit
   the limits, and is refused otherwise;
2. `measured_unfolding`: the measurement of a value with a finite unfolding;
3. `cyclic_refused`: a value that contains itself is refused;
4. `measures_json`: on JSON documents the walk and the recursion accept the same.
-/

namespace MasterAgent
open Base

/-- A value that is no container. A text is encodable, a float is finite unless it is said not to
be. -/
inductive Scalar where
  | null
  | bool (b : Bool)
  | int (n : Int)
  | float
  | nonFinite
  | str (s : String)
  | other (typeName : String)
deriving DecidableEq

/-- A reference: a scalar, or a container by its identity. -/
inductive Ref where
  | scalar (s : Scalar)
  | container (id : Nat)
deriving DecidableEq

/-- A container. A key that is no text has no name. -/
inductive Container where
  | mapping (items : List (Option String × Ref))
  | sequence (items : List Ref)
deriving DecidableEq

abbrev Heap := Nat → Container

/-- A value without sharing. -/
inductive Tree where
  | scalar (s : Scalar)
  | mapping (items : List (Option String × Tree))
  | sequence (items : List Tree)

/-! ## The walk -/

/-- What is still to do: enter a value at a depth, or leave a container. -/
inductive Frame where
  | enter (value : Ref) (depth : Nat)
  | exit (id : Nat)
deriving DecidableEq

structure WalkState where
  stack : List Frame
  active : List Nat
  usage : JsonResourceUsage
deriving DecidableEq

section
variable (context : String) (maxBytes : Nat) (heap : Heap)

/-- The bytes a scalar is charged. -/
def scalarCost : Scalar → Except Exn Nat
  | .null => .ok 4
  | .bool b => .ok (if b then 4 else 5)
  | .int n => .ok (integerCharacters n)
  | .float => .ok 24
  | .nonFinite => .error (validationError s!"{context} contains a non-finite number")
  | .str s => boundedStringBytes s context
  | .other typeName => .error (validationError
      s!"{context} contains a non-JSON-compatible value: {typeName}")

/-- The bytes the keys of a mapping are charged. -/
def keysCost {V : Type} : List (Option String × V) → Except Exn Nat
  | [] => .ok 0
  | (none, _) :: _ => .error (validationError s!"{context} object keys must be strings")
  | (some key, _) :: rest => do
      let bytes ← boundedStringBytes key context
      return bytes + (← keysCost rest)

/-- The references a container holds. -/
def Container.children : Container → List Ref
  | .mapping items => items.map Prod.snd
  | .sequence items => items

/-- A container is not too large, and not being walked already; the bytes of its keys. -/
def containerCost (active : List Nat) (id : Nat) : Except Exn Nat :=
  match heap id with
  | .mapping items =>
      if items.length > MAX_JSON_COLLECTION_ITEMS then
        .error (validationError (s!"{context} contains an object exceeding the " ++
          s!"{MAX_JSON_COLLECTION_ITEMS}-item limit"))
      else if id ∈ active then .error (validationError s!"{context} contains a cycle")
      else keysCost context items
  | .sequence items =>
      if items.length > MAX_JSON_COLLECTION_ITEMS then
        .error (validationError (s!"{context} contains an array exceeding the " ++
          s!"{MAX_JSON_COLLECTION_ITEMS}-item limit"))
      else if id ∈ active then .error (validationError s!"{context} contains a cycle")
      else .ok 0

/-- One turn of the loop over a stack that is not empty. -/
def turn (frame : Frame) (rest : List Frame) (active : List Nat) (u : JsonResourceUsage) :
    Except Exn WalkState :=
  match frame with
  | .exit id => .ok ⟨rest, active.erase id, u⟩
  | .enter value depth => do
      let u ← enter context depth u
      match value with
      | .scalar s => return ⟨rest, active, ← charge context maxBytes (← scalarCost context s) u⟩
      | .container id =>
          let bytes ← containerCost context heap active id
          return {
            stack := (heap id).children.map (.enter · (depth + 1)) ++ .exit id :: rest
            active := id :: active
            usage := ← charge context maxBytes bytes u }

/-- A turn enters one more node, or shortens the stack. -/
theorem turn_decreases {frame : Frame} {rest : List Frame} {active : List Nat}
    {u : JsonResourceUsage} {s : WalkState}
    (ran : turn context maxBytes heap frame rest active u = .ok s) :
    (s.usage.nodes = u.nodes + 1 ∧ s.usage.nodes ≤ MAX_JSON_NODES) ∨
      (s.usage.nodes = u.nodes ∧ s.stack.length = rest.length) := by
  cases frame with
  | exit id =>
      cases ran
      exact .inr ⟨rfl, rfl⟩
  | enter value depth =>
      obtain ⟨v, entered, ran⟩ := of_bind_ok ran
      obtain ⟨nodes, -, rfl⟩ := enter_ok.mp entered
      cases value with
      | scalar s =>
          obtain ⟨bytes, -, ran⟩ := of_bind_ok ran
          obtain ⟨w, charged, ran⟩ := of_bind_ok ran
          obtain ⟨-, rfl⟩ := charge_ok.mp charged
          cases ran
          exact .inl ⟨rfl, nodes⟩
      | container id =>
          obtain ⟨bytes, -, ran⟩ := of_bind_ok ran
          obtain ⟨w, charged, ran⟩ := of_bind_ok ran
          obtain ⟨-, rfl⟩ := charge_ok.mp charged
          cases ran
          exact .inl ⟨rfl, nodes⟩

/-- The loop: it ends, because every turn enters a node, of which the limit admits only so many, or
shortens the stack. -/
def measureFrom (s : WalkState) : Except Exn JsonResourceUsage :=
  match s with
  | ⟨[], _, u⟩ => .ok u
  | ⟨frame :: rest, active, u⟩ =>
      match _ran : turn context maxBytes heap frame rest active u with
      | .error e => .error e
      | .ok next => measureFrom next
termination_by (MAX_JSON_NODES - s.usage.nodes, s.stack.length)
decreasing_by
  rcases turn_decreases context maxBytes heap _ran with ⟨more, within⟩ | ⟨same, shorter⟩
  · exact Prod.Lex.left _ _ (by omega)
  · rw [same]
    exact Prod.Lex.right _ (by simp only [List.length_cons]; omega)

/-- `measure_json_resources` -/
def measureObject (value : Ref) : Except Exn JsonResourceUsage :=
  measureFrom context maxBytes heap ⟨[.enter value 1], [], ⟨0, 0, 0⟩⟩

end

/-! ## The recursive definition -/

namespace Tree

mutual
def depth : Tree → Nat
  | .scalar _ => 1
  | .mapping items => depthOfMapping items + 1
  | .sequence items => depthOfSequence items + 1
def depthOfSequence : List Tree → Nat
  | [] => 0
  | item :: items => max (depth item) (depthOfSequence items)
def depthOfMapping : List (Option String × Tree) → Nat
  | [] => 0
  | (_, value) :: items => max (depth value) (depthOfMapping items)
end

mutual
def nodes : Tree → Nat
  | .scalar _ => 1
  | .mapping items => nodesOfMapping items + 1
  | .sequence items => nodesOfSequence items + 1
def nodesOfSequence : List Tree → Nat
  | [] => 0
  | item :: items => nodes item + nodesOfSequence items
def nodesOfMapping : List (Option String × Tree) → Nat
  | [] => 0
  | (_, value) :: items => nodes value + nodesOfMapping items
end

end Tree

def Scalar.bytes : Scalar → Nat
  | .null => 4
  | .bool b => if b then 4 else 5
  | .int n => integerCharacters n
  | .float => 24
  | .nonFinite => 0
  | .str s => s.utf8ByteSize
  | .other _ => 0

/-- Bytes of the keys of a mapping. -/
def keysBytes {V : Type} : List (Option String × V) → Nat
  | [] => 0
  | (key, _) :: items => (key.elim 0 String.utf8ByteSize) + keysBytes items

/-- A finite number, a short text, or another JSON scalar. -/
def Scalar.Regular : Scalar → Prop
  | .str s => Short s
  | .nonFinite | .other _ => False
  | _ => True

/-- Every key is a short text. -/
def RegularKeys {V : Type} (items : List (Option String × V)) : Prop :=
  ∀ item ∈ items, ∃ key, item.1 = some key ∧ Short key

namespace Tree

mutual
def bytes : Tree → Nat
  | .scalar s => s.bytes
  | .mapping items => keysBytes items + bytesOfMapping items
  | .sequence items => bytesOfSequence items
def bytesOfSequence : List Tree → Nat
  | [] => 0
  | item :: items => bytes item + bytesOfSequence items
def bytesOfMapping : List (Option String × Tree) → Nat
  | [] => 0
  | (_, value) :: items => bytes value + bytesOfMapping items
end

mutual
/-- No text and no collection is oversized, keys are texts and numbers finite. -/
def Regular : Tree → Prop
  | .scalar s => s.Regular
  | .mapping items => items.length ≤ MAX_JSON_COLLECTION_ITEMS ∧ RegularKeys items ∧
      RegularMapping items
  | .sequence items => items.length ≤ MAX_JSON_COLLECTION_ITEMS ∧ RegularSequence items
def RegularSequence : List Tree → Prop
  | [] => True
  | item :: items => Regular item ∧ RegularSequence items
def RegularMapping : List (Option String × Tree) → Prop
  | [] => True
  | (_, value) :: items => Regular value ∧ RegularMapping items
end

/-- The values of a mapping, as a sequence. -/
theorem mapping_as_sequence : ∀ items : List (Option String × Tree),
    depthOfMapping items = depthOfSequence (items.map Prod.snd) ∧
      nodesOfMapping items = nodesOfSequence (items.map Prod.snd) ∧
      bytesOfMapping items = bytesOfSequence (items.map Prod.snd) ∧
      (RegularMapping items ↔ RegularSequence (items.map Prod.snd))
  | [] => ⟨rfl, rfl, rfl, Iff.rfl⟩
  | (key, value) :: items => by
      obtain ⟨depths, node_counts, byte_counts, regular⟩ := mapping_as_sequence items
      simp only [depthOfMapping, nodesOfMapping, bytesOfMapping, RegularMapping, List.map_cons,
        depthOfSequence, nodesOfSequence, bytesOfSequence, RegularSequence, depths, node_counts,
        byte_counts, regular, and_self]

theorem nodes_le_of_mem {t : Tree} : ∀ {items : List Tree}, t ∈ items →
    t.nodes ≤ nodesOfSequence items
  | item :: items, member => by
      rw [nodesOfSequence]
      rcases List.mem_cons.mp member with rfl | later
      · exact Nat.le_add_right _ _
      · exact le_trans (nodes_le_of_mem later) (Nat.le_add_left _ _)

end Tree

/-! ## Unfolding -/

section
variable {heap : Heap}

mutual
/-- The value of a reference, with every shared container copied. -/
inductive Unfolds (heap : Heap) : Ref → Tree → Prop
  | scalar (s : Scalar) : Unfolds heap (.scalar s) (.scalar s)
  | mapping {id : Nat} {items : List (Option String × Ref)} {trees : List (Option String × Tree)}
      (content : heap id = .mapping items)
      (keys : items.map Prod.fst = trees.map Prod.fst)
      (values : UnfoldsAll heap (items.map Prod.snd) (trees.map Prod.snd)) :
      Unfolds heap (.container id) (.mapping trees)
  | sequence {id : Nat} {items : List Ref} {trees : List Tree} (content : heap id = .sequence items)
      (values : UnfoldsAll heap items trees) : Unfolds heap (.container id) (.sequence trees)
inductive UnfoldsAll (heap : Heap) : List Ref → List Tree → Prop
  | nil : UnfoldsAll heap [] []
  | cons {value : Ref} {tree : Tree} {values : List Ref} {trees : List Tree}
      (head : Unfolds heap value tree) (tail : UnfoldsAll heap values trees) :
      UnfoldsAll heap (value :: values) (tree :: trees)
end

/-- Keys and values determine the items. -/
theorem items_ext {V : Type} {a b : List (Option String × V)}
    (keys : a.map Prod.fst = b.map Prod.fst) (values : a.map Prod.snd = b.map Prod.snd) : a = b := by
  rw [← List.zip_unzip a, ← List.zip_unzip b, List.unzip_fst, List.unzip_snd, List.unzip_fst,
    List.unzip_snd, keys, values]

mutual
/-- A value has one unfolding. -/
theorem Unfolds.unique {value : Ref} {a b : Tree} : Unfolds heap value a → Unfolds heap value b →
    a = b
  | .scalar _, .scalar _ => rfl
  | .mapping content keys values, .mapping content' keys' values' => by
      rw [content] at content'
      cases content'
      rw [items_ext (keys.symm.trans keys') (values.unique values')]
  | .sequence content values, .sequence content' values' => by
      rw [content] at content'
      cases content'
      rw [values.unique values']
  | .mapping content _ _, .sequence content' _ => by rw [content] at content'; cases content'
  | .sequence content _, .mapping content' _ _ => by rw [content] at content'; cases content'
theorem UnfoldsAll.unique {values : List Ref} {a b : List Tree} : UnfoldsAll heap values a →
    UnfoldsAll heap values b → a = b
  | .nil, .nil => rfl
  | .cons head tail, .cons head' tail' => by rw [head.unique head', tail.unique tail']
end

theorem UnfoldsAll.length_eq {values : List Ref} {trees : List Tree} :
    UnfoldsAll heap values trees → values.length = trees.length
  | .nil => rfl
  | .cons _ tail => by rw [List.length_cons, List.length_cons, tail.length_eq]

theorem UnfoldsAll.of_mem {value : Ref} {values : List Ref} {trees : List Tree} :
    UnfoldsAll heap values trees → value ∈ values → ∃ tree ∈ trees, Unfolds heap value tree
  | .cons head tail, member => by
      rcases List.mem_cons.mp member with rfl | later
      · exact ⟨_, List.mem_cons_self, head⟩
      · obtain ⟨tree, listed, unfolds⟩ := tail.of_mem later
        exact ⟨tree, List.mem_cons_of_mem _ listed, unfolds⟩

/-- What a container holds unfolds to smaller trees. -/
theorem Unfolds.child {id : Nat} {tree : Tree} (unfolds : Unfolds heap (.container id) tree)
    {value : Ref} (held : value ∈ (heap id).children) :
    ∃ part, Unfolds heap value part ∧ part.nodes < tree.nodes := by
  cases unfolds with
  | mapping content keys values =>
      rw [content] at held
      obtain ⟨part, listed, unfolds⟩ := values.of_mem held
      refine ⟨part, unfolds, ?_⟩
      rw [Tree.nodes, (Tree.mapping_as_sequence _).2.1]
      exact Nat.lt_succ_of_le (Tree.nodes_le_of_mem listed)
  | sequence content values =>
      rw [content] at held
      obtain ⟨part, listed, unfolds⟩ := values.of_mem held
      refine ⟨part, unfolds, ?_⟩
      rw [Tree.nodes]
      exact Nat.lt_succ_of_le (Tree.nodes_le_of_mem listed)

/-- The container `a` holds the container `b`. -/
def Holds (heap : Heap) (a b : Nat) : Prop := Ref.container b ∈ (heap a).children

/-- A value that unfolds holds no container that contains itself. -/
theorem unfolding_acyclic {id : Nat} {tree : Tree} (unfolds : Unfolds heap (.container id) tree)
    {a : Nat} (reached : Relation.ReflTransGen (Holds heap) id a) :
    ¬Relation.TransGen (Holds heap) a a := by
  have below : ∀ {a b : Nat} {tree : Tree}, Unfolds heap (.container a) tree →
      Relation.TransGen (Holds heap) a b →
      ∃ part, Unfolds heap (.container b) part ∧ part.nodes < tree.nodes := by
    intro a b tree unfolds path
    induction path with
    | single held => exact unfolds.child held
    | tail _ held ih =>
        obtain ⟨part, unfolds, smaller⟩ := ih
        obtain ⟨deeper, unfolds, smaller'⟩ := unfolds.child held
        exact ⟨deeper, unfolds, lt_trans smaller' smaller⟩
  intro cycle
  have reaches : ∃ part, Unfolds heap (.container a) part := by
    rcases Relation.reflTransGen_iff_eq_or_transGen.mp reached with rfl | path
    · exact ⟨tree, unfolds⟩
    · obtain ⟨part, unfolds, -⟩ := below unfolds path
      exact ⟨part, unfolds⟩
  obtain ⟨part, unfolds⟩ := reaches
  obtain ⟨again, unfolds', smaller⟩ := below unfolds cycle
  rw [unfolds.unique unfolds'] at smaller
  exact absurd smaller (lt_irrefl _)

end

/-! ## Costs -/

section
variable {context : String} {maxBytes : Nat} {heap : Heap}

theorem scalarCost_ok {s : Scalar} {n : Nat} :
    scalarCost context s = .ok n ↔ s.Regular ∧ n = s.bytes := by
  cases s with
  | str s => exact boundedStringBytes_ok
  | _ => simp [scalarCost, Scalar.Regular, Scalar.bytes, eq_comm]

theorem keysCost_ok {V : Type} {items : List (Option String × V)} {n : Nat} :
    keysCost context items = .ok n ↔ RegularKeys items ∧ n = keysBytes items := by
  unfold RegularKeys
  induction items generalizing n with
  | nil => simp [keysCost, keysBytes, eq_comm]
  | cons item items ih =>
      obtain ⟨_ | key, value⟩ := item
      · simp [keysCost]
      · simp only [keysCost, keysBytes, bind_ok_iff, boundedStringBytes_ok, ih, pure_ok,
          Except.ok.injEq, List.forall_mem_cons, Option.some.injEq, exists_eq_left',
          Option.elim_some]
        constructor
        · rintro ⟨_, ⟨short, rfl⟩, _, ⟨rest, rfl⟩, rfl⟩
          exact ⟨⟨short, rest⟩, rfl⟩
        · rintro ⟨⟨short, rest⟩, rfl⟩
          exact ⟨_, ⟨short, rfl⟩, _, ⟨rest, rfl⟩, rfl⟩

/-- What a container asks before its content is walked. -/
def Container.Regular : Container → Prop
  | .mapping items => items.length ≤ MAX_JSON_COLLECTION_ITEMS ∧ RegularKeys items
  | .sequence items => items.length ≤ MAX_JSON_COLLECTION_ITEMS

def Container.keys : Container → Nat
  | .mapping items => keysBytes items
  | .sequence _ => 0

theorem containerCost_ok {active : List Nat} {id n : Nat} (outside : id ∉ active) :
    containerCost context heap active id = .ok n ↔ (heap id).Regular ∧ n = (heap id).keys := by
  unfold containerCost
  cases heap id with
  | mapping items =>
      simp only [if_neg outside, Container.Regular, Container.keys]
      split
      · next large => simp [Nat.not_le.mpr large]
      · next small => simp [Nat.not_lt.mp small, keysCost_ok]
  | sequence items =>
      simp only [if_neg outside, Container.Regular, Container.keys]
      split
      · next large => simp [Nat.not_le.mpr large]
      · next small => simp [Nat.not_lt.mp small, eq_comm]

/-! ## Segments of the stack -/

theorem run_cons {frame : Frame} {rest : List Frame} {active : List Nat} {u : JsonResourceUsage} :
    measureFrom context maxBytes heap ⟨frame :: rest, active, u⟩ =
      turn context maxBytes heap frame rest active u >>= measureFrom context maxBytes heap := by
  rw [measureFrom]
  split <;> next ran => rw [ran]; rfl

/-- The usage after a walk over so much, from a depth on. -/
def JsonResourceUsage.grown (u : JsonResourceUsage) (depth levels nodes bytes : Nat) :
    JsonResourceUsage where
  nodes := u.nodes + nodes
  scalarBytes := u.scalarBytes + bytes
  maximumDepth := max u.maximumDepth (depth + levels - 1)

/-- A usage from which a walk at a depth can begin. -/
structure Ready (maxBytes depth : Nat) (u : JsonResourceUsage) : Prop where
  bounded : Bounded maxBytes u
  level : depth ≤ MAX_JSON_DEPTH + 1
  reached : depth ≤ u.maximumDepth + 1

theorem Ready.grown {maxBytes depth levels nodes bytes : Nat} {u : JsonResourceUsage}
    (ready : Ready maxBytes depth u) (room : Room maxBytes depth u levels nodes bytes) :
    Ready maxBytes depth (u.grown depth levels nodes bytes) :=
  ⟨room.2, ready.level, le_trans ready.reached (Nat.succ_le_succ (le_max_left _ _))⟩

/-- The frames on top of the stack are walked if they fit, and refused otherwise. -/
def Segment (context : String) (maxBytes : Nat) (heap : Heap) (frames : List Frame) (depth : Nat)
    (active : List Nat) (u : JsonResourceUsage) (levels nodes bytes : Nat) (regular : Prop) : Prop :=
  ∀ rest,
    (Room maxBytes depth u levels nodes bytes ∧ regular →
      measureFrom context maxBytes heap ⟨frames ++ rest, active, u⟩ =
        measureFrom context maxBytes heap ⟨rest, active, u.grown depth levels nodes bytes⟩) ∧
    ∀ v, measureFrom context maxBytes heap ⟨frames ++ rest, active, u⟩ = .ok v →
      Room maxBytes depth u levels nodes bytes ∧ regular

variable {depth : Nat} {active : List Nat} {u : JsonResourceUsage}

theorem Segment.nil (ready : Ready maxBytes depth u) :
    Segment context maxBytes heap [] depth active u 0 0 0 True := by
  have same : u.grown depth 0 0 0 = u := by
    have reached := ready.reached
    have deepest : max u.maximumDepth (depth + 0 - 1) = u.maximumDepth := by omega
    unfold JsonResourceUsage.grown
    rw [deepest]
    rfl
  intro rest
  rw [same]
  exact ⟨fun _ => rfl, fun _ _ => ⟨⟨ready.level, ready.bounded⟩, trivial⟩⟩

/-- One segment after another. -/
theorem Segment.append {front back : List Frame} {levels nodes bytes levels' nodes' bytes' : Nat}
    {regular regular' : Prop}
    (first : Segment context maxBytes heap front depth active u levels nodes bytes regular)
    (later : Room maxBytes depth u levels nodes bytes →
      Segment context maxBytes heap back depth active (u.grown depth levels nodes bytes) levels'
        nodes' bytes' regular')
    (ready : Ready maxBytes depth u) :
    Segment context maxBytes heap (front ++ back) depth active u (max levels levels')
      (nodes + nodes') (bytes + bytes') (regular ∧ regular') := by
  have reached := ready.reached
  have joined : (u.grown depth levels nodes bytes).grown depth levels' nodes' bytes' =
      u.grown depth (max levels levels') (nodes + nodes') (bytes + bytes') := by
    unfold JsonResourceUsage.grown
    congr 1 <;> simp only <;> omega
  have split : Room maxBytes depth u (max levels levels') (nodes + nodes') (bytes + bytes') ↔
      Room maxBytes depth u levels nodes bytes ∧
        Room maxBytes depth (u.grown depth levels nodes bytes) levels' nodes' bytes' := by
    unfold Room JsonResourceUsage.grown
    simp only
    omega
  intro rest
  rw [List.append_assoc, ← joined]
  constructor
  · rintro ⟨room, regular, regular'⟩
    obtain ⟨room, room'⟩ := split.mp room
    rw [(first (back ++ rest)).1 ⟨room, regular⟩, (later room rest).1 ⟨room', regular'⟩]
  · intro v result
    obtain ⟨room, regular⟩ := (first (back ++ rest)).2 v result
    rw [(first (back ++ rest)).1 ⟨room, regular⟩] at result
    obtain ⟨room', regular'⟩ := (later room rest).2 v result
    exact ⟨split.mpr ⟨room, room'⟩, regular, regular'⟩

/-- A scalar is entered, checked and charged. -/
theorem Segment.scalar (s : Scalar) :
    Segment context maxBytes heap [.enter (.scalar s) depth] depth active u 1 1 s.bytes
      s.Regular := by
  intro rest
  rw [List.singleton_append, run_cons]
  have turned : ∀ next, turn context maxBytes heap (.enter (.scalar s) depth) rest active u =
      .ok next ↔ (Room maxBytes depth u 1 1 s.bytes ∧ s.Regular) ∧
        next = ⟨rest, active, u.grown depth 1 1 s.bytes⟩ := by
    intro next
    simp only [turn, bind_ok_iff, enter_ok, scalarCost_ok, charge_ok, pure_ok, Except.ok.injEq]
    constructor
    · rintro ⟨_, ⟨nodes, deep, rfl⟩, _, ⟨regular, rfl⟩, _, ⟨fits, rfl⟩, rfl⟩
      exact ⟨⟨⟨by omega, nodes, fits⟩, regular⟩, rfl⟩
    · rintro ⟨⟨⟨deep, nodes, fits⟩, regular⟩, rfl⟩
      exact ⟨_, ⟨nodes, by omega, rfl⟩, _, ⟨regular, rfl⟩, _, ⟨fits, rfl⟩, rfl⟩
  constructor
  · intro fits
    rw [(turned _).mpr ⟨fits, rfl⟩]
    rfl
  · intro v result
    obtain ⟨next, ran, -⟩ := bind_ok_iff.mp result
    exact ((turned next).mp ran).1

/-- A container that is not being walked is entered, checked and charged for its keys, its content
is walked one level deeper, and it is left. -/
theorem Segment.container {id levels nodes bytes : Nat} {c : Container} {regular : Prop}
    (held : heap id = c) (outside : id ∉ active)
    (content : Ready maxBytes (depth + 1) (u.grown depth 1 1 c.keys) →
      Segment context maxBytes heap (c.children.map (.enter · (depth + 1))) (depth + 1)
        (id :: active) (u.grown depth 1 1 c.keys) levels nodes bytes regular) :
    Segment context maxBytes heap [.enter (.container id) depth] depth active u (levels + 1)
      (nodes + 1) (c.keys + bytes) (c.Regular ∧ regular) := by
  subst held
  intro rest
  rw [List.singleton_append, run_cons]
  have turned : ∀ next, turn context maxBytes heap (.enter (.container id) depth) rest active u =
      .ok next ↔ (Room maxBytes depth u 1 1 (heap id).keys ∧ (heap id).Regular) ∧
        next = ⟨(heap id).children.map (.enter · (depth + 1)) ++ .exit id :: rest, id :: active,
          u.grown depth 1 1 (heap id).keys⟩ := by
    intro next
    simp only [turn, bind_ok_iff, enter_ok, containerCost_ok outside, charge_ok, pure_ok,
      Except.ok.injEq]
    constructor
    · rintro ⟨_, ⟨nodes, deep, rfl⟩, _, ⟨regular, rfl⟩, _, ⟨fits, rfl⟩, rfl⟩
      exact ⟨⟨⟨by omega, nodes, fits⟩, regular⟩, rfl⟩
    · rintro ⟨⟨⟨deep, nodes, fits⟩, regular⟩, rfl⟩
      exact ⟨_, ⟨nodes, by omega, rfl⟩, _, ⟨regular, rfl⟩, _, ⟨fits, rfl⟩, rfl⟩
  have ready : Room maxBytes depth u 1 1 (heap id).keys →
      Ready maxBytes (depth + 1) (u.grown depth 1 1 (heap id).keys) := by
    rintro ⟨deep, nodes, fits⟩
    exact ⟨⟨nodes, fits⟩, by omega, Nat.succ_le_succ (le_max_right _ _)⟩
  have joined : (u.grown depth 1 1 (heap id).keys).grown (depth + 1) levels nodes bytes =
      u.grown depth (levels + 1) (nodes + 1) ((heap id).keys + bytes) := by
    unfold JsonResourceUsage.grown
    congr 1 <;> simp only <;> omega
  have split : Room maxBytes depth u (levels + 1) (nodes + 1) ((heap id).keys + bytes) ↔
      Room maxBytes depth u 1 1 (heap id).keys ∧
        Room maxBytes (depth + 1) (u.grown depth 1 1 (heap id).keys) levels nodes bytes := by
    unfold Room JsonResourceUsage.grown
    simp only
    omega
  constructor
  · rintro ⟨room, regular, regular'⟩
    obtain ⟨room, room'⟩ := split.mp room
    rw [(turned _).mpr ⟨⟨room, regular⟩, rfl⟩, ok_bind,
      (content (ready room) _).1 ⟨room', regular'⟩, run_cons, joined]
    show measureFrom context maxBytes heap ⟨rest, (id :: active).erase id, _⟩ = _
    rw [List.erase_cons_head]
  · intro v result
    obtain ⟨next, ran, result⟩ := bind_ok_iff.mp result
    obtain ⟨⟨room, regular⟩, rfl⟩ := (turned next).mp ran
    obtain ⟨room', regular'⟩ := (content (ready room) _).2 v result
    exact ⟨split.mpr ⟨room, room'⟩, regular, regular'⟩

/-! ## Walks over unfoldings -/

/-- No container that is being walked has an unfolding of so few nodes. -/
def Outside (heap : Heap) (active : List Nat) (nodes : Nat) : Prop :=
  ∀ id ∈ active, ∀ tree, Unfolds heap (.container id) tree → nodes < tree.nodes

theorem Outside.mono {nodes nodes' : Nat} (outside : Outside heap active nodes)
    (fewer : nodes' ≤ nodes) : Outside heap active nodes' :=
  fun id member tree unfolds => lt_of_le_of_lt fewer (outside id member tree unfolds)

/-- A container that unfolds to so few nodes is not being walked, and is the only larger one while
its content is. -/
theorem Outside.enter {id : Nat} {tree : Tree} (unfolds : Unfolds heap (.container id) tree)
    (outside : Outside heap active tree.nodes) :
    id ∉ active ∧ ∀ nodes < tree.nodes, Outside heap (id :: active) nodes := by
  refine ⟨fun member => absurd (outside id member tree unfolds) (lt_irrefl _), ?_⟩
  intro nodes fewer a member part unfolds'
  rcases List.mem_cons.mp member with rfl | member
  · rwa [unfolds'.unique unfolds]
  · exact lt_trans fewer (outside a member part unfolds')

theorem keysBytes_congr {V W : Type} : ∀ {items : List (Option String × V)}
    {trees : List (Option String × W)}, items.map Prod.fst = trees.map Prod.fst →
    keysBytes items = keysBytes trees
  | [], [], _ => rfl
  | item :: items, tree :: trees, keys => by
      obtain ⟨key, keys⟩ := List.cons.inj keys
      rw [keysBytes, keysBytes, key, keysBytes_congr keys]

theorem regularKeys_congr {V W : Type} {items : List (Option String × V)}
    {trees : List (Option String × W)} (keys : items.map Prod.fst = trees.map Prod.fst) :
    RegularKeys items ↔ RegularKeys trees := by
  have asked : ∀ {X : Type} (xs : List (Option String × X)), RegularKeys xs ↔
      ∀ key ∈ xs.map Prod.fst, ∃ text, key = some text ∧ Short text := by
    simp [RegularKeys]
  rw [asked, asked, keys]

mutual
/-- The walk over a value with an unfolding: while the sizes of the tree fit. -/
theorem Unfolds.segment {value : Ref} {tree : Tree} {depth : Nat} {active : List Nat}
    {u : JsonResourceUsage} : Unfolds heap value tree → Outside heap active tree.nodes →
    Segment context maxBytes heap [.enter value depth] depth active u tree.depth tree.nodes
      tree.bytes tree.Regular
  | .scalar s, _ => Segment.scalar s
  | @Unfolds.mapping _ id items trees content keys values, outside => by
      obtain ⟨fresh, within⟩ := outside.enter (.mapping content keys values)
      obtain ⟨depths, node_counts, byte_counts, regular⟩ := Tree.mapping_as_sequence trees
      have length_eq : items.length = trees.length := by simpa using congrArg List.length keys
      have walked : Segment context maxBytes heap [.enter (.container id) depth] depth active u
          (Tree.depthOfMapping trees + 1) (Tree.nodesOfMapping trees + 1)
          (keysBytes items + Tree.bytesOfMapping trees)
          ((items.length ≤ MAX_JSON_COLLECTION_ITEMS ∧ RegularKeys items) ∧
            Tree.RegularMapping trees) := by
        rw [depths, node_counts, byte_counts, regular]
        exact Segment.container content fresh fun deeper => UnfoldsAll.segment deeper values
          (within _ (by rw [Tree.nodes, node_counts]; exact Nat.lt_succ_self _))
      rwa [length_eq, keysBytes_congr keys, regularKeys_congr keys, and_assoc] at walked
  | @Unfolds.sequence _ id items trees content values, outside => by
      obtain ⟨fresh, within⟩ := outside.enter (.sequence content values)
      have walked : Segment context maxBytes heap [.enter (.container id) depth] depth active u
          (Tree.depthOfSequence trees + 1) (Tree.nodesOfSequence trees + 1)
          (0 + Tree.bytesOfSequence trees)
          (items.length ≤ MAX_JSON_COLLECTION_ITEMS ∧ Tree.RegularSequence trees) :=
        Segment.container content fresh fun deeper => UnfoldsAll.segment deeper values
          (within _ (Nat.lt_succ_self _))
      rwa [values.length_eq, Nat.zero_add] at walked
theorem UnfoldsAll.segment {values : List Ref} {trees : List Tree} {depth : Nat}
    {active : List Nat} {u : JsonResourceUsage} (ready : Ready maxBytes depth u) :
    UnfoldsAll heap values trees → Outside heap active (Tree.nodesOfSequence trees) →
    Segment context maxBytes heap (values.map (.enter · depth)) depth active u
      (Tree.depthOfSequence trees) (Tree.nodesOfSequence trees) (Tree.bytesOfSequence trees)
      (Tree.RegularSequence trees)
  | .nil, _ => Segment.nil ready
  | .cons head tail, outside =>
      Segment.append (head.segment (outside.mono (Nat.le_add_right _ _)))
        (fun room => tail.segment (ready.grown room) (outside.mono (Nat.le_add_left _ _))) ready
end

/-! ## The measurement -/

/-- A tree within the limits. -/
structure Tree.Fits (maxBytes : Nat) (tree : Tree) : Prop where
  depth : tree.depth ≤ MAX_JSON_DEPTH
  nodes : tree.nodes ≤ MAX_JSON_NODES
  bytes : tree.bytes ≤ maxBytes
  regular : tree.Regular

def Tree.usage (tree : Tree) : JsonResourceUsage := ⟨tree.nodes, tree.bytes, tree.depth⟩

/-- The measurement of a value with an unfolding is that of the tree. -/
theorem measured_unfolding {value : Ref} {tree : Tree} (unfolds : Unfolds heap value tree)
    {u : JsonResourceUsage} :
    measureObject context maxBytes heap value = .ok u ↔ tree.Fits maxBytes ∧ u = tree.usage := by
  have walked : Segment context maxBytes heap [.enter value 1] 1 [] ⟨0, 0, 0⟩ tree.depth tree.nodes
      tree.bytes tree.Regular :=
    unfolds.segment fun _ member => absurd member List.not_mem_nil
  have fits : Room maxBytes 1 ⟨0, 0, 0⟩ tree.depth tree.nodes tree.bytes ∧ tree.Regular ↔
      tree.Fits maxBytes := by
    unfold Room
    simp only [Nat.zero_add]
    constructor
    · rintro ⟨⟨deep, nodes, bytes⟩, regular⟩
      exact ⟨by omega, nodes, bytes, regular⟩
    · rintro ⟨deep, nodes, bytes, regular⟩
      exact ⟨⟨by omega, nodes, bytes⟩, regular⟩
  have total : JsonResourceUsage.grown ⟨0, 0, 0⟩ 1 tree.depth tree.nodes tree.bytes =
      tree.usage := by
    unfold JsonResourceUsage.grown Tree.usage
    congr 1 <;> simp only <;> omega
  obtain ⟨accepted, refused⟩ := walked []
  rw [fits, total] at accepted
  constructor
  · intro measured
    have small := fits.mp (refused u measured)
    have ended : measureFrom context maxBytes heap ⟨[], [], tree.usage⟩ = .ok tree.usage := by rw [measureFrom]
    have result := measured.symm.trans ((accepted small).trans ended)
    exact ⟨small, Except.ok.inj result⟩
  · rintro ⟨small, rfl⟩
    refine (accepted small).trans ?_
    rw [measureFrom]

theorem UnfoldsAll.of_forall : ∀ {values : List Ref},
    (∀ value ∈ values, ∃ tree, Unfolds heap value tree) → ∃ trees, UnfoldsAll heap values trees
  | [], _ => ⟨[], .nil⟩
  | value :: values, each => by
      obtain ⟨tree, head⟩ := each value List.mem_cons_self
      obtain ⟨trees, tail⟩ := UnfoldsAll.of_forall fun v member =>
        each v (List.mem_cons_of_mem _ member)
      exact ⟨tree :: trees, .cons head tail⟩

/-- A container whose content unfolds does. -/
theorem Unfolds.of_children {id : Nat}
    (each : ∀ value ∈ (heap id).children, ∃ tree, Unfolds heap value tree) :
    ∃ tree, Unfolds heap (.container id) tree := by
  obtain ⟨trees, values⟩ := UnfoldsAll.of_forall each
  cases content : heap id with
  | mapping items =>
      rw [content] at values
      have lengths : (items.map Prod.fst).length = trees.length := by
        rw [List.length_map, ← values.length_eq, Container.children, List.length_map]
      refine ⟨.mapping ((items.map Prod.fst).zip trees), .mapping content ?_ ?_⟩
      · rw [List.map_fst_zip (le_of_eq lengths)]
      · rw [List.map_snd_zip (le_of_eq lengths.symm)]
        exact values
  | sequence items =>
      rw [content] at values
      exact ⟨.sequence trees, .sequence content values⟩

/-- A walk that is not refused entered values with unfoldings only. -/
theorem run_unfolds {s : WalkState} {u : JsonResourceUsage}
    (ran : measureFrom context maxBytes heap s = .ok u) :
    ∀ value depth, .enter value depth ∈ s.stack → ∃ tree, Unfolds heap value tree := by
  induction s using measureFrom.induct context maxBytes heap with
  | case1 active usage =>
      intro value depth waiting
      cases waiting
  | case2 frame rest active usage e refused =>
      rw [run_cons, refused] at ran
      cases ran
  | case3 frame rest active usage next turned ih =>
      rw [run_cons, turned, ok_bind] at ran
      have later := ih ran
      intro value depth waiting
      cases frame with
      | exit id =>
          cases turned
          exact later value depth ((List.mem_cons.mp waiting).resolve_left nofun)
      | enter first level =>
          obtain ⟨entered, -, turned⟩ := bind_ok_iff.mp turned
          cases first with
          | scalar s =>
              obtain ⟨cost, -, turned⟩ := bind_ok_iff.mp turned
              obtain ⟨charged, -, turned⟩ := bind_ok_iff.mp turned
              cases turned
              rcases List.mem_cons.mp waiting with first | waiting
              · cases first
                exact ⟨_, .scalar s⟩
              · exact later value depth waiting
          | container id =>
              obtain ⟨cost, -, turned⟩ := bind_ok_iff.mp turned
              obtain ⟨charged, -, turned⟩ := bind_ok_iff.mp turned
              cases turned
              rcases List.mem_cons.mp waiting with first | waiting
              · cases first
                exact Unfolds.of_children fun value held => later value (depth + 1)
                  (List.mem_append_left _ (List.mem_map.mpr ⟨value, held, rfl⟩))
              · exact later value depth
                  (List.mem_append_right _ (List.mem_cons_of_mem _ waiting))

theorem measured_unfolds {value : Ref} {u : JsonResourceUsage}
    (measured : measureObject context maxBytes heap value = .ok u) :
    ∃ tree, Unfolds heap value tree :=
  run_unfolds measured value 1 List.mem_cons_self

/-- A value that holds a container that contains itself is refused. -/
theorem cyclic_refused {id a : Nat} (reached : Relation.ReflTransGen (Holds heap) id a)
    (cycle : Relation.TransGen (Holds heap) a a) (u : JsonResourceUsage) :
    measureObject context maxBytes heap (.container id) ≠ .ok u := by
  intro measured
  obtain ⟨tree, unfolds⟩ := measured_unfolds measured
  exact unfolding_acyclic unfolds reached cycle

/-! ## JSON documents -/

namespace Tree

mutual
def ofJson : Json → Tree
  | .null => .scalar .null
  | .bool b => .scalar (.bool b)
  | .int n => .scalar (.int n)
  | .float _ => .scalar .float
  | .str s => .scalar (.str s)
  | .arr items => .sequence (ofItems items)
  | .obj fields => .mapping (ofFields fields)
def ofItems : List Json → List Tree
  | [] => []
  | item :: items => ofJson item :: ofItems items
def ofFields : Fields → List (Option String × Tree)
  | [] => []
  | (key, value) :: fields => (some key, ofJson value) :: ofFields fields
end

/-- A document, its tree, and their sizes. -/
def SameSizes (levels nodes bytes : Nat) (regular : Prop) (levels' nodes' bytes' : Nat)
    (regular' : Prop) : Prop :=
  levels = levels' ∧ nodes = nodes' ∧ bytes = bytes' ∧ (regular ↔ regular')

theorem ofFields_keys (fields : Fields) :
    (ofFields fields).length = fields.length ∧ keysBytes (ofFields fields) = bytesOfKeys fields ∧
      (RegularKeys (ofFields fields) ↔ ∀ field ∈ fields, Short field.1) := by
  induction fields with
  | nil => exact ⟨rfl, rfl, by simp [RegularKeys, ofFields]⟩
  | cons field fields ih =>
      obtain ⟨key, value⟩ := field
      obtain ⟨length, bytes, short⟩ := ih
      refine ⟨congrArg Nat.succ length, congrArg (key.utf8ByteSize + ·) bytes, ?_⟩
      unfold RegularKeys at short ⊢
      simp only [ofFields, List.forall_mem_cons, short, Option.some.injEq, exists_eq_left']

mutual
theorem ofJson_sizes : ∀ value : Json, SameSizes (ofJson value).depth (ofJson value).nodes
    (ofJson value).bytes (ofJson value).Regular (jsonDepth value) (jsonNodes value)
    (jsonBytes value) (MasterAgent.Regular value)
  | .null | .bool _ | .int _ | .float _ | .str _ => ⟨rfl, rfl, rfl, Iff.rfl⟩
  | .arr items => by
      obtain ⟨levels, count, total, regular⟩ := ofItems_sizes items
      have length : (ofItems items).length = items.length := ofItems_length items
      refine ⟨congrArg Nat.succ levels, congrArg Nat.succ count, total, ?_⟩
      simp only [ofJson, Tree.Regular, MasterAgent.Regular, length, regular]
  | .obj fields => by
      obtain ⟨levels, count, total, regular⟩ := ofFields_sizes fields
      obtain ⟨length, key_bytes, keys⟩ := ofFields_keys fields
      refine ⟨congrArg Nat.succ levels, congrArg Nat.succ count, ?_, ?_⟩
      · simp only [ofJson, Tree.bytes, jsonBytes, key_bytes, total]
      · simp only [ofJson, Tree.Regular, MasterAgent.Regular, length, keys, regular]
theorem ofItems_sizes : ∀ items : List Json, SameSizes (depthOfSequence (ofItems items))
    (nodesOfSequence (ofItems items)) (bytesOfSequence (ofItems items))
    (RegularSequence (ofItems items)) (depthOfItems items) (nodesOfItems items)
    (bytesOfItems items) (RegularItems items)
  | [] => ⟨rfl, rfl, rfl, Iff.rfl⟩
  | item :: items => by
      obtain ⟨level, one, size, regular⟩ := ofJson_sizes item
      obtain ⟨levels, count, total, rest⟩ := ofItems_sizes items
      simp only [SameSizes, ofItems, depthOfSequence, nodesOfSequence, bytesOfSequence,
        RegularSequence, depthOfItems, nodesOfItems, bytesOfItems, RegularItems, level, one, size,
        regular, levels, count, total, rest, and_self]
theorem ofFields_sizes : ∀ fields : Fields, SameSizes (depthOfMapping (ofFields fields))
    (nodesOfMapping (ofFields fields)) (bytesOfMapping (ofFields fields))
    (RegularMapping (ofFields fields)) (depthOfMembers fields) (nodesOfMembers fields)
    (bytesOfMembers fields) (RegularMembers fields)
  | [] => ⟨rfl, rfl, rfl, Iff.rfl⟩
  | (_, value) :: fields => by
      obtain ⟨level, one, size, regular⟩ := ofJson_sizes value
      obtain ⟨levels, count, total, rest⟩ := ofFields_sizes fields
      simp only [SameSizes, ofFields, depthOfMapping, nodesOfMapping, bytesOfMapping,
        RegularMapping, depthOfMembers, nodesOfMembers, bytesOfMembers, RegularMembers, level, one,
        size, regular, levels, count, total, rest, and_self]
theorem ofItems_length : ∀ items : List Json, (ofItems items).length = items.length
  | [] => rfl
  | _ :: items => congrArg Nat.succ (ofItems_length items)
end

end Tree

/-- On objects that unfold to a document, the walk accepts what the recursion accepts. -/
theorem measures_json {value : Ref} {document : Json}
    (unfolds : Unfolds heap value (Tree.ofJson document)) :
    (∃ u, measureObject context maxBytes heap value = .ok u) ↔
      ∃ u, measureJsonResources context maxBytes document = .ok u := by
  obtain ⟨depth, nodes, bytes, regular⟩ := Tree.ofJson_sizes document
  rw [measured_iff, ← depth, ← nodes, ← bytes, ← regular]
  simp only [measured_unfolding unfolds]
  constructor
  · rintro ⟨u, ⟨depth, nodes, bytes, regular⟩, -⟩
    exact ⟨depth, nodes, bytes, regular⟩
  · rintro ⟨depth, nodes, bytes, regular⟩
    exact ⟨_, ⟨depth, nodes, bytes, regular⟩, rfl⟩

end

/-! ## What a measurement returns -/

namespace Measure.Samples

/-- An array that holds one object twice, and an array that holds itself. -/
def heap : Heap
  | 0 => .sequence [.container 1, .container 1]
  | 1 => .mapping [(some "k", .scalar .null)]
  | id => .sequence [.container id]

def shared : Tree := .mapping [(some "k", .scalar .null)]

theorem shared_unfolds : Unfolds heap (.container 0) (.sequence [shared, shared]) := by
  have inner : Unfolds heap (.container 1) shared :=
    .mapping rfl rfl (.cons (.scalar .null) .nil)
  exact .sequence rfl (.cons inner (.cons inner .nil))

theorem shared_document : (∃ u, measureObject "sample" 100 heap (.container 0) = .ok u) ↔
    ∃ u, measureJsonResources "sample" 100 (.arr [.obj [("k", .null)], .obj [("k", .null)]]) = .ok u :=
  measures_json shared_unfolds

end Measure.Samples

end MasterAgent
