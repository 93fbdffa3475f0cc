import Mathlib.Data.List.Basic

/-!
# Labelled trees

Finite trees whose nodes carry a label and whose edges carry the role a child has for its
parent: the shape of an abstract syntax tree.

Results:

1. `Tree.induction`: what holds of a node when it holds of its children holds of every tree;
2. `Tree.every_iff`: a check of every node, run bottom up, speaks about every node within the
   tree.
-/

namespace Base

/-- A node with its label and its children, each under its role. -/
inductive Tree (κ α : Type) where
  | node (label : α) (children : List (κ × Tree κ α))

namespace Tree

variable {κ α : Type}

def label : Tree κ α → α
  | .node label _ => label

def children : Tree κ α → List (κ × Tree κ α)
  | .node _ children => children

@[simp] theorem label_node (label : α) (children : List (κ × Tree κ α)) :
    (node label children).label = label := rfl

theorem sizeOf_child {label : α} {children : List (κ × Tree κ α)} {role : κ} {child : Tree κ α}
    (member : (role, child) ∈ children) : sizeOf child < sizeOf (node label children) := by
  have smaller := List.sizeOf_lt_of_mem member
  simp only [Prod.mk.sizeOf_spec, node.sizeOf_spec] at smaller ⊢
  omega

/-- Induction over the nodes of a tree, from the children to their parent. -/
@[elab_as_elim]
theorem induction {motive : Tree κ α → Prop}
    (step : ∀ label children, (∀ role child, (role, child) ∈ children → motive child) →
      motive (.node label children)) (tree : Tree κ α) : motive tree := by
  cases tree with
  | node label children =>
    refine step label children fun role child member => ?_
    exact induction step child
termination_by sizeOf tree
decreasing_by exact sizeOf_child member

/-- The children under one role, in order. -/
def childrenAt [DecidableEq κ] (role : κ) (children : List (κ × Tree κ α)) : List (Tree κ α) :=
  (children.filter fun edge => edge.1 = role).map Prod.snd

theorem mem_childrenAt [DecidableEq κ] {role : κ} {children : List (κ × Tree κ α)}
    {child : Tree κ α} : child ∈ childrenAt role children ↔ (role, child) ∈ children := by
  simp [childrenAt]

/-! ## The nodes within a tree -/

/-- `Within inner tree`: `inner` is `tree` or lies below it. -/
inductive Within : Tree κ α → Tree κ α → Prop
  | self (tree : Tree κ α) : Within tree tree
  | child {inner child : Tree κ α} {label : α} {children : List (κ × Tree κ α)} {role : κ}
      (member : (role, child) ∈ children) (below : Within inner child) :
      Within inner (.node label children)

theorem within_node {inner : Tree κ α} {label : α} {children : List (κ × Tree κ α)} :
    Within inner (.node label children) ↔
      inner = .node label children ∨
        ∃ role child, (role, child) ∈ children ∧ Within inner child := by
  constructor
  · intro within
    cases within with
    | self => exact .inl rfl
    | child member below => exact .inr ⟨_, _, member, below⟩
  · rintro (rfl | ⟨role, child, member, below⟩)
    · exact .self _
    · exact .child member below

/-! ## A check of every node -/

mutual
/-- Does the check hold of every node within the tree? -/
def every (check : α → List (κ × Tree κ α) → Bool) : Tree κ α → Bool
  | .node label children => check label children && everyOf check children

def everyOf (check : α → List (κ × Tree κ α) → Bool) : List (κ × Tree κ α) → Bool
  | [] => true
  | (_, child) :: rest => every check child && everyOf check rest
end

theorem everyOf_iff {check : α → List (κ × Tree κ α) → Bool} {children : List (κ × Tree κ α)} :
    everyOf check children = true ↔
      ∀ role child, (role, child) ∈ children → every check child = true := by
  induction children with
  | nil => simp [everyOf]
  | cons edge rest ih =>
    obtain ⟨role, child⟩ := edge
    rw [everyOf, Bool.and_eq_true, ih]
    constructor
    · rintro ⟨first, others⟩ role' child' member
      rcases List.mem_cons.mp member with same | later
      · cases same
        exact first
      · exact others role' child' later
    · intro all
      exact ⟨all role child List.mem_cons_self,
        fun role' child' member => all role' child' (List.mem_cons_of_mem _ member)⟩

theorem every_iff {check : α → List (κ × Tree κ α) → Bool} (tree : Tree κ α) :
    every check tree = true ↔
      ∀ inner, Within inner tree → check inner.label inner.children = true := by
  induction tree using induction with
  | step label children ih =>
    rw [every, Bool.and_eq_true, everyOf_iff]
    constructor
    · rintro ⟨here, below⟩ inner within
      rcases within_node.mp within with rfl | ⟨role, child, member, deeper⟩
      · exact here
      · exact (ih role child member).mp (below role child member) inner deeper
    · intro all
      refine ⟨all _ (.self _), fun role child member => (ih role child member).mpr ?_⟩
      exact fun inner deeper => all inner (.child member deeper)

end Tree
end Base
