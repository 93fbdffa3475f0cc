import Mathlib.Algebra.BigOperators.Ring.List
import Mathlib.Algebra.Order.BigOperators.Group.List
import Mathlib.Algebra.Order.Ring.Nat

/-!
# Traversal with an explicit stack

A tree is walked with a stack of nodes that are still to enter or to leave. What a visitor does at the
nodes may fail.

Results:

1. `Shape.induction`: what holds of a node when it holds of its children holds of every node;
2. `run_enter`: walking with the stack is walking by recursion.
-/

namespace Base.Traversal

variable {N S E : Type}

/-- Nodes with children, which are smaller than their parent even together. -/
structure Shape (N : Type) where
  children : N → List N
  size : N → Nat
  smaller : ∀ n, ((children n).map size).sum < size n

namespace Shape

variable {shape : Shape N}

theorem size_child {n child : N} (listed : child ∈ shape.children n) : shape.size child < shape.size n :=
  (List.single_le_sum (fun _ _ => Nat.zero_le _) _ (List.mem_map_of_mem listed)).trans_lt (shape.smaller n)

/-- Induction over the nodes, from the children to their parent. -/
theorem induction {motive : N → Prop} (step : ∀ n, (∀ child ∈ shape.children n, motive child) → motive n)
    (n : N) : motive n :=
  step n fun child _ => induction step child
termination_by shape.size n
decreasing_by exact size_child ‹_›

/-- A node that is the first or lies below it. -/
inductive Reaches (shape : Shape N) : N → N → Prop
  | self (n : N) : Reaches shape n n
  | child {n child inner : N} (listed : child ∈ shape.children n) (below : Reaches shape child inner) :
      Reaches shape n inner

theorem forall_reaches_iff {P : N → Prop} {n : N} : (∀ inner, shape.Reaches n inner → P inner) ↔
    P n ∧ ∀ child ∈ shape.children n, ∀ inner, shape.Reaches child inner → P inner := by
  constructor
  · exact fun all => ⟨all n (.self n), fun child listed inner below => all inner (.child listed below)⟩
  · rintro ⟨here, below⟩ inner reached
    cases reached with
    | self => exact here
    | child listed deeper => exact below _ listed inner deeper

end Shape

/-- What is still to do with a node. -/
inductive Frame (N : Type) where
  | enter (n : N)
  | exit (n : N)

/-- What is done at a node before its children and after them. -/
structure Visitor (N S E : Type) where
  enter : N → S → Except E S
  exit : N → S → S

variable (shape : Shape N) (visitor : Visitor N S E)

/-- The turns that a frame takes. -/
def weight : Frame N → Nat
  | .enter n => 2 * shape.size n
  | .exit _ => 1

/-- The stack once a node is entered: its children in their order above its own exit. -/
def push (n : N) (rest : List (Frame N)) : List (Frame N) :=
  (shape.children n).map .enter ++ .exit n :: rest

theorem weight_push (n : N) (rest : List (Frame N)) :
    ((push shape n rest).map (weight shape)).sum <
      ((.enter n :: rest).map (weight shape)).sum := by
  have children : (((shape.children n).map Frame.enter).map (weight shape)).sum =
      2 * ((shape.children n).map shape.size).sum := by
    rw [List.map_map, ← List.sum_map_mul_left (shape.children n) shape.size 2]
    rfl
  have smaller := shape.smaller n
  rw [push, List.map_append, List.sum_append, children, List.map_cons, List.sum_cons, List.map_cons,
    List.sum_cons, weight, weight]
  omega

/-- The loop over the stack. -/
def run : List (Frame N) → S → Except E S
  | [], s => .ok s
  | .exit n :: rest, s => run rest (visitor.exit n s)
  | .enter n :: rest, s => visitor.enter n s >>= fun s => run (push shape n rest) s
termination_by stack => (stack.map (weight shape)).sum
decreasing_by
  · rw [List.map_cons, List.sum_cons, weight]
    exact Nat.lt_add_of_pos_left Nat.one_pos
  · exact weight_push shape n rest

/-- The walk by recursion. -/
def fold (n : N) (s : S) : Except E S :=
  visitor.enter n s >>= fun s =>
    (shape.children n).foldlM (fun s child => fold child s) s >>= fun s => .ok (visitor.exit n s)
termination_by shape.size n
decreasing_by exact Shape.size_child ‹_›

variable {shape visitor}

/-- Nodes that are still to enter are walked one after the other. -/
theorem run_children {nodes : List N} {rest : List (Frame N)}
    (each : ∀ n ∈ nodes, ∀ rest s, run shape visitor (.enter n :: rest) s =
      fold shape visitor n s >>= run shape visitor rest) (s : S) :
    run shape visitor (nodes.map .enter ++ rest) s =
      nodes.foldlM (fun s n => fold shape visitor n s) s >>= run shape visitor rest := by
  induction nodes generalizing s with
  | nil => rfl
  | cons n nodes ih =>
    rw [List.map_cons, List.cons_append, each n List.mem_cons_self, List.foldlM_cons, bind_assoc]
    congr 1
    funext s
    exact ih (fun n listed => each n (List.mem_cons_of_mem _ listed)) s

/-- Walking with the stack is walking by recursion. -/
theorem run_enter (n : N) : ∀ (rest : List (Frame N)) (s : S), run shape visitor (.enter n :: rest) s =
    fold shape visitor n s >>= run shape visitor rest := by
  induction n using shape.induction with
  | step n ih =>
    intro rest s
    rw [run, fold, bind_assoc]
    congr 1
    funext entered
    rw [push, run_children ih, bind_assoc]
    congr 1
    funext walked
    rw [run]
    rfl

/-- A walk that fails raises what the visit of some node raised. -/
theorem fold_error {P : E → Prop} (raised : ∀ n s e, visitor.enter n s = .error e → P e) (n : N) :
    ∀ (s : S) (e : E), fold shape visitor n s = .error e → P e := by
  induction n using shape.induction with
  | step n ih =>
    intro s e failed
    rw [fold] at failed
    cases entered : visitor.enter n s with
    | error inner =>
      rw [entered] at failed
      cases failed
      exact raised n s e entered
    | ok start =>
      rw [entered] at failed
      change ((shape.children n).foldlM (fun s child => fold shape visitor child s) start >>= fun s =>
        Except.ok (visitor.exit n s)) = _ at failed
      have children : ∀ nodes : List N, (∀ child ∈ nodes, child ∈ shape.children n) → ∀ s e,
          nodes.foldlM (fun s child => fold shape visitor child s) s = .error e → P e := by
        intro nodes
        induction nodes with
        | nil => exact fun _ s e failed => by cases failed
        | cons child nodes step =>
          intro listed s e failed
          rw [List.foldlM_cons] at failed
          cases walked : fold shape visitor child s with
          | error inner =>
            rw [walked] at failed
            cases failed
            exact ih child (listed child List.mem_cons_self) s e walked
          | ok next =>
            rw [walked] at failed
            exact step (fun later member => listed later (List.mem_cons_of_mem _ member)) next e failed
      cases walked : (shape.children n).foldlM (fun s child => fold shape visitor child s) start with
      | error inner =>
        rw [walked] at failed
        cases failed
        exact children _ (fun _ listed => listed) start e walked
      | ok final =>
        rw [walked] at failed
        cases failed

/-- The walk of a whole tree. -/
theorem run_root (n : N) (s : S) : run shape visitor [.enter n] s = fold shape visitor n s := by
  rw [run_enter]
  cases fold shape visitor n s with
  | error e => rfl
  | ok s =>
    change run shape visitor [] s = _
    rw [run]

end Base.Traversal
