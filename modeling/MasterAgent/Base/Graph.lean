import Mathlib.Algebra.Order.BigOperators.Group.List
import Mathlib.Algebra.Order.Group.Nat
import Mathlib.Algebra.Ring.Nat
import Mathlib.Data.List.Dedup
import Mathlib.Data.List.Perm.Subperm
import Mathlib.Logic.Relation

/-!
# Depth-first search

Cycle detection and post-order over a graph given by successor lists, and the closure of a
worklist under successors.

Results:

1. `visit_spec`: a successful search extends the visited list to a post-order, in which every
   node stands after its successors and occurs once;
2. `visit_fuel`: with more fuel than nodes the search never runs out of it;
3. `postorder_of_visit`: a search without cycle detection repeats a successful one;
4. `closure_sound`: the worklist closure contains only what can be reached;
5. `search_fails_iff`: the search with cycle detection fails exactly on a graph with a cycle.
-/

namespace Base.Graph

variable {N : Type} [DecidableEq N] (succ : N → List N)

/-- Why a search stops early. -/
inductive Stop where
  | cycle
  | fuel
deriving DecidableEq

/-- Depth-first search with cycle detection. Nodes are appended to `visited` when all their
successors have been visited. -/
def visit : Nat → List N → List N → N → Except Stop (List N)
  | 0, _, _, _ => .error .fuel
  | fuel + 1, visiting, visited, a =>
      if a ∈ visited then .ok visited
      else if a ∈ visiting then .error .cycle
      else
        match (succ a).foldlM (visit fuel (a :: visiting)) visited with
        | .ok vs => .ok (vs ++ [a])
        | .error stop => .error stop

/-- Depth-first search that trusts the graph to be acyclic. -/
def postorder : Nat → List N → N → Option (List N)
  | 0, _, _ => none
  | fuel + 1, visited, a =>
      if a ∈ visited then some visited
      else ((succ a).foldlM (postorder fuel) visited).map (· ++ [a])

/-- Every node stands after its successors, and once. -/
def Ordered (visited : List N) : Prop :=
  visited.Nodup ∧ ∀ before a after, visited = before ++ a :: after → ∀ b ∈ succ a, b ∈ before

/-- What a search establishes: an ordered extension of the visited list by nodes with
property `P`, disjoint from the nodes still being visited. -/
structure Extends (P : N → Prop) (visiting visited vs : List N) : Prop where
  ordered : Ordered succ vs
  fresh : ∀ x ∈ visiting, x ∉ vs
  kept : ∀ x ∈ visited, x ∈ vs
  from_P : ∀ x ∈ vs, x ∈ visited ∨ P x

variable {succ}

omit [DecidableEq N] in
theorem ordered_concat {vs : List N} {a : N} (h : Ordered succ vs) (new : a ∉ vs)
    (hs : ∀ b ∈ succ a, b ∈ vs) : Ordered succ (vs ++ [a]) := by
  refine ⟨List.nodup_append.mpr ⟨h.1, List.nodup_singleton a, ?_⟩, ?_⟩
  · intro x hx y hy
    rw [List.mem_singleton.mp hy]
    rintro rfl
    exact new hx
  · intro before b after split
    rcases List.eq_nil_or_concat' after with rfl | ⟨after, c, rfl⟩
    · obtain ⟨rfl, eq⟩ := List.append_inj' split rfl
      cases eq
      exact hs
    · have split : vs ++ [a] = (before ++ b :: after) ++ [c] := by simpa using split
      exact h.2 before b after (List.append_inj' split rfl).1

omit [DecidableEq N] in
/-- The loop over the successors keeps what each search establishes. -/
theorem foldlM_extends {P : N → Prop} {visiting : List N}
    {search : List N → N → Except Stop (List N)} {bs : List N}
    (hP : ∀ b ∈ bs, P b)
    (step : ∀ b ∈ bs, ∀ visited vs, Ordered succ visited → (∀ x ∈ visiting, x ∉ visited) →
      search visited b = .ok vs → Extends succ P visiting visited vs ∧ b ∈ vs) :
    ∀ {visited vs : List N}, Ordered succ visited → (∀ x ∈ visiting, x ∉ visited) →
      bs.foldlM search visited = .ok vs →
      Extends succ P visiting visited vs ∧ ∀ b ∈ bs, b ∈ vs := by
  induction bs with
  | nil =>
      intro visited vs ordered fresh run
      cases run
      exact ⟨⟨ordered, fresh, fun _ h => h, fun _ h => .inl h⟩, by simp⟩
  | cons b bs ih =>
      intro visited vs ordered fresh run
      rw [List.foldlM_cons] at run
      cases first : search visited b with
      | error stop => rw [first] at run; cases run
      | ok mid =>
          rw [first] at run
          obtain ⟨⟨o, f, k, p⟩, hb⟩ := step b (by simp) visited mid ordered fresh first
          obtain ⟨⟨o', f', k', p'⟩, hbs⟩ := ih (fun c hc => hP c (by simp [hc]))
            (fun c hc => step c (by simp [hc])) o f run
          refine ⟨⟨o', f', fun x hx => k' x (k x hx), fun x hx => ?_⟩, ?_⟩
          · rcases p' x hx with hm | hp
            · exact p x hm
            · exact .inr hp
          · intro c hc
            rcases List.mem_cons.mp hc with rfl | hc
            · exact k' _ hb
            · exact hbs c hc

omit [DecidableEq N] in
/-- A loop raises nothing that no step raises. -/
theorem foldlM_not_raises {search : List N → N → Except Stop (List N)} {stop : Stop}
    {bs : List N} (step : ∀ b ∈ bs, ∀ vs, search vs b ≠ .error stop) :
    ∀ visited, bs.foldlM search visited ≠ .error stop := by
  induction bs with
  | nil => exact fun _ h => nomatch h
  | cons b bs ih =>
      intro visited out
      rw [List.foldlM_cons] at out
      cases first : search visited b with
      | error raised =>
          rw [first] at out
          cases out
          exact step b (by simp) visited first
      | ok mid =>
          rw [first] at out
          exact ih (fun c hc => step c (by simp [hc])) mid out

omit [DecidableEq N] in
/-- A loop repeats another one whose steps it repeats. -/
theorem foldlM_repeats {f : List N → N → Except Stop (List N)}
    {g : List N → N → Option (List N)} (step : ∀ vs b vs', f vs b = .ok vs' → g vs b = some vs')
    {bs : List N} : ∀ {visited vs}, bs.foldlM f visited = .ok vs → bs.foldlM g visited = some vs := by
  induction bs with
  | nil =>
      intro visited vs h
      cases h
      rfl
  | cons b bs ih =>
      intro visited vs h
      rw [List.foldlM_cons] at h ⊢
      cases first : f visited b with
      | error stop => rw [first] at h; cases h
      | ok mid =>
          rw [first] at h
          rw [step _ _ _ first]
          exact ih h

/-- A successful search extends the visited list to a post-order that contains the node. `P` is
any property closed under successors. -/
theorem visit_spec {P : N → Prop} (closed : ∀ a, P a → ∀ b ∈ succ a, P b) {fuel : Nat} :
    ∀ {visiting visited vs : List N} {a : N}, P a → Ordered succ visited →
      (∀ x ∈ visiting, x ∉ visited) → visit succ fuel visiting visited a = .ok vs →
      Extends succ P visiting visited vs ∧ a ∈ vs := by
  induction fuel with
  | zero =>
      intro visiting visited vs a _ _ _ run
      cases run
  | succ fuel ih =>
      intro visiting visited vs a hP ordered fresh run
      unfold visit at run
      split at run
      · next seen =>
          cases run
          exact ⟨⟨ordered, fresh, fun _ h => h, fun _ h => .inl h⟩, seen⟩
      next new =>
      split at run
      · cases run
      next idle =>
      cases loop : (succ a).foldlM (visit succ fuel (a :: visiting)) visited with
      | error stop => rw [loop] at run; cases run
      | ok mid =>
          rw [loop] at run
          cases run
          have fresh' : ∀ x ∈ a :: visiting, x ∉ visited := by
            intro x hx
            rcases List.mem_cons.mp hx with rfl | hx
            · exact new
            · exact fresh x hx
          obtain ⟨⟨o, f, k, p⟩, hs⟩ := foldlM_extends (closed a hP)
            (fun b hb _ _ ho hf hr => ih (closed a hP b hb) ho hf hr) ordered fresh' loop
          refine ⟨⟨ordered_concat o (f a (by simp)) hs, fun x hx => ?_, fun x hx => ?_,
            fun x hx => ?_⟩, by simp⟩
          · rw [List.mem_append, List.mem_singleton, not_or]
            refine ⟨f x (by simp [hx]), ?_⟩
            rintro rfl
            exact idle hx
          · exact List.mem_append_left _ (k x hx)
          · rcases List.mem_append.mp hx with hx | hx
            · exact p x hx
            · exact .inr (List.mem_singleton.mp hx ▸ hP)

/-- The nodes being visited are distinct nodes of the graph, so their number bounds the depth
of the search. -/
theorem visit_fuel {nodes : List N} (closed : ∀ a ∈ nodes, ∀ b ∈ succ a, b ∈ nodes)
    {fuel : Nat} : ∀ {visiting visited : List N} {a : N}, visiting.Nodup → visiting ⊆ nodes →
      a ∈ nodes → nodes.length < fuel + visiting.length →
      visit succ fuel visiting visited a ≠ .error .fuel := by
  induction fuel with
  | zero =>
      intro visiting visited a nodup sub _ enough
      have few := (nodup.subperm sub).length_le
      omega
  | succ fuel ih =>
      intro visiting visited a nodup sub ha enough
      unfold visit
      split
      · exact fun h => nomatch h
      split
      · exact fun h => nomatch h
      next idle =>
      have nodup' : (a :: visiting).Nodup := List.nodup_cons.mpr ⟨idle, nodup⟩
      have sub' : a :: visiting ⊆ nodes := List.cons_subset.mpr ⟨ha, sub⟩
      have step : ∀ b ∈ succ a, ∀ vs, visit succ fuel (a :: visiting) vs b ≠ .error .fuel :=
        fun b hb vs => ih nodup' sub' (closed a ha b hb) (by rw [List.length_cons]; omega)
      have loop := foldlM_not_raises step visited
      intro out
      split at out
      · cases out
      · next stop raised =>
          cases out
          exact loop raised

/-- Where the search with cycle detection succeeds, the search without it does the same. -/
theorem postorder_of_visit {fuel : Nat} : ∀ {visiting visited vs : List N} {a : N},
    visit succ fuel visiting visited a = .ok vs → postorder succ fuel visited a = some vs := by
  induction fuel with
  | zero =>
      intro visiting visited vs a run
      cases run
  | succ fuel ih =>
      intro visiting visited vs a run
      unfold visit at run
      unfold postorder
      split at run
      · next seen =>
          cases run
          rw [if_pos seen]
      next new =>
      rw [if_neg new]
      split at run
      · cases run
      cases loop : (succ a).foldlM (visit succ fuel (a :: visiting)) visited with
      | error stop => rw [loop] at run; cases run
      | ok mid =>
          rw [loop] at run
          cases run
          rw [foldlM_repeats (fun _ _ _ h => ih h) loop]
          rfl

/-! ## Searching the whole graph -/

variable (succ) in
/-- Search from every node, with fuel for the longest path. -/
def search (nodes : List N) : Except Stop (List N) :=
  nodes.foldlM (visit succ (nodes.length + 1) []) []

variable (succ) in
/-- Order the nodes of a graph that is trusted to be acyclic. -/
def order (nodes : List N) : Option (List N) :=
  nodes.foldlM (postorder succ (nodes.length + 1)) []

/-- A search that finds no cycle is a post-order of all nodes. -/
theorem search_spec {nodes vs : List N} (nodup : nodes.Nodup)
    (closed : ∀ a ∈ nodes, ∀ b ∈ succ a, b ∈ nodes) (run : search succ nodes = .ok vs) :
    vs.Perm nodes ∧ Ordered succ vs := by
  have empty : Ordered succ ([] : List N) := by
    refine ⟨List.nodup_nil, fun before a after split => ?_⟩
    simp at split
  obtain ⟨ext, all⟩ := @foldlM_extends N succ (· ∈ nodes) [] _ nodes (fun _ h => h)
    (fun b hb _ _ o f h => visit_spec closed hb o f h) [] vs empty (by simp) run
  refine ⟨?_, ext.ordered⟩
  refine (List.perm_ext_iff_of_nodup ext.ordered.1 nodup).mpr fun x => ⟨fun hx => ?_, all x⟩
  exact (ext.from_P x hx).resolve_left (by simp)

theorem search_fuel {nodes : List N} (closed : ∀ a ∈ nodes, ∀ b ∈ succ a, b ∈ nodes) :
    search succ nodes ≠ .error .fuel :=
  foldlM_not_raises
    (fun _ hb _ => visit_fuel closed List.nodup_nil (by simp) hb (by simp)) []

/-- The trusting order is the one the search found. -/
theorem order_of_search {nodes vs : List N} (run : search succ nodes = .ok vs) :
    order succ nodes = some vs :=
  foldlM_repeats (fun _ _ _ h => postorder_of_visit h) run

/-! ## Worklist closure -/

variable (succ) in
/-- Close the nodes already seen and the pending ones under successors. -/
def closure : Nat → List N → List N → List N
  | 0, _, seen => seen
  | _ + 1, [], seen => seen
  | fuel + 1, a :: pending, seen =>
      if a ∈ seen then closure fuel pending seen
      else closure fuel ((succ a).reverse ++ pending) (a :: seen)

/-- `b` is a successor of `a`. -/
def Edge (succ : N → List N) (a b : N) : Prop := b ∈ succ a

/-- Everything in the closure was seen or is reachable from a pending node. -/
theorem closure_sound {fuel : Nat} : ∀ {pending seen : List N} {x : N},
    x ∈ closure succ fuel pending seen →
      x ∈ seen ∨ ∃ p ∈ pending, Relation.ReflTransGen (Edge succ) p x := by
  induction fuel with
  | zero => exact fun h => .inl h
  | succ fuel ih =>
      intro pending seen x h
      cases pending with
      | nil => exact .inl h
      | cons a pending =>
          unfold closure at h
          split at h
          · exact (ih h).imp id fun ⟨p, hp, r⟩ => ⟨p, by simp [hp], r⟩
          · rcases ih h with hx | ⟨p, hp, r⟩
            · rcases List.mem_cons.mp hx with rfl | hx
              · exact .inr ⟨x, by simp, .refl⟩
              · exact .inl hx
            · rcases List.mem_append.mp hp with hp | hp
              · exact .inr ⟨a, by simp, .head (List.mem_reverse.mp hp) r⟩
              · exact .inr ⟨p, by simp [hp], r⟩

/-- Fuel for closing a worklist over a graph. -/
def closureFuel (succ : N → List N) (nodes pending : List N) : Nat :=
  pending.length + (nodes.map fun a => (succ a).length).sum + 1

/-! ## Cycles -/

/-- A node that leads back to itself. -/
def OnCycle (succ : N → List N) (a : N) : Prop := Relation.TransGen (Edge succ) a a

/-- A search stops at a cycle only where there is one: every node being visited leads to the node
entered, so meeting one of them again closes the cycle. -/
theorem visit_cycle {P : N → Prop} (closed : ∀ a, P a → ∀ b ∈ succ a, P b) {fuel : Nat} :
    ∀ {visiting visited : List N} {a : N}, P a →
      (∀ x ∈ visiting, Relation.TransGen (Edge succ) x a) →
      visit succ fuel visiting visited a = .error .cycle → ∃ b, P b ∧ OnCycle succ b := by
  induction fuel with
  | zero =>
      intro visiting visited a _ _ run
      cases run
  | succ fuel ih =>
      intro visiting visited a hP leads run
      unfold visit at run
      split at run
      · cases run
      split at run
      · next met => exact ⟨a, hP, leads a met⟩
      by_contra none
      have step : ∀ b ∈ succ a, ∀ vs, visit succ fuel (a :: visiting) vs b ≠ .error .cycle := by
        intro b hb vs raised
        refine none (ih (closed a hP b hb) (fun x hx => ?_) raised)
        rcases List.mem_cons.mp hx with rfl | hx
        · exact .single hb
        · exact (leads x hx).tail hb
      have loop := foldlM_not_raises step visited
      split at run
      · cases run
      · next stop raised =>
          cases run
          exact loop raised

omit [DecidableEq N] in
/-- In a post-order, what a node leads to stands before it. -/
theorem before_of_reaches {vs : List N} (ordered : Ordered succ vs) {a b : N}
    (reach : Relation.TransGen (Edge succ) a b) {before after : List N}
    (split : vs = before ++ a :: after) : b ∈ before := by
  induction reach with
  | single edge => exact ordered.2 before a after split _ edge
  | tail _ edge ih =>
      obtain ⟨first, last, rfl⟩ := List.append_of_mem ih
      have stands := ordered.2 first _ (last ++ a :: after) (by simpa using split) _ edge
      exact List.mem_append_left _ stands

omit [DecidableEq N] in
theorem ordered_acyclic {vs : List N} (ordered : Ordered succ vs) {a : N} (ha : a ∈ vs) :
    ¬OnCycle succ a := by
  intro cycle
  obtain ⟨before, after, split⟩ := List.append_of_mem ha
  have twice := before_of_reaches ordered cycle split
  have nodup := ordered.1
  rw [split, List.nodup_append] at nodup
  exact nodup.2.2 a twice a (by simp) rfl

/-- The search fails exactly on a graph with a cycle. -/
theorem search_fails_iff {nodes : List N} (nodup : nodes.Nodup)
    (closed : ∀ a ∈ nodes, ∀ b ∈ succ a, b ∈ nodes) :
    (∃ stop, search succ nodes = .error stop) ↔ ∃ a ∈ nodes, OnCycle succ a := by
  constructor
  · rintro ⟨stop, raised⟩
    cases stop with
    | fuel => exact absurd raised (search_fuel closed)
    | cycle =>
        by_contra none
        refine foldlM_not_raises (fun b hb vs stopped => none ?_) [] raised
        exact visit_cycle closed hb (by simp) stopped
  · rintro ⟨a, ha, cycle⟩
    cases searched : search succ nodes with
    | error stop => exact ⟨stop, rfl⟩
    | ok vs =>
        obtain ⟨perm, ordered⟩ := search_spec nodup closed searched
        exact absurd cycle (ordered_acyclic ordered (perm.mem_iff.mpr ha))

end Base.Graph
