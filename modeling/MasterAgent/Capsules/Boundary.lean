import MasterAgent.Capsules.Worker
import MasterAgent.Errors

/-!
# The capsule language boundary

Which programs `validateSource` lets through. The validator checks a name where it overrides
a visitor method; `generic_visit` reaches child nodes only, so the names that other classes keep
as plain data pass unread.

Results:

1. `checked_within`: every node of an accepted program passed the check of its own class,
   also the nodes the overriding methods step over;
2. `boundary_iff_unread_harmless`: an accepted program keeps within the language boundary
   exactly when the plain names the validator never reads are harmless and no `except*` occurs;
3. `class_pattern_reads_attribute`: a program that reads `__class__` is accepted.
-/

namespace MasterAgent.Capsules
open Base

/-! ## The boundary -/

/-- The constructs the capsule language leaves out. -/
def excludedConstruct : Label → Bool
  | .Import | .ImportFrom .. | .ClassDef .. | .Lambda | .Raise | .Try | .TryStar | .With ..
  | .AsyncWith .. | .Global .. | .Nonlocal .. | .Delete | .Await | .Yield | .YieldFrom => true
  | _ => false

/-- A call may target a safe builtin or one of the program's functions by name, or a safe
method. -/
def SafeTarget (functions : List String) : Label → Prop
  | .Name id => id ∈ SAFE_CALLS ∨ id ∈ functions
  | .Attribute attr => attr ∈ SAFE_METHODS
  | _ => False

/-- The names of the functions a program defines at module level. -/
def Module.functionNames (tree : Module) : List String :=
  tree.body.filterMap fun item => match item.label with
    | .FunctionDef name _ => some name
    | _ => none

structure LanguageBoundary (tree : Module) : Prop where
  attributes : ∀ node, tree.HasNode node → ∀ attr ∈ node.label.attributes, attr ∈ SAFE_METHODS
  identifiers : ∀ node, tree.HasNode node →
    ∀ name ∈ node.label.identifiers, underscored name = false
  constructs : ∀ node, tree.HasNode node → excludedConstruct node.label = false
  calls : ∀ node, tree.HasNode node → node.label = .Call →
    ∀ func ∈ Tree.childrenAt .func node.children, SafeTarget tree.functionNames func.label

/-- The names no visitor method reads: parameters, keyword arguments, handler names, pattern
captures and type parameters. -/
def unreadNames : Label → List String
  | .arg name _ | .TypeVar name | .ParamSpec name | .TypeVarTuple name => [name]
  | .keyword name | .ExceptHandler name | .MatchMapping name | .MatchStar name | .MatchAs name =>
      name.toList
  | _ => []

/-- What the validator leaves unchecked does no harm. -/
structure UnreadHarmless (tree : Module) : Prop where
  patterns : ∀ node, tree.HasNode node → ∀ kwd_attrs, node.label = .MatchClass kwd_attrs →
    ∀ attr ∈ kwd_attrs, attr ∈ SAFE_METHODS
  names : ∀ node, tree.HasNode node → ∀ name ∈ unreadNames node.label, underscored name = false
  exceptStar : ∀ node, tree.HasNode node → node.label ≠ .TryStar

/-! ## What a visit establishes -/

/-- The names the visitor methods read. -/
def readNames : Label → List String
  | .FunctionDef name _ | .Name name => [name]
  | _ => []

/-- The check of a node's own class. -/
structure Checked (functions : List String) (label : Label) (children : List (Field × Node)) :
    Prop where
  allowed : forbiddenNode label = false
  names : ∀ name ∈ readNames label, underscored name = false
  method : ∀ attr, label = .Attribute attr → attr ∈ SAFE_METHODS
  target : label = .Call → ∀ func ∈ Tree.childrenAt .func children, SafeTarget functions func.label

/-- A child that stands where the grammar has an import's alias has an import above it. -/
theorem forbidden_of_alias {label : Label} {field : Field} {arity : Arity}
    (entry : (field, .alias, arity) ∈ label.fields) : forbiddenNode label = true := by
  cases label <;> simp [Label.fields] at entry <;> rfl

theorem moduleFunctions_eq {body : List Node} {functions : List String}
    (collected : moduleFunctions body = .ok functions) :
    functions = body.filterMap fun item => match item.label with
      | .FunctionDef name _ => some name
      | _ => none := by
  induction body generalizing functions with
  | nil =>
    cases collected
    rfl
  | cons item rest ih =>
    rw [moduleFunctions] at collected
    split at collected
    · rename_i docstring
      have expression : item.label = .Expr := by
        simp only [isDocstring, Bool.and_eq_true, beq_iff_eq] at docstring
        exact docstring.1
      rw [List.filterMap_cons_none (by rw [expression])]
      exact ih collected
    · split at collected
      · rename_i name _ label
        obtain ⟨others, later, same⟩ := of_bind_ok collected
        cases same
        rw [List.filterMap_cons_some (by rw [label]), ih later]
      · cases collected

/-- The names a checked node keeps are harmless once the unread ones are. -/
theorem identifiers_harmless {functions : List String} {label : Label}
    {children : List (Field × Node)} (checked : Checked functions label children)
    (plain : label.sort ≠ .alias)
    (unread : ∀ name ∈ unreadNames label, underscored name = false) :
    ∀ name ∈ label.identifiers, underscored name = false := by
  obtain ⟨allowed, names, -, -⟩ := checked
  cases label
  case FunctionDef | Name => exact names
  case arg | TypeVar | ParamSpec | TypeVarTuple | keyword | ExceptHandler | MatchMapping
    | MatchStar | MatchAs => exact unread
  case «alias» => exact absurd rfl plain
  case AsyncFunctionDef | ClassDef | ImportFrom | Global | Nonlocal => cases allowed
  all_goals exact fun name member => absurd member List.not_mem_nil

section Visits

variable [Interpreter] {functions : List String}

def Visited (functions : List String) (node : Node) : Prop :=
  ∃ before after, visit functions node before = .ok after

theorem visitFields_visited {selected : Field → Bool} {children : List (Field × Node)}
    {before after : Nat} (visited : visitFields functions selected children before = .ok after)
    {field : Field} {child : Node} (member : (field, child) ∈ children)
    (chosen : selected field = true) : Visited functions child := by
  induction children generalizing before with
  | nil => exact absurd member List.not_mem_nil
  | cons edge rest ih =>
    obtain ⟨field', child'⟩ := edge
    rw [visitFields] at visited
    by_cases here : selected field' = true
    · rw [if_pos here] at visited
      obtain ⟨between, first, others⟩ := of_bind_ok visited
      rcases List.mem_cons.mp member with same | later
      · cases same
        exact ⟨before, between, first⟩
      · exact ih others later
    · rw [if_neg here] at visited
      rcases List.mem_cons.mp member with same | later
      · cases same
        exact absurd chosen here
      · exact ih visited later

theorem visitArguments_visited {children : List (Field × Node)} {before after : Nat}
    (visited : visitArguments functions children before = .ok after) {argument : Node}
    (member : (.args, argument) ∈ children) : Visited functions argument := by
  induction children generalizing before with
  | nil => exact absurd member List.not_mem_nil
  | cons edge rest ih =>
    obtain ⟨field', child'⟩ := edge
    rw [visitArguments] at visited
    by_cases here : (field' == Field.args) = true
    · rw [if_pos here] at visited
      by_cases starred : (child'.label == .Starred) = true
      · rw [if_pos starred] at visited
        cases visited
      · rw [if_neg starred] at visited
        obtain ⟨between, first, others⟩ := of_bind_ok visited
        rcases List.mem_cons.mp member with same | later
        · cases same
          exact ⟨before, between, first⟩
        · exact ih others later
    · rw [if_neg here] at visited
      rcases List.mem_cons.mp member with same | later
      · cases same
        exact absurd (beq_self_eq_true _) here
      · exact ih visited later

theorem visitKeywords_visited {children : List (Field × Node)} {before after : Nat}
    (visited : visitKeywords functions children before = .ok after) {keyword value : Node}
    (member : (.keywords, keyword) ∈ children) (inside : (.value, value) ∈ keyword.children) :
    Visited functions value := by
  induction children generalizing before with
  | nil => exact absurd member List.not_mem_nil
  | cons edge rest ih =>
    obtain ⟨field', label, inner⟩ := edge
    rw [visitKeywords] at visited
    by_cases here : (field' == Field.keywords) = true
    · rw [if_pos here] at visited
      obtain ⟨between, first, others⟩ := of_bind_ok visited
      rcases List.mem_cons.mp member with same | later
      · cases same
        exact visitFields_visited first inside (beq_self_eq_true _)
      · exact ih others later
    · rw [if_neg here] at visited
      rcases List.mem_cons.mp member with same | later
      · cases same
        exact absurd (beq_self_eq_true _) here
      · exact ih visited later

/-- What a successful visit of a node says, by the method that visits its class. -/
def Admitted (functions : List String) (label : Label) (children : List (Field × Node)) : Prop :=
  match label with
  | .FunctionDef name _ =>
      underscored name = false ∧ ∀ field child, (field, child) ∈ children → Visited functions child
  | .Name id => underscored id = false
  | .Attribute attr =>
      attr ∈ SAFE_METHODS ∧ ∀ value, (.value, value) ∈ children → Visited functions value
  | .Call =>
      (∀ func, (.func, func) ∈ children →
        checkTarget functions func.label = .ok () ∧ Visited functions func) ∧
      (∀ argument, (.args, argument) ∈ children → Visited functions argument) ∧
      ∀ keyword value, (.keywords, keyword) ∈ children → (.value, value) ∈ keyword.children →
        Visited functions value
  | .Constant .. => True
  | _ => ∀ field child, (field, child) ∈ children → Visited functions child

theorem underscored_of_check {name : String} {typeComment : Option String}
    {children : List (Field × Node)}
    (checked : checkFunctionDef name typeComment children = .ok ()) : underscored name = false := by
  cases private? : underscored name with
  | false => rfl
  | true =>
    simp only [checkFunctionDef, private?, Bool.or_true, Bool.true_or, if_true] at checked
    cases checked

theorem visit_ok {label : Label} {children : List (Field × Node)} {before after : Nat}
    (visited : visit functions (.node label children) before = .ok after) :
    forbiddenNode label = false ∧ Admitted functions label children := by
  rw [visit.eq_def] at visited
  dsimp only at visited
  split at visited
  · cases visited
  split at visited
  · cases visited
  case isFalse _ allowed =>
  refine ⟨Bool.eq_false_iff.mpr allowed, ?_⟩
  split at visited
  case h_1 name typeComment =>
    obtain ⟨_, checked, visited⟩ := of_bind_ok visited
    exact ⟨underscored_of_check checked,
      fun field child member => visitFields_visited visited member rfl⟩
  case h_2 id =>
    split at visited
    · cases visited
    · exact Bool.eq_false_iff.mpr ‹_›
  case h_3 attr =>
    split at visited
    · cases visited
    · rename_i safe
      refine ⟨by simpa using safe, fun value member => ?_⟩
      exact visitFields_visited visited member (beq_self_eq_true _)
  case h_4 =>
    by_cases expanded : (Tree.childrenAt .keywords children).any (expands ·.label) = true
    · rw [if_pos expanded] at visited
      cases visited
    rw [if_neg expanded] at visited
    obtain ⟨_, target, visited⟩ := of_bind_ok visited
    obtain ⟨_, called, visited⟩ := of_bind_ok visited
    obtain ⟨_, passed, named⟩ := of_bind_ok visited
    refine ⟨fun func member => ⟨?_, visitFields_visited called member (beq_self_eq_true _)⟩,
      fun argument member => visitArguments_visited passed member,
      fun keyword value member inside => visitKeywords_visited named member inside⟩
    exact of_forM_ok target (Tree.mem_childrenAt.mpr member)
  case h_5 => trivial
  case h_6 notFunction notName notAttribute notCall notConstant =>
    unfold Admitted
    split
    · exact (notFunction _ _ rfl).elim
    · exact (notName _ rfl).elim
    · exact (notAttribute _ rfl).elim
    · exact (notCall rfl).elim
    · exact (notConstant _ _ rfl).elim
    · exact fun field child member => visitFields_visited visited member rfl

/-- The nodes an overriding method steps over: contexts, and keywords whose value it visits. -/
def SteppedOver (functions : List String) (node : Node) : Prop :=
  node.label.sort = .expr_context ∨
    node.label.sort = .keyword ∧
      ∀ value, (.value, value) ∈ node.children → Visited functions value

/-- A visit passes every child of the node on, or steps over it. -/
theorem visited_children {label : Label} {children : List (Field × Node)}
    (admitted : Admitted functions label children) (shape : shaped label children = true)
    {field : Field} {child : Node} (member : (field, child) ∈ children) :
    Visited functions child ∨ SteppedOver functions child := by
  obtain ⟨arity, entry⟩ := field_of_shaped shape member
  unfold Admitted at admitted
  split at admitted
  case h_1 => exact .inl (admitted.2 field child member)
  case h_2 =>
    simp only [Label.fields, List.mem_singleton, Prod.mk.injEq] at entry
    exact .inr (.inl entry.2.1)
  case h_3 =>
    simp only [Label.fields, List.mem_cons, Prod.mk.injEq, List.not_mem_nil, or_false] at entry
    rcases entry with ⟨rfl, -, -⟩ | ⟨-, context, -⟩
    · exact .inl (admitted.2 child member)
    · exact .inr (.inl context)
  case h_4 =>
    simp only [Label.fields, List.mem_cons, Prod.mk.injEq, List.not_mem_nil, or_false] at entry
    rcases entry with ⟨rfl, -, -⟩ | ⟨rfl, -, -⟩ | ⟨rfl, keyword, -⟩
    · exact .inl (admitted.1 child member).2
    · exact .inl (admitted.2.1 child member)
    · exact .inr (.inr ⟨keyword, fun value inside => admitted.2.2 child value member inside⟩)
  case h_5 => simp only [Label.fields, List.not_mem_nil] at entry
  case h_6 => exact .inl (admitted field child member)

theorem admitted_checked {label : Label} {children : List (Field × Node)}
    (allowed : forbiddenNode label = false) (admitted : Admitted functions label children) :
    Checked functions label children := by
  unfold Admitted at admitted
  split at admitted
  case h_1 name _ =>
    exact ⟨allowed, by simpa [readNames] using admitted.1, by rintro _ ⟨⟩, by rintro ⟨⟩⟩
  case h_2 id => exact ⟨allowed, by simpa [readNames] using admitted, by rintro _ ⟨⟩, by rintro ⟨⟩⟩
  case h_3 attr =>
    refine ⟨allowed, by simp [readNames], fun attr' same => ?_, by rintro ⟨⟩⟩
    cases same
    exact admitted.1
  case h_4 =>
    refine ⟨allowed, by simp [readNames], by rintro _ ⟨⟩, fun _ func called => ?_⟩
    obtain ⟨target, before, after, visited⟩ := admitted.1 func (Tree.mem_childrenAt.mp called)
    cases func with
    | node label inner =>
      obtain ⟨-, inside⟩ := visit_ok visited
      rw [Tree.label_node] at target ⊢
      unfold checkTarget at target
      split at target
      · split at target
        · simpa [safeCall, SafeTarget] using ‹safeCall _ _ = true›
        · cases target
      · exact inside.1
      · cases target
  case h_5 => exact ⟨allowed, by simp [readNames], by rintro _ ⟨⟩, by rintro ⟨⟩⟩
  case h_6 notFunction notName notAttribute notCall _ =>
    refine ⟨allowed, ?_, fun attr same => (notAttribute attr same).elim,
      fun same => (notCall same).elim⟩
    unfold readNames
    split
    · exact (notFunction _ _ rfl).elim
    · exact (notName _ rfl).elim
    · simp

theorem steppedOver_checked {node : Node} (stepped : SteppedOver functions node) :
    Checked functions node.label node.children := by
  have sort : node.label.sort = .expr_context ∨ node.label.sort = .keyword :=
    stepped.imp_right And.left
  cases shape : node.label <;> rw [shape] at sort <;> simp only [Label.sort, reduceCtorEq, or_false,
    or_true] at sort
  · exact ⟨rfl, by simp [readNames], nofun, nofun⟩
  · exact ⟨rfl, by simp [readNames], nofun, nofun⟩

/-- Every node within an accepted one passed the check of its class, and none is an import's
alias. -/
theorem checked_within (node : Node) (grammatical : Tree.every shaped node = true)
    (reached : Visited functions node ∨ SteppedOver functions node)
    (plain : node.label.sort ≠ .alias) {inner : Node} (within : Tree.Within inner node) :
    Checked functions inner.label inner.children ∧ inner.label.sort ≠ .alias := by
  induction node using Tree.induction generalizing inner with
  | step label children ih =>
    have shapes := (Tree.every_iff _).mp grammatical
    have shape : shaped label children = true := shapes _ (.self _)
    have here : Checked functions label children ∧
        ∀ field child, (field, child) ∈ children →
          Visited functions child ∨ SteppedOver functions child := by
      rcases reached with ⟨before, after, visited⟩ | stepped
      · obtain ⟨allowed, admitted⟩ := visit_ok visited
        exact ⟨admitted_checked allowed admitted,
          fun field child member => visited_children admitted shape member⟩
      · refine ⟨steppedOver_checked stepped, fun field child member => ?_⟩
        obtain ⟨arity, entry⟩ := field_of_shaped shape member
        rcases stepped with context | ⟨keyword, values⟩
        · cases label <;> simp [Label.sort] at context
          simp [Label.fields] at entry
        · cases label <;> simp [Label.sort] at keyword
          simp only [Label.fields, List.mem_singleton, Prod.mk.injEq] at entry
          obtain ⟨rfl, -, -⟩ := entry
          exact .inl (values child member)
    rcases Tree.within_node.mp within with rfl | ⟨field, child, member, below⟩
    · exact ⟨here.1, plain⟩
    · refine ih field child member ?_ (here.2 field child member) ?_ below
      · exact (Tree.every_iff _).mpr fun inner' deeper => shapes inner' (.child member deeper)
      · intro isAlias
        obtain ⟨arity, entry⟩ := field_of_shaped shape member
        rw [isAlias] at entry
        exact absurd (forbidden_of_alias entry) (by simp [here.1.allowed])

/-! ## Accepted programs -/

theorem accepted_checked {source : String} {tree : Module}
    (accepted : validateSource source = .ok tree) {node : Node} (within : tree.HasNode node) :
    Checked tree.functionNames node.label node.children ∧ node.label.sort ≠ .alias := by
  have admitted : ∃ count, visitModule tree = .ok count := by
    unfold validateSource at accepted
    dsimp only at accepted
    split at accepted
    · cases accepted
    split at accepted
    · obtain ⟨parsed, same, accepted⟩ := of_bind_ok accepted
      cases same
      obtain ⟨count, visited, same⟩ := of_bind_ok accepted
      cases same
      exact ⟨count, visited⟩
    · cases accepted
    · cases accepted
  obtain ⟨count, visited⟩ := admitted
  obtain ⟨functions, collected, visited⟩ := of_bind_ok visited
  dsimp only at visited
  split at visited
  · cases visited
  obtain ⟨item, member, below⟩ := within
  have names : functions = tree.functionNames := moduleFunctions_eq collected
  subst names
  refine checked_within item (tree.grammatical item member) (.inl ?_) ?_ below
  · exact visitFields_visited visited (List.mem_map.mpr ⟨item, member, rfl⟩) rfl
  · simp [tree.statements item member]

/-- An accepted program stays within the boundary exactly when the plain names the validator
does not read are harmless and it has no `except*`. -/
theorem boundary_iff_unread_harmless {source : String} {tree : Module}
    (accepted : validateSource source = .ok tree) :
    LanguageBoundary tree ↔ UnreadHarmless tree := by
  constructor
  · intro boundary
    refine ⟨fun node within kwd_attrs label attr member => ?_, fun node within name member => ?_,
      fun node within label => ?_⟩
    · exact boundary.attributes node within attr (by rw [label]; exact member)
    · refine boundary.identifiers node within name ?_
      cases shape : node.label <;> rw [shape] at member <;>
        first | exact member | exact absurd member List.not_mem_nil
    · have excluded := boundary.constructs node within
      rw [label] at excluded
      cases excluded
  · intro harmless
    refine ⟨fun node within => ?_, fun node within => ?_, fun node within => ?_,
      fun node within => (accepted_checked accepted within).1.target⟩
    · intro attr member
      cases shape : node.label <;> rw [shape] at member
      case Attribute =>
        cases List.mem_singleton.mp member
        exact (accepted_checked accepted within).1.method _ shape
      case MatchClass => exact harmless.patterns node within _ shape attr member
      all_goals exact absurd member List.not_mem_nil
    · obtain ⟨checked, plain⟩ := accepted_checked accepted within
      exact identifiers_harmless checked plain (harmless.names node within)
    · have allowed := (accepted_checked accepted within).1.allowed
      have noExceptStar := harmless.exceptStar node within
      cases shape : node.label <;> rw [shape] at allowed noExceptStar <;>
        first | rfl | exact absurd rfl noExceptStar | cases allowed

end Visits

/-! ## Programs -/

namespace Samples

def name (id : String) : Node := .node (.Name id) [(.ctx, .node (.expr_context .Load) [])]

/-- `dict()` -/
def dictCall : Node := .node .Call [(.func, name "dict")]

/-- `def run(request):` with one statement. -/
def runOf (statement : Node) : Node :=
  .node (.FunctionDef "run" none)
    [(.args, .node .arguments [(.args, .node (.arg "request" none) [])]), (.body, statement)]

def moduleOf (item : Node) (statement : item.label.sort = .stmt)
    (grammatical : Tree.every shaped item = true) : Module :=
  ⟨[item], fun _ member => List.mem_singleton.mp member ▸ statement,
    fun _ member => List.mem_singleton.mp member ▸ grammatical⟩

/-- `def run(request): return dict()` -/
def plain : Module := moduleOf (runOf (.node .Return [(.value, dictCall)])) rfl (by decide)

/-- `dict(__class__=found)` -/
def classPattern : Node :=
  .node (.MatchClass ["__class__"])
    [(.cls, name "dict"), (.kwd_patterns, .node (.MatchAs (some "found")) [])]

/-- `match request:` with one case, which returns a dictionary. -/
def matchOf (pattern : Node) : Node :=
  .node .Match [(.subject, name "request"), (.cases, .node .match_case
    [(.pattern, pattern), (.body, .node .Return [(.value, dictCall)])])]

def reader : Module := moduleOf (runOf (matchOf classPattern)) rfl (by decide)

def plainText : String := "def run(request):\n    return dict()\n"

def readerText : String :=
  "def run(request):\n    match request:\n        case dict(__class__=found):\n" ++
    "            return dict()\n"

theorem classPattern_within : reader.HasNode classPattern := by
  have below : Tree.Within classPattern (matchOf classPattern) :=
    .child (List.mem_cons_of_mem _ List.mem_cons_self) (.child List.mem_cons_self (.self _))
  exact ⟨_, List.mem_singleton.mpr rfl,
    .child (List.mem_cons_of_mem _ List.mem_cons_self) below⟩

/-- An interpreter that knows the two programs. -/
@[reducible]
def interpreter : Interpreter where
  isidentifier text := text.toList.all fun c => c.isAlphanum || c == '_'
  parse source :=
    if source = plainText then .ok plain
    else if source = readerText then .ok reader
    else .error none

end Samples

attribute [local instance] Samples.interpreter

theorem sample_boundary : LanguageBoundary Samples.plain ↔ UnreadHarmless Samples.plain :=
  boundary_iff_unread_harmless (show validateSource Samples.plainText = .ok Samples.plain from rfl)

/-- A keyword pattern of a class pattern reads an attribute that is no safe method. -/
theorem class_pattern_reads_attribute :
    ¬ ∀ [Interpreter] (source : String) (tree : Module),
      validateSource source = .ok tree → LanguageBoundary tree := by
  intro kept
  have accepted : validateSource Samples.readerText = .ok Samples.reader := rfl
  have read := (kept _ _ accepted).attributes _ Samples.classPattern_within "__class__"
    List.mem_cons_self
  exact absurd read (by decide)

end MasterAgent.Capsules
