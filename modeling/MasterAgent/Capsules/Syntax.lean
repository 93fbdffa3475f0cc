import MasterAgent.Base.Tree

/-!
# The abstract syntax of a capsule program

Python's abstract grammar, Python 3.12 to 3.14: one label for each node class with the plain
data a node of the class stores, one field for each place a node keeps other nodes in. Nodes
that a list keeps as `None` (the key of a `**` entry, the default of a keyword-only parameter
that has none) are left out of the list.
-/

namespace MasterAgent.Capsules
open Base

inductive ExprContext where
  | Load | Store | Del
deriving DecidableEq, Repr

inductive BoolOperator where
  | And | Or
deriving DecidableEq, Repr

inductive Operator where
  | Add | Sub | Mult | MatMult | Div | Mod | Pow | LShift | RShift | BitOr | BitXor | BitAnd
  | FloorDiv
deriving DecidableEq, Repr

inductive UnaryOperator where
  | Invert | Not | UAdd | USub
deriving DecidableEq, Repr

inductive CmpOperator where
  | Eq | NotEq | Lt | LtE | Gt | GtE | Is | IsNot | In | NotIn
deriving DecidableEq, Repr

/-- The type of the value a `Constant` holds, with the value where a name could hide in it. -/
inductive ConstantValue where
  | none
  | bool (value : Bool)
  | int (value : Int)
  | float (text : String)
  | complex (text : String)
  | str (value : String)
  | bytes (value : List UInt8)
  | ellipsis
deriving DecidableEq, Repr

/-- A node's class and the plain data the node stores. -/
inductive Label where
  | FunctionDef (name : String) (typeComment : Option String)
  | AsyncFunctionDef (name : String) (typeComment : Option String)
  | ClassDef (name : String)
  | Return
  | Delete
  | Assign (typeComment : Option String)
  | TypeAlias
  | AugAssign
  | AnnAssign (simple : Bool)
  | For (typeComment : Option String)
  | AsyncFor (typeComment : Option String)
  | While
  | If
  | With (typeComment : Option String)
  | AsyncWith (typeComment : Option String)
  | Match
  | Raise
  | Try
  | TryStar
  | Assert
  | Import
  | ImportFrom (module : Option String) (level : Option Nat)
  | Global (names : List String)
  | Nonlocal (names : List String)
  | Expr
  | Pass
  | Break
  | Continue
  | BoolOp
  | NamedExpr
  | BinOp
  | UnaryOp
  | Lambda
  | IfExp
  | Dict
  | Set
  | ListComp
  | SetComp
  | DictComp
  | GeneratorExp
  | Await
  | Yield
  | YieldFrom
  | Compare
  | Call
  | FormattedValue (conversion : Int)
  | Interpolation (str : ConstantValue) (conversion : Int)
  | JoinedStr
  | TemplateStr
  | Constant (value : ConstantValue) (kind : Option String)
  | Attribute (attr : String)
  | Subscript
  | Starred
  | Name (id : String)
  | List
  | Tuple
  | Slice
  | expr_context (ctx : ExprContext)
  | boolop (op : BoolOperator)
  | operator (op : Operator)
  | unaryop (op : UnaryOperator)
  | cmpop (op : CmpOperator)
  | comprehension (is_async : Bool)
  | ExceptHandler (name : Option String)
  | arguments
  | arg (arg : String) (typeComment : Option String)
  | keyword (arg : Option String)
  | alias (name : String) (asname : Option String)
  | withitem
  | match_case
  | MatchValue
  | MatchSingleton (value : ConstantValue)
  | MatchSequence
  | MatchMapping (rest : Option String)
  | MatchClass (kwd_attrs : List String)
  | MatchStar (name : Option String)
  | MatchAs (name : Option String)
  | MatchOr
  | TypeVar (name : String)
  | ParamSpec (name : String)
  | TypeVarTuple (name : String)
deriving DecidableEq, Repr

/-- The fields that hold nodes. -/
inductive Field where
  | annotation | args | bases | body | bound | cases | cause | cls | comparators | context_expr
  | ctx | decorator_list | default_value | defaults | elt | elts | exc | finalbody | format_spec
  | func | generators | guard | handlers | ifs | items | iter | key | keys | keywords | kw_defaults
  | kwarg | kwd_patterns | kwonlyargs | left | lower | msg | name | names | op | operand
  | ops | optional_vars | orelse | pattern | patterns | posonlyargs | returns | right | slice
  | step | subject | target | targets | test | type | type_params | upper | value | values
  | vararg
deriving DecidableEq, Repr

abbrev Node := Tree Field Label

/-! ## The grammar -/

/-- The sorts of nodes. -/
inductive NodeSort where
  | stmt | expr | expr_context | boolop | operator | unaryop | cmpop | comprehension
  | excepthandler | arguments | arg | keyword | alias | withitem | match_case | pattern
  | type_param
deriving DecidableEq, Repr

/-- How many nodes a field holds: `expr`, `expr?`, `expr*`. -/
inductive Arity where
  | one | optional | many
deriving DecidableEq, Repr

def Arity.admits : Arity → Nat → Bool
  | one, n => n == 1
  | optional, n => n ≤ 1
  | many, _ => true

abbrev Schema := List (Field × NodeSort × Arity)

abbrev Names := List String

namespace Label

def sort : Label → NodeSort
  | FunctionDef .. | AsyncFunctionDef .. | ClassDef .. | Return | Delete | Assign .. | TypeAlias
  | AugAssign | AnnAssign .. | For .. | AsyncFor .. | While | If | With .. | AsyncWith .. | Match
  | Raise | Try | TryStar | Assert | Import | ImportFrom .. | Global .. | Nonlocal .. | Expr | Pass
  | Break | Continue => .stmt
  | BoolOp | NamedExpr | BinOp | UnaryOp | Lambda | IfExp | Dict | Set | ListComp | SetComp
  | DictComp | GeneratorExp | Await | Yield | YieldFrom | Compare | Call | FormattedValue ..
  | Interpolation .. | JoinedStr | TemplateStr | Constant .. | Attribute .. | Subscript | Starred
  | Name .. | List | Tuple | Slice => .expr
  | expr_context .. => .expr_context
  | boolop .. => .boolop
  | operator .. => .operator
  | unaryop .. => .unaryop
  | cmpop .. => .cmpop
  | comprehension .. => .comprehension
  | ExceptHandler .. => .excepthandler
  | arguments => .arguments
  | arg .. => .arg
  | keyword .. => .keyword
  | .alias .. => .alias
  | withitem => .withitem
  | match_case => .match_case
  | MatchValue | MatchSingleton .. | MatchSequence | MatchMapping .. | MatchClass ..
  | MatchStar .. | MatchAs .. | MatchOr => .pattern
  | TypeVar .. | ParamSpec .. | TypeVarTuple .. => .type_param

/-- The fields of a class, in the order of `_fields`. -/
def fields : Label → Schema
  | FunctionDef .. | AsyncFunctionDef .. =>
      [(.args, .arguments, .one), (.body, .stmt, .many), (.decorator_list, .expr, .many),
        (.returns, .expr, .optional), (.type_params, .type_param, .many)]
  | ClassDef .. =>
      [(.bases, .expr, .many), (.keywords, .keyword, .many), (.body, .stmt, .many),
        (.decorator_list, .expr, .many), (.type_params, .type_param, .many)]
  | Return => [(.value, .expr, .optional)]
  | Delete => [(.targets, .expr, .many)]
  | Assign .. => [(.targets, .expr, .many), (.value, .expr, .one)]
  | TypeAlias => [(.name, .expr, .one), (.type_params, .type_param, .many), (.value, .expr, .one)]
  | AugAssign => [(.target, .expr, .one), (.op, .operator, .one), (.value, .expr, .one)]
  | AnnAssign .. => [(.target, .expr, .one), ( Field.annotation, .expr, .one), (.value, .expr, .optional)]
  | For .. | AsyncFor .. =>
      [(.target, .expr, .one), (.iter, .expr, .one), (.body, .stmt, .many), (.orelse, .stmt, .many)]
  | While | If => [(.test, .expr, .one), (.body, .stmt, .many), (.orelse, .stmt, .many)]
  | With .. | AsyncWith .. => [(.items, .withitem, .many), (.body, .stmt, .many)]
  | Match => [(.subject, .expr, .one), (.cases, .match_case, .many)]
  | Raise => [(.exc, .expr, .optional), (.cause, .expr, .optional)]
  | Try | TryStar =>
      [(.body, .stmt, .many), (.handlers, .excepthandler, .many), (.orelse, .stmt, .many),
        (.finalbody, .stmt, .many)]
  | Assert => [(.test, .expr, .one), (.msg, .expr, .optional)]
  | Import | ImportFrom .. => [(.names, .alias, .many)]
  | Expr => [(.value, .expr, .one)]
  | BoolOp => [(.op, .boolop, .one), (.values, .expr, .many)]
  | NamedExpr => [(.target, .expr, .one), (.value, .expr, .one)]
  | BinOp => [(.left, .expr, .one), (.op, .operator, .one), (.right, .expr, .one)]
  | UnaryOp => [(.op, .unaryop, .one), (.operand, .expr, .one)]
  | Lambda => [(.args, .arguments, .one), (.body, .expr, .one)]
  | IfExp => [(.test, .expr, .one), (.body, .expr, .one), (.orelse, .expr, .one)]
  | Dict => [(.keys, .expr, .many), (.values, .expr, .many)]
  | Set => [(.elts, .expr, .many)]
  | ListComp | SetComp | GeneratorExp => [(.elt, .expr, .one), (.generators, .comprehension, .many)]
  | DictComp => [(.key, .expr, .one), (.value, .expr, .one), (.generators, .comprehension, .many)]
  | Await | YieldFrom => [(.value, .expr, .one)]
  | Yield => [(.value, .expr, .optional)]
  | Compare => [(.left, .expr, .one), (.ops, .cmpop, .many), (.comparators, .expr, .many)]
  | Call => [(.func, .expr, .one), (.args, .expr, .many), (.keywords, .keyword, .many)]
  | FormattedValue .. | Interpolation .. => [(.value, .expr, .one), (.format_spec, .expr, .optional)]
  | JoinedStr | TemplateStr => [(.values, .expr, .many)]
  | Attribute .. | Starred => [(.value, .expr, .one), (.ctx, .expr_context, .one)]
  | Subscript => [(.value, .expr, .one), (.slice, .expr, .one), (.ctx, .expr_context, .one)]
  | Name .. => [(.ctx, .expr_context, .one)]
  | List | Tuple => [(.elts, .expr, .many), (.ctx, .expr_context, .one)]
  | Slice => [(.lower, .expr, .optional), (.upper, .expr, .optional), (.step, .expr, .optional)]
  | comprehension .. => [(.target, .expr, .one), (.iter, .expr, .one), (.ifs, .expr, .many)]
  | ExceptHandler .. => [(.type, .expr, .optional), (.body, .stmt, .many)]
  | arguments =>
      [(.posonlyargs, .arg, .many), (.args, .arg, .many), (.vararg, .arg, .optional),
        (.kwonlyargs, .arg, .many), (.kw_defaults, .expr, .many), (.kwarg, .arg, .optional),
        (.defaults, .expr, .many)]
  | arg .. => [( Field.annotation, .expr, .optional)]
  | keyword .. => [(.value, .expr, .one)]
  | withitem => [(.context_expr, .expr, .one), (.optional_vars, .expr, .optional)]
  | match_case => [(.pattern, .pattern, .one), (.guard, .expr, .optional), (.body, .stmt, .many)]
  | MatchValue => [(.value, .expr, .one)]
  | MatchSequence | MatchOr => [(.patterns, .pattern, .many)]
  | MatchMapping .. => [(.keys, .expr, .many), (.patterns, .pattern, .many)]
  | MatchClass .. =>
      [(.cls, .expr, .one), (.patterns, .pattern, .many), (.kwd_patterns, .pattern, .many)]
  | MatchAs .. => [(.pattern, .pattern, .optional)]
  | TypeVar .. => [(.bound, .expr, .optional), (.default_value, .expr, .optional)]
  | ParamSpec .. | TypeVarTuple .. => [(.default_value, .expr, .optional)]
  | Global .. | Nonlocal .. | Pass | Break | Continue | Constant .. | expr_context .. | boolop ..
  | operator .. | unaryop .. | cmpop .. | .alias .. | MatchSingleton .. | MatchStar .. => []

/-- The identifiers a node binds or uses, attribute names apart. -/
def identifiers : Label → Names
  | FunctionDef name _ | AsyncFunctionDef name _ | ClassDef name | Name name | arg name _
  | TypeVar name | ParamSpec name | TypeVarTuple name => [name]
  | ImportFrom module _ => module.toList
  | Global names | Nonlocal names => names
  | ExceptHandler name | keyword name | MatchMapping name | MatchStar name | MatchAs name =>
      name.toList
  | .alias name asname => name :: asname.toList
  | _ => []

/-- The attributes a node reads by name. -/
def attributes : Label → Names
  | Attribute attr => [attr]
  | MatchClass kwd_attrs => kwd_attrs
  | _ => []

end Label

/-- The node's children are those the grammar gives its class. -/
def shaped (label : Label) (children : List (Field × Node)) : Bool :=
  children.all (fun edge => label.fields.any fun entry =>
    entry.1 == edge.1 && entry.2.1 == edge.2.label.sort) &&
  label.fields.all fun entry => entry.2.2.admits (Tree.childrenAt entry.1 children).length

/-- `ast.Module`: the statements of a program, as the grammar allows them. -/
structure Module where
  body : List Node
  statements : ∀ item ∈ body, item.label.sort = .stmt
  grammatical : ∀ item ∈ body, Tree.every shaped item = true

namespace Module

/-- `inner` is a node of the program, at whatever depth. -/
def HasNode (tree : Module) (inner : Node) : Prop := ∃ item ∈ tree.body, Tree.Within inner item

end Module

/-- A child stands under a field of its parent's class and has the sort that field holds. -/
theorem field_of_shaped {label : Label} {children : List (Field × Node)} {field : Field}
    {child : Node} (shape : shaped label children = true) (member : (field, child) ∈ children) :
    ∃ arity, (field, child.label.sort, arity) ∈ label.fields := by
  simp only [shaped, Bool.and_eq_true, List.all_eq_true, List.any_eq_true, beq_iff_eq] at shape
  obtain ⟨⟨_, _, arity⟩, entry, sameField, sameSort⟩ := shape.1 (field, child) member
  simp only at sameField sameSort
  rw [sameField, sameSort] at entry
  exact ⟨arity, entry⟩

end MasterAgent.Capsules
