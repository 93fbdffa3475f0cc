import MasterAgent.Capsules.Syntax

/-!
# The capsule worker's program validator

`_ProgramValidator`, the AST visitor that admits a capsule program, and `validateSource`
around it. The validator overrides six visitor methods and leaves every other class to
`generic_visit`, which reaches child nodes and no plain data.
-/

namespace MasterAgent.Capsules
open Base

def MAX_AST_NODES : Nat := 8192
def MAX_SOURCE_CHARACTERS : Nat := 256 * 1024

def SAFE_CALLS : List String :=
  ["abs", "all", "any", "bool", "dict", "enumerate", "float", "int", "len", "list", "max", "min",
    "range", "reversed", "round", "sorted", "str", "sum", "tuple", "zip"]

def SAFE_METHODS : List String :=
  ["casefold", "copy", "count", "endswith", "get", "index", "items", "join", "keys", "lower",
    "replace", "split", "startswith", "strip", "upper", "values"]

/-- `isinstance(node, _FORBIDDEN_NODES)` -/
def forbiddenNode : Label → Bool
  | .AsyncFor .. | .AsyncFunctionDef .. | .AsyncWith .. | .Await | .ClassDef .. | .Delete
  | .Global .. | .Import | .ImportFrom .. | .Lambda | .NamedExpr | .Nonlocal .. | .Raise | .Try
  | .With .. | .Yield | .YieldFrom => true
  | _ => false

/-- `name.startswith("_")` -/
def underscored (name : String) : Bool := name.toList.head? == some '_'

inductive WorkerError where
  /-- `CapsuleProgramRejected` with its reason. -/
  | rejected (reason : String)
  /-- Any other exception of the parser. -/
  | other (className : String)
deriving DecidableEq, Repr

/-- What the worker takes from the interpreter. -/
class Interpreter where
  /-- `str.isidentifier` -/
  isidentifier : String → Bool
  /-- `ast.parse(source, mode="exec")`; `none` when it raises `SyntaxError`, the name of any
  other exception class otherwise. -/
  parse : String → Except (Option String) Module

variable [Interpreter]

/-! ## The visitor methods -/

/-- What `visit_FunctionDef` checks before it visits the node's children. -/
def checkFunctionDef (name : String) (typeComment : Option String)
    (children : List (Field × Node)) : Except WorkerError Unit := do
  if !Interpreter.isidentifier name || underscored name
      || !(Tree.childrenAt .decorator_list children).isEmpty
      || !(Tree.childrenAt .returns children).isEmpty || typeComment.isSome then
    throw (.rejected "unsafe_function")
  let arguments := (Tree.childrenAt .args children).flatMap Tree.children
  let args := Tree.childrenAt .args arguments
  if !(Tree.childrenAt .posonlyargs arguments).isEmpty
      || !(Tree.childrenAt .kwonlyargs arguments).isEmpty
      || !(Tree.childrenAt .vararg arguments).isEmpty
      || !(Tree.childrenAt .kwarg arguments).isEmpty
      || !(Tree.childrenAt .defaults arguments).isEmpty
      || !(Tree.childrenAt .kw_defaults arguments).isEmpty
      || args.any (fun argument => !(Tree.childrenAt Field.annotation argument.children).isEmpty) then
    throw (.rejected "unsafe_function_signature")
  if name == "run" && args.length != 1 then
    throw (.rejected "run_signature")
  if name != "run" && args.length > 8 then
    throw (.rejected "helper_signature")

/-- The names a call's target may have: `SAFE_CALLS` and the module's functions. -/
def safeCall (functions : List String) (name : String) : Bool :=
  SAFE_CALLS.contains name || functions.contains name

/-- What `visit_Call` checks of the target before it visits it. -/
def checkTarget (functions : List String) : Label → Except WorkerError Unit
  | .Name id => if safeCall functions id then .ok () else .error (.rejected "unsafe_call")
  | .Attribute _ => .ok ()
  | _ => .error (.rejected "dynamic_call")

/-- `keyword.arg is None`: a `**` argument. -/
def expands : Label → Bool
  | .keyword none => true
  | _ => false

/-- `isinstance(node.value, (str, int, float, bool, type(None)))` -/
def jsonConstant : ConstantValue → Bool
  | .str _ | .int _ | .float _ | .bool _ | .none => true
  | .complex _ | .bytes _ | .ellipsis => false

-- `functions` is `self.functions`, which only `visit_Module` adds to; the number passed and
-- returned is `self.node_count`.
mutual
def visit (functions : List String) : Node → Nat → Except WorkerError Nat
  | .node label children, nodeCount =>
    if nodeCount + 1 > MAX_AST_NODES then .error (.rejected "source_too_complex")
    else if forbiddenNode label then .error (.rejected "forbidden_syntax")
    else match label with
    | .FunctionDef name typeComment => do
        checkFunctionDef name typeComment children
        visitFields functions (fun _ => true) children (nodeCount + 1)
    | .Name id =>
        if underscored id then .error (.rejected "private_name") else .ok (nodeCount + 1)
    | .Attribute attr =>
        if !SAFE_METHODS.contains attr then .error (.rejected "unsafe_attribute")
        else visitFields functions (· == .value) children (nodeCount + 1)
    | .Call => do
        if (Tree.childrenAt .keywords children).any (expands ·.label) then
          throw (.rejected "expanded_call")
        (Tree.childrenAt .func children).forM (checkTarget functions ·.label)
        let nodeCount ← visitFields functions (· == .func) children (nodeCount + 1)
        let nodeCount ← visitArguments functions children nodeCount
        visitKeywords functions children nodeCount
    | .Constant value _ =>
        if !jsonConstant value then .error (.rejected "non_json_constant") else .ok (nodeCount + 1)
    | _ => visitFields functions (fun _ => true) children (nodeCount + 1)

/-- Visits the nodes the selected fields hold, in order; `generic_visit` selects every field. -/
def visitFields (functions : List String) (selected : Field → Bool) :
    List (Field × Node) → Nat → Except WorkerError Nat
  | [], nodeCount => .ok nodeCount
  | (field, child) :: rest, nodeCount =>
    if selected field then do
      let nodeCount ← visit functions child nodeCount
      visitFields functions selected rest nodeCount
    else visitFields functions selected rest nodeCount

/-- `for argument in node.args` of `visit_Call` -/
def visitArguments (functions : List String) :
    List (Field × Node) → Nat → Except WorkerError Nat
  | [], nodeCount => .ok nodeCount
  | (field, argument) :: rest, nodeCount =>
    if field == .args then do
      if argument.label == .Starred then throw (.rejected "expanded_call")
      let nodeCount ← visit functions argument nodeCount
      visitArguments functions rest nodeCount
    else visitArguments functions rest nodeCount

/-- `for keyword in node.keywords` of `visit_Call` -/
def visitKeywords (functions : List String) :
    List (Field × Node) → Nat → Except WorkerError Nat
  | [], nodeCount => .ok nodeCount
  | (field, .node _ inner) :: rest, nodeCount =>
    if field == .keywords then do
      let nodeCount ← visitFields functions (· == .value) inner nodeCount
      visitKeywords functions rest nodeCount
    else visitKeywords functions rest nodeCount
end

/-- A docstring: `isinstance(item, ast.Expr)` with a string constant as its value. -/
def isDocstring (item : Node) : Bool :=
  item.label == .Expr && (Tree.childrenAt .value item.children).any fun value =>
    match value.label with
    | .Constant (.str _) _ => true
    | _ => false

/-- The loop of `visit_Module` over `node.body`. -/
def moduleFunctions : List Node → Except WorkerError (List String)
  | [] => .ok []
  | item :: rest =>
    if isDocstring item then moduleFunctions rest
    else match item.label with
      | .FunctionDef name _ => do
          let functions ← moduleFunctions rest
          return name :: functions
      | _ => .error (.rejected "top_level_statement")

/-- `visit_Module` under `visit`, which counts the module itself. -/
def visitModule (tree : Module) : Except WorkerError Nat := do
  let functions ← moduleFunctions tree.body
  if !functions.contains "run" then
    throw (.rejected "missing_run")
  visitFields functions (fun _ => true) (tree.body.map fun item => (.body, item)) 1

def validateSource (source : String) : Except WorkerError Module := do
  if source.isEmpty || source.length > MAX_SOURCE_CHARACTERS then
    throw (.rejected "source_size")
  let tree ← match Interpreter.parse source with
    | .ok tree => pure tree
    | .error none => throw (.rejected "source_syntax")
    | .error (some className) => throw (.other className)
  let _ ← visitModule tree
  return tree

end MasterAgent.Capsules
