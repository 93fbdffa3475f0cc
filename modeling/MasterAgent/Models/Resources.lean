import MasterAgent.Models.Checks

/-!
# Resource limits

`measure_json_resources` walks a value depth first with an explicit stack; here the walk is
the recursion over the value, with the same counters, limits and order of checks. A cycle
cannot occur in a value.
-/

namespace MasterAgent
open Base

def MAX_PLAN_BYTES : Nat := 8 * 1024 * 1024
def MAX_PLAN_ACTIONS : Nat := 256
def MAX_ACTION_DEPENDENCIES : Nat := 256
def MAX_JSON_DEPTH : Nat := 32
def MAX_JSON_COLLECTION_ITEMS : Nat := 1024
def MAX_JSON_NODES : Nat := 65536
def MAX_ACTION_PARAMETER_BYTES : Nat := 4 * 1024 * 1024
def MAX_PLAN_PARAMETER_BYTES : Nat := 8 * 1024 * 1024

structure JsonResourceUsage where
  nodes : Nat
  scalarBytes : Nat
  maximumDepth : Nat
deriving DecidableEq

/-- `_integer_characters`: an upper bound of the decimal length. -/
def integerCharacters (n : Int) : Nat :=
  if n = 0 then 1
  else
    let bits := Nat.log2 n.natAbs + 1
    (bits * 30103 + 99999) / 100000 + if n < 0 then 1 else 0

/-- `_bounded_string_bytes`. -/
def boundedStringBytes (value context : String) : Except Exn Nat :=
  if value.length > MAX_JSON_STRING_CHARACTERS then
    .error (validationError (s!"{context} contains a string exceeding the " ++
      s!"{MAX_JSON_STRING_CHARACTERS}-character limit"))
  else .ok value.utf8ByteSize

section
variable (context : String) (maxBytes : Nat)

/-- Charge scalar bytes to the usage. -/
def charge (bytes : Nat) (u : JsonResourceUsage) : Except Exn JsonResourceUsage :=
  if u.scalarBytes + bytes > maxBytes then
    .error (validationError s!"{context} exceeds the {maxBytes}-byte content limit")
  else .ok { u with scalarBytes := u.scalarBytes + bytes }

/-- Enter a node at a depth. -/
def enter (depth : Nat) (u : JsonResourceUsage) : Except Exn JsonResourceUsage :=
  if u.nodes + 1 > MAX_JSON_NODES then
    .error (validationError s!"{context} exceeds the {MAX_JSON_NODES}-node limit")
  else if depth > MAX_JSON_DEPTH then
    .error (validationError s!"{context} exceeds the {MAX_JSON_DEPTH}-level nesting limit")
  else .ok { u with nodes := u.nodes + 1, maximumDepth := max u.maximumDepth depth }

/-- The bytes of an object's keys. -/
def keyBytes : Fields → Except Exn Nat
  | [] => .ok 0
  | (key, _) :: rest => do
      let bytes ← boundedStringBytes key context
      return bytes + (← keyBytes rest)

mutual
def measureNode (depth : Nat) (u : JsonResourceUsage) : Json → Except Exn JsonResourceUsage
  | .null => do charge context maxBytes 4 (← enter context depth u)
  | .bool b => do charge context maxBytes (if b then 4 else 5) (← enter context depth u)
  | .int n => do charge context maxBytes (integerCharacters n) (← enter context depth u)
  | .float _ => do charge context maxBytes 24 (← enter context depth u)
  | .str s => do
      let u ← enter context depth u
      charge context maxBytes (← boundedStringBytes s context) u
  | .arr items => do
      let u ← enter context depth u
      if items.length > MAX_JSON_COLLECTION_ITEMS then
        .error (validationError (s!"{context} contains an array exceeding the " ++
          s!"{MAX_JSON_COLLECTION_ITEMS}-item limit"))
      else
        measureItems (depth + 1) (← charge context maxBytes 0 u) items
  | .obj fields => do
      let u ← enter context depth u
      if fields.length > MAX_JSON_COLLECTION_ITEMS then
        .error (validationError (s!"{context} contains an object exceeding the " ++
          s!"{MAX_JSON_COLLECTION_ITEMS}-item limit"))
      else
        measureMembers (depth + 1) (← charge context maxBytes (← keyBytes context fields) u) fields
def measureItems (depth : Nat) (u : JsonResourceUsage) :
    List Json → Except Exn JsonResourceUsage
  | [] => .ok u
  | item :: items => do measureItems depth (← measureNode depth u item) items
def measureMembers (depth : Nat) (u : JsonResourceUsage) : Fields → Except Exn JsonResourceUsage
  | [] => .ok u
  | (_, value) :: fields => do measureMembers depth (← measureNode depth u value) fields
end

/-- `measure_json_resources`. -/
def measureJsonResources (value : Json) : Except Exn JsonResourceUsage :=
  measureNode context maxBytes 1 ⟨0, 0, 0⟩ value

/-- The requirement that a value fits its limits. -/
def fits (value : Json) : List Check :=
  match measureJsonResources context maxBytes value with
  | .ok _ => []
  | .error e => [(false, e)]

end

end MasterAgent
