import MasterAgent.Advisory.Search
import MasterAgent.Base.JsonLoads
import MasterAgent.Egress.Rules

/-!
# Delegated payloads

A payload is copied before it is handed to a worker: only plain data within limits is copied, and
what looks like a secret or like authority is refused.

Results:

1. `sanitize_ok`: what the recursion accepts, of whatever nesting;
2. `sanitizePayload_ok`: the copy that the worker gets.
-/

namespace MasterAgent.Advisory
open Base

def MAX_PAYLOAD_BYTES : Nat := 64 * 1024
def MAX_PAYLOAD_ITEMS : Nat := 256
def MAX_PAYLOAD_DEPTH : Nat := 8
def MAX_TEXT : Nat := 16 * 1024

def advisoryPayloadRejected (message : String) : Exn :=
  ⟨.valueError, "AdvisoryPayloadRejected", message⟩

/-! ## Patterns

Regular expressions without groups that are read back. Only whether a text contains a match is asked. -/

/-- A place in a text: the character before it and the text from it on. -/
abbrev Place := Option Char × List Char

inductive Pattern where
  | char (holds : Char → Bool)
  | many (holds : Char → Bool) (least : Nat)
  | boundary
  | seq (first second : Pattern)
  | either (first second : Pattern)

/-- The places that a run of characters may end at, with `least` characters to go. -/
def repeated (holds : Char → Bool) (least : Nat) (before : Option Char) : List Char → List Place
  | [] => if least = 0 then [(before, [])] else []
  | c :: rest =>
    (if least = 0 then [(before, c :: rest)] else []) ++
      if holds c then repeated holds (least - 1) (some c) rest else []

section
variable [CharTables]

def isWordAt (c : Option Char) : Bool := c.any CharTables.word

/-- The places where a match that begins at a place may end. -/
def Pattern.ends : Pattern → Place → List Place
  | char holds, (_, c :: rest) => if holds c then [(some c, rest)] else []
  | char _, (_, []) => []
  | many holds least, (before, rest) => repeated holds least before rest
  | boundary, (before, rest) =>
    if isWordAt before != isWordAt rest.head? then [(before, rest)] else []
  | seq first second, place => (first.ends place).flatMap second.ends
  | either first second, place => first.ends place ++ second.ends place

/-- `pattern.search(text)` finds something, from a place on. -/
def Pattern.foundFrom (pattern : Pattern) (before : Option Char) : List Char → Bool
  | [] => pattern.ends (before, []) ≠ []
  | c :: rest => pattern.ends (before, c :: rest) ≠ [] || pattern.foundFrom (some c) rest

def Pattern.search (pattern : Pattern) (text : String) : Bool := pattern.foundFrom none text.toList

end

namespace Pattern

/-- One pattern after another. -/
def all : List Pattern → Pattern
  | [] => many (fun _ => false) 0
  | [pattern] => pattern
  | pattern :: rest => seq pattern (all rest)

def literal (text : String) : Pattern := all (text.toList.map fun c => char (· == c))

/-- A character that `re.IGNORECASE` takes for a lower-case letter, which for three letters is more
than the two cases of ASCII. -/
def ignoresCase (letter c : Char) : Bool :=
  c == letter || c == letter.toUpper || letter == 's' && c == 'ſ' ||
    letter == 'k' && c == Char.ofNat 0x212a ||
    letter == 'i' && (c == Char.ofNat 0x130 || c == Char.ofNat 0x131)

/-- A literal under `re.IGNORECASE`. -/
def anyCase (text : String) : Pattern := all (text.toList.map fun c => char (ignoresCase c))

def oneOf (chars : String) : Pattern := char (chars.toList.contains ·)

end Pattern

open Pattern in
/-- `_SECRET_PATTERNS` -/
def SECRET_PATTERNS : List Pattern :=
  [all [boundary, literal "gh", oneOf "pousr", literal "_",
     many (fun c => c.isAlphanum || c == '_') 8, boundary],
   all [boundary, literal "sk-", many (fun c => c.isAlphanum || c == '_' || c == '-') 8, boundary],
   all [literal "-----BEGIN ",
     either (either (literal "RSA ") (literal "EC ")) (either (literal "OPENSSH ") (all [])),
     literal "PRIVATE KEY-----"],
   all [boundary, either (anyCase "token") (either (anyCase "password") (anyCase "secret")),
     many isSpace 0, oneOf ":=", many isSpace 0, many (fun c => !isSpace c) 1],
   all [boundary, anyCase "approval", either (anyCase "-artifact") (all []), literal "://",
     many (fun c => !isSpace c) 1]]

/-- `_FORBIDDEN_KEYS` -/
def FORBIDDEN_KEYS : List String :=
  ["approval", "authority", "changeplan", "change_plan", "connector", "credential", "password",
    "private_context", "recipient", "secret", "signing", "target", "tenant", "token"]

/-- The text matches a secret pattern. -/
def SecretLike [CharTables] (text : String) : Prop :=
  SECRET_PATTERNS.any (·.search text) = true

instance [CharTables] (text : String) : Decidable (SecretLike text) :=
  inferInstanceAs (Decidable (_ = true))

/-- `_reject_secret_text` -/
def rejectSecretText [CharTables] (value context : String) : Except Exn Unit :=
  if SecretLike value then
    .error (advisoryPayloadRejected (context ++ " contains secret-like content"))
  else .ok ()

/-! ## Payloads -/

/-- A Python value that is delegated. A key of a mapping is `none` where it is no text; `other` is a
value of another type, under the name of that type. -/
inductive Payload where
  | none
  | bool (b : Bool)
  | int (n : Int)
  | str (s : String)
  | mapping (items : List (Option String × Payload))
  | sequence (items : List Payload)
  | other (typeName : String)

variable [Host] [CharTables]

/-- A key with a forbidden word in it, dashes read as underscores. -/
def Forbidden (key : String) : Prop :=
  ∃ part ∈ FORBIDDEN_KEYS,
    part.toList <:+: (casefold key).toList.map fun c => if c = '-' then '_' else c

instance (key : String) : Decidable (Forbidden key) :=
  inferInstanceAs (Decidable (∃ part ∈ FORBIDDEN_KEYS, _))

/-- The limits that every value passes, with the count of values so far. -/
def enter (depth count : Nat) : Except Exn Nat :=
  if depth > MAX_PAYLOAD_DEPTH then
    .error (advisoryPayloadRejected "delegated payload exceeds the depth limit")
  else if count + 1 > MAX_PAYLOAD_ITEMS then
    .error (advisoryPayloadRejected "delegated payload exceeds the item limit")
  else .ok (count + 1)

def sanitizeText (s context : String) : Except Exn Unit :=
  if s.toList.length > MAX_TEXT then
    .error (advisoryPayloadRejected (context ++ " string is too large"))
  else rejectSecretText s context

def sanitizeKey (key : Option String) (context : String) : Except Exn String :=
  if key.getD "" = "" then .error (advisoryPayloadRejected (context ++ " keys must be strings"))
  else if Forbidden (key.getD "") then
    .error (advisoryPayloadRejected ("forbidden delegated field: " ++ key.getD ""))
  else .ok (key.getD "")

mutual
/-- `_sanitize`, with the count before and after it. -/
def sanitize : Payload → Nat → Nat → String → Except Exn (Json × Nat)
  | .none, depth, count, _ => do
    let count ← enter depth count
    .ok (.null, count)
  | .bool b, depth, count, _ => do
    let count ← enter depth count
    .ok (.bool b, count)
  | .int n, depth, count, _ => do
    let count ← enter depth count
    .ok (.int n, count)
  | .str s, depth, count, context => do
    let count ← enter depth count
    sanitizeText s context
    .ok (.str s, count)
  | .mapping items, depth, count, context => do
    let count ← enter depth count
    let (members, count) ← sanitizeMembers items (depth + 1) count context
    .ok (.obj members, count)
  | .sequence items, depth, count, context => do
    let count ← enter depth count
    let (items, count) ← sanitizeItems items (depth + 1) count context
    .ok (.arr items, count)
  | .other typeName, depth, count, _ => do
    let _ ← enter depth count
    .error (advisoryPayloadRejected ("unsupported delegated value: " ++ typeName))
def sanitizeMembers : List (Option String × Payload) → Nat → Nat → String →
    Except Exn (Fields × Nat)
  | [], _, count, _ => .ok ([], count)
  | (key, item) :: rest, depth, count, context => do
    let key ← sanitizeKey key context
    let (value, count) ← sanitize item depth count (context ++ "." ++ key)
    let (members, count) ← sanitizeMembers rest depth count context
    .ok ((key, value) :: members, count)
def sanitizeItems : List Payload → Nat → Nat → String → Except Exn (List Json × Nat)
  | [], _, count, _ => .ok ([], count)
  | item :: rest, depth, count, context => do
    let (value, count) ← sanitize item depth count (context ++ "[]")
    let (items, count) ← sanitizeItems rest depth count context
    .ok (value :: items, count)
end

mutual
/-- An integer with more digits than Python converts to text. -/
def hasLongInt : Json → Bool
  | .int n => (Nat.toDigits 10 n.natAbs).length > 4300
  | .arr items => hasLongIntItems items
  | .obj members => hasLongIntMembers members
  | _ => false
def hasLongIntItems : List Json → Bool
  | [] => false
  | item :: items => hasLongInt item || hasLongIntItems items
def hasLongIntMembers : Fields → Bool
  | [] => false
  | (_, value) :: members => hasLongInt value || hasLongIntMembers members
end

/-- The bytes of `json.dumps(_thaw(result), sort_keys=True, …)`. -/
def material (result : Json) : List UInt8 := utf8 (Json.sortKeys result).dumps

/-- `sanitize_payload` -/
def sanitizePayload (payload : Payload) : Except Exn Json := do
  let (result, _) ← sanitize payload 0 0 "payload"
  match result with
  | .obj members =>
    if hasLongInt (.obj members) then
      .error (valueError "Exceeds the limit (4300 digits) for integer string conversion")
    else if (material (.obj members)).length > MAX_PAYLOAD_BYTES then
      .error (advisoryPayloadRejected "delegated payload exceeds the byte limit")
    else .ok (.obj members)
  | _ => .error (advisoryPayloadRejected "delegated payload must be a mapping")

/-! ## What is in a tree -/

omit [Host] [CharTables]

mutual
/-- The texts that stand as values, at any depth. -/
def Payload.texts : Payload → List String
  | .str s => [s]
  | .mapping items => textsOfMembers items
  | .sequence items => textsOfItems items
  | _ => []
def textsOfMembers : List (Option String × Payload) → List String
  | [] => []
  | (_, item) :: rest => item.texts ++ textsOfMembers rest
def textsOfItems : List Payload → List String
  | [] => []
  | item :: rest => item.texts ++ textsOfItems rest
end

mutual
/-- The keys of mappings, at any depth. -/
def Payload.keys : Payload → List String
  | .mapping items => keysOfMembers items
  | .sequence items => keysOfItems items
  | _ => []
def keysOfMembers : List (Option String × Payload) → List String
  | [] => []
  | (key, item) :: rest => key.getD "" :: (item.keys ++ keysOfMembers rest)
def keysOfItems : List Payload → List String
  | [] => []
  | item :: rest => item.keys ++ keysOfItems rest
end

mutual
def jsonTexts : Json → List String
  | .str s => [s]
  | .obj members => jsonTextsOfMembers members
  | .arr items => jsonTextsOfItems items
  | _ => []
def jsonTextsOfMembers : Fields → List String
  | [] => []
  | (_, value) :: members => jsonTexts value ++ jsonTextsOfMembers members
def jsonTextsOfItems : List Json → List String
  | [] => []
  | item :: items => jsonTexts item ++ jsonTextsOfItems items
end

mutual
def jsonKeys : Json → List String
  | .obj members => jsonKeysOfMembers members
  | .arr items => jsonKeysOfItems items
  | _ => []
def jsonKeysOfMembers : Fields → List String
  | [] => []
  | (key, value) :: members => key :: (jsonKeys value ++ jsonKeysOfMembers members)
def jsonKeysOfItems : List Json → List String
  | [] => []
  | item :: items => jsonKeys item ++ jsonKeysOfItems items
end

mutual
/-- The number of values of a tree, itself among them. -/
def nodes : Json → Nat
  | .obj members => 1 + nodesOfMembers members
  | .arr items => 1 + nodesOfItems items
  | _ => 1
def nodesOfMembers : Fields → Nat
  | [] => 0
  | (_, value) :: members => nodes value + nodesOfMembers members
def nodesOfItems : List Json → Nat
  | [] => 0
  | item :: items => nodes item + nodesOfItems items
end

mutual
/-- How deep values are nested below the root. -/
def height : Json → Nat
  | .obj members => heightOfMembers members
  | .arr items => heightOfItems items
  | _ => 0
def heightOfMembers : Fields → Nat
  | [] => 0
  | (_, value) :: members => max (height value + 1) (heightOfMembers members)
def heightOfItems : List Json → Nat
  | [] => 0
  | item :: items => max (height item + 1) (heightOfItems items)
end

/-! ## What is copied -/

variable [Host] [CharTables]

/-- What a copy has passed: texts that look like no secret, keys without a forbidden word, and the
limits on nesting and number. -/
structure Copied (texts keys texts' keys' : List String) (height nodes depth count count' : Nat) :
    Prop where
  texts_eq : texts' = texts
  keys_eq : keys' = keys
  clean : ∀ text ∈ texts, ¬ SecretLike text
  permitted : ∀ key ∈ keys, ¬ Forbidden key
  shallow : depth + height ≤ MAX_PAYLOAD_DEPTH
  counted : count' = count + nodes
  few : count' ≤ MAX_PAYLOAD_ITEMS

omit [Host] [CharTables] in
theorem enter_ok {depth count count' : Nat} (entered : enter depth count = .ok count') :
    depth ≤ MAX_PAYLOAD_DEPTH ∧ count' = count + 1 ∧ count' ≤ MAX_PAYLOAD_ITEMS := by
  rw [enter] at entered
  split at entered
  · cases entered
  · rename_i deep
    split at entered
    · cases entered
    · rename_i many
      cases entered
      exact ⟨Nat.not_lt.mp deep, rfl, Nat.not_lt.mp many⟩

omit [Host] in
theorem sanitizeText_ok {s context : String} (accepted : sanitizeText s context = .ok ()) :
    ¬ SecretLike s := by
  rw [sanitizeText, rejectSecretText] at accepted
  split at accepted
  · cases accepted
  · split at accepted
    · cases accepted
    · assumption

omit [CharTables] in
theorem sanitizeKey_ok {key : Option String} {context name : String}
    (accepted : sanitizeKey key context = .ok name) : name = key.getD "" ∧ ¬ Forbidden name := by
  rw [sanitizeKey] at accepted
  split at accepted
  · cases accepted
  · split at accepted
    · cases accepted
    · rename_i permitted
      cases accepted
      exact ⟨rfl, permitted⟩

/-- A value without texts and keys. -/
theorem copied_leaf {depth count count' : Nat} (entered : enter depth count = .ok count') :
    Copied [] [] [] [] 0 1 depth count count' := by
  obtain ⟨deep, counted, few⟩ := enter_ok entered
  exact ⟨rfl, rfl, nofun, nofun, deep, counted, few⟩

/-- A container around what it contains. -/
theorem Copied.wrap {texts keys texts' keys' : List String} {height nodes depth count inner count' : Nat}
    (entered : enter depth count = .ok inner)
    (copied : depth ≤ MAX_PAYLOAD_DEPTH → inner ≤ MAX_PAYLOAD_ITEMS →
      Copied texts keys texts' keys' height nodes depth inner count') :
    Copied texts keys texts' keys' height (1 + nodes) depth count count' := by
  obtain ⟨deep, counted, few⟩ := enter_ok entered
  have all := copied deep few
  exact ⟨all.texts_eq, all.keys_eq, all.clean, all.permitted, all.shallow,
    by rw [all.counted, counted, Nat.add_assoc], all.few⟩

/-- One value of a container before the others. -/
theorem Copied.both {texts keys texts' keys' texts₂ keys₂ texts₂' keys₂' : List String}
    {height nodes height₂ nodes₂ depth count between count' : Nat}
    (first : Copied texts keys texts' keys' height nodes (depth + 1) count between)
    (rest : between ≤ MAX_PAYLOAD_ITEMS →
      Copied texts₂ keys₂ texts₂' keys₂' height₂ nodes₂ depth between count') :
    Copied (texts ++ texts₂) (keys ++ keys₂) (texts' ++ texts₂') (keys' ++ keys₂')
      (max (height + 1) height₂) (nodes + nodes₂) depth count count' := by
  have others := rest first.few
  refine ⟨by rw [first.texts_eq, others.texts_eq], by rw [first.keys_eq, others.keys_eq],
    List.forall_mem_append.mpr ⟨first.clean, others.clean⟩,
    List.forall_mem_append.mpr ⟨first.permitted, others.permitted⟩, ?_,
    by rw [others.counted, first.counted, Nat.add_assoc], others.few⟩
  have here := first.shallow
  have there := others.shallow
  omega

theorem Copied.under {texts keys texts' keys' : List String} {height nodes depth count count' : Nat}
    {key : String} (permitted : ¬ Forbidden key)
    (copied : Copied texts keys texts' keys' height nodes depth count count') :
    Copied texts (key :: keys) texts' (key :: keys') height nodes depth count count' :=
  ⟨copied.texts_eq, by rw [copied.keys_eq], copied.clean,
    List.forall_mem_cons.mpr ⟨permitted, copied.permitted⟩, copied.shallow, copied.counted, copied.few⟩

mutual
/-- What the recursion accepts. -/
theorem sanitize_ok : ∀ {value : Payload} {depth count count' : Nat} {context : String} {result : Json},
    sanitize value depth count context = .ok (result, count') →
    Copied value.texts value.keys (jsonTexts result) (jsonKeys result) (height result) (nodes result)
      depth count count'
  | .none, depth, count, count', _, result, accepted => by
    rw [sanitize] at accepted
    obtain ⟨_, entered, done⟩ := of_bind_ok accepted
    cases done
    exact copied_leaf entered
  | .bool b, depth, count, count', _, result, accepted => by
    rw [sanitize] at accepted
    obtain ⟨_, entered, done⟩ := of_bind_ok accepted
    cases done
    exact copied_leaf entered
  | .int n, depth, count, count', _, result, accepted => by
    rw [sanitize] at accepted
    obtain ⟨_, entered, done⟩ := of_bind_ok accepted
    cases done
    exact copied_leaf entered
  | .str s, depth, count, count', context, result, accepted => by
    rw [sanitize] at accepted
    obtain ⟨_, entered, checked⟩ := of_bind_ok accepted
    obtain ⟨⟨⟩, clean, done⟩ := of_bind_ok checked
    cases done
    have leaf := copied_leaf entered
    exact ⟨rfl, rfl, List.forall_mem_singleton.mpr (sanitizeText_ok clean), nofun, leaf.shallow,
      leaf.counted, leaf.few⟩
  | .mapping items, depth, count, count', context, result, accepted => by
    rw [sanitize] at accepted
    obtain ⟨inner, entered, copied⟩ := of_bind_ok accepted
    obtain ⟨⟨members, _⟩, all, done⟩ := of_bind_ok copied
    cases done
    exact Copied.wrap entered fun deep few => sanitizeMembers_ok deep few all
  | .sequence items, depth, count, count', context, result, accepted => by
    rw [sanitize] at accepted
    obtain ⟨inner, entered, copied⟩ := of_bind_ok accepted
    obtain ⟨⟨values, _⟩, all, done⟩ := of_bind_ok copied
    cases done
    exact Copied.wrap entered fun deep few => sanitizeItems_ok deep few all
  | .other typeName, depth, count, count', _, result, accepted => by
    rw [sanitize] at accepted
    obtain ⟨_, _, done⟩ := of_bind_ok accepted
    cases done
theorem sanitizeMembers_ok : ∀ {items : List (Option String × Payload)} {depth count count' : Nat}
    {context : String} {result : Fields}, depth ≤ MAX_PAYLOAD_DEPTH → count ≤ MAX_PAYLOAD_ITEMS →
    sanitizeMembers items (depth + 1) count context = .ok (result, count') →
    Copied (textsOfMembers items) (keysOfMembers items) (jsonTextsOfMembers result)
      (jsonKeysOfMembers result) (heightOfMembers result) (nodesOfMembers result) depth count count'
  | [], depth, count, count', _, result, deep, few, accepted => by
    rw [sanitizeMembers] at accepted
    cases accepted
    exact ⟨rfl, rfl, nofun, nofun, deep, rfl, few⟩
  | (key, item) :: rest, depth, count, count', context, result, deep, few, accepted => by
    rw [sanitizeMembers] at accepted
    obtain ⟨name, named, copied⟩ := of_bind_ok accepted
    obtain ⟨⟨value, between⟩, first, others⟩ := of_bind_ok copied
    obtain ⟨⟨members, _⟩, all, done⟩ := of_bind_ok others
    cases done
    obtain ⟨rfl, permitted⟩ := sanitizeKey_ok named
    exact Copied.under permitted
      ((sanitize_ok first).both fun few' => sanitizeMembers_ok deep few' all)
theorem sanitizeItems_ok : ∀ {items : List Payload} {depth count count' : Nat}
    {context : String} {result : List Json}, depth ≤ MAX_PAYLOAD_DEPTH → count ≤ MAX_PAYLOAD_ITEMS →
    sanitizeItems items (depth + 1) count context = .ok (result, count') →
    Copied (textsOfItems items) (keysOfItems items) (jsonTextsOfItems result)
      (jsonKeysOfItems result) (heightOfItems result) (nodesOfItems result) depth count count'
  | [], depth, count, count', _, result, deep, few, accepted => by
    rw [sanitizeItems] at accepted
    cases accepted
    exact ⟨rfl, rfl, nofun, nofun, deep, rfl, few⟩
  | item :: rest, depth, count, count', context, result, deep, few, accepted => by
    rw [sanitizeItems] at accepted
    obtain ⟨⟨value, between⟩, first, others⟩ := of_bind_ok accepted
    obtain ⟨⟨values, _⟩, all, done⟩ := of_bind_ok others
    cases done
    exact (sanitize_ok first).both fun few' => sanitizeItems_ok deep few' all
end

/-- What a payload's copy has passed. -/
structure Bounded (payload : Json) : Prop where
  permitted : ∀ key ∈ jsonKeys payload, ¬ Forbidden key
  shallow : height payload ≤ MAX_PAYLOAD_DEPTH
  few : nodes payload ≤ MAX_PAYLOAD_ITEMS
  short : (material payload).length ≤ MAX_PAYLOAD_BYTES

/-- The copy that the worker gets. -/
theorem sanitizePayload_ok {payload : Payload} {result : Json}
    (accepted : sanitizePayload payload = .ok result) :
    Bounded result ∧ jsonTexts result = payload.texts ∧ jsonKeys result = payload.keys ∧
      ∀ text ∈ payload.texts, ¬ SecretLike text := by
  obtain ⟨⟨copy, count⟩, sanitized, checked⟩ := of_bind_ok accepted
  simp only at checked
  split at checked
  · split at checked
    · cases checked
    · split at checked
      · cases checked
      · rename_i short
        cases checked
        have copied := sanitize_ok sanitized
        refine ⟨⟨copied.keys_eq ▸ copied.permitted, ?_, ?_, Nat.not_lt.mp short⟩, copied.texts_eq,
          copied.keys_eq, copied.clean⟩
        · simpa using copied.shallow
        · have counted := copied.counted
          rw [Nat.zero_add] at counted
          exact counted ▸ copied.few
  · cases checked

end MasterAgent.Advisory
