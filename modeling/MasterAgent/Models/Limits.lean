import MasterAgent.Base.Frames
import MasterAgent.Models.Plan

/-!
# Resource limits of a plan

The constructor of a plan measures each action's parameters by themselves, the decoder measures the
serialized plan as one tree, with the same limits.

Results:

1. `measured_iff`: which values a measurement accepts, by their sizes alone;
2. `toDict_depth`: how deep a serialized plan nests;
3. `snapshot_iff`: which plans an orchestrator run can take its snapshot of.
-/

namespace MasterAgent
open Base

/-! ## Sizes of a value -/

mutual
/-- Levels of nesting. A scalar is one. -/
def jsonDepth : Json → Nat
  | .arr items => depthOfItems items + 1
  | .obj fields => depthOfMembers fields + 1
  | _ => 1
def depthOfItems : List Json → Nat
  | [] => 0
  | item :: items => max (jsonDepth item) (depthOfItems items)
def depthOfMembers : Fields → Nat
  | [] => 0
  | (_, value) :: fields => max (jsonDepth value) (depthOfMembers fields)
end

mutual
/-- Values, the containers themselves included. -/
def jsonNodes : Json → Nat
  | .arr items => nodesOfItems items + 1
  | .obj fields => nodesOfMembers fields + 1
  | _ => 1
def nodesOfItems : List Json → Nat
  | [] => 0
  | item :: items => jsonNodes item + nodesOfItems items
def nodesOfMembers : Fields → Nat
  | [] => 0
  | (_, value) :: fields => jsonNodes value + nodesOfMembers fields
end

/-- Bytes of the keys of an object. -/
def bytesOfKeys : Fields → Nat
  | [] => 0
  | (key, _) :: fields => key.utf8ByteSize + bytesOfKeys fields

mutual
/-- Bytes of the scalars and the keys. -/
def jsonBytes : Json → Nat
  | .null => 4
  | .bool b => if b then 4 else 5
  | .int n => integerCharacters n
  | .float _ => 24
  | .str s => s.utf8ByteSize
  | .arr items => bytesOfItems items
  | .obj fields => bytesOfKeys fields + bytesOfMembers fields
def bytesOfItems : List Json → Nat
  | [] => 0
  | item :: items => jsonBytes item + bytesOfItems items
def bytesOfMembers : Fields → Nat
  | [] => 0
  | (_, value) :: fields => jsonBytes value + bytesOfMembers fields
end

/-- A text within the limit of one. -/
def Short (s : String) : Prop := s.length ≤ MAX_JSON_STRING_CHARACTERS

mutual
/-- No text and no collection is oversized. -/
def Regular : Json → Prop
  | .str s => Short s
  | .arr items => items.length ≤ MAX_JSON_COLLECTION_ITEMS ∧ RegularItems items
  | .obj fields => fields.length ≤ MAX_JSON_COLLECTION_ITEMS ∧
      (∀ field ∈ fields, Short field.1) ∧ RegularMembers fields
  | _ => True
def RegularItems : List Json → Prop
  | [] => True
  | item :: items => Regular item ∧ RegularItems items
def RegularMembers : Fields → Prop
  | [] => True
  | (_, value) :: fields => Regular value ∧ RegularMembers fields
end

theorem short_of_bytes {s : String} {n : Nat} (bytes : s.utf8ByteSize + n ≤ MAX_JSON_STRING_CHARACTERS) :
    Short s :=
  (length_le_utf8ByteSize s).trans ((Nat.le_add_right ..).trans bytes)

theorem nodes_pos (value : Json) : 1 ≤ jsonNodes value := by
  cases value <;> simp [jsonNodes]

theorem length_le_nodes (items : List Json) : items.length ≤ nodesOfItems items := by
  induction items with
  | nil => exact Nat.le_refl 0
  | cons item items ih =>
    rw [List.length_cons, nodesOfItems, Nat.add_comm]
    exact Nat.add_le_add (nodes_pos item) ih

theorem short_keys {fields : Fields} (bytes : bytesOfKeys fields ≤ MAX_JSON_STRING_CHARACTERS) :
    ∀ field ∈ fields, Short field.1 := by
  induction fields with
  | nil => exact fun _ listed => nomatch listed
  | cons field fields ih =>
    rw [bytesOfKeys] at bytes
    rw [List.forall_mem_cons]
    exact ⟨short_of_bytes bytes, ih ((Nat.le_add_left ..).trans bytes)⟩

theorem count_le_nodes (fields : Fields) : fields.length ≤ nodesOfMembers fields := by
  induction fields with
  | nil => exact Nat.le_refl 0
  | cons field fields ih =>
    rw [List.length_cons, nodesOfMembers, Nat.add_comm]
    exact Nat.add_le_add (nodes_pos field.2) ih

mutual
/-- Nothing is oversized in a value that is small as a whole. -/
theorem regular_of_small : ∀ {value : Json}, jsonBytes value ≤ MAX_JSON_STRING_CHARACTERS →
    jsonNodes value ≤ MAX_JSON_COLLECTION_ITEMS → Regular value
  | .null, _, _ => trivial
  | .bool _, _, _ => trivial
  | .int _, _, _ => trivial
  | .float _, _, _ => trivial
  | .str s, bytes, _ => short_of_bytes (n := 0) bytes
  | .arr items, bytes, nodes => by
      rw [jsonNodes] at nodes
      exact ⟨(length_le_nodes items).trans (by omega), regularItems_of_small bytes (by omega)⟩
  | .obj fields, bytes, nodes => by
      rw [jsonNodes] at nodes
      rw [jsonBytes] at bytes
      exact ⟨(count_le_nodes fields).trans (by omega), short_keys (by omega),
        regularMembers_of_small (by omega) (by omega)⟩
theorem regularItems_of_small : ∀ {items : List Json}, bytesOfItems items ≤ MAX_JSON_STRING_CHARACTERS →
    nodesOfItems items ≤ MAX_JSON_COLLECTION_ITEMS → RegularItems items
  | [], _, _ => trivial
  | item :: items, bytes, nodes => by
      rw [bytesOfItems] at bytes
      rw [nodesOfItems] at nodes
      exact ⟨regular_of_small (by omega) (by omega), regularItems_of_small (by omega) (by omega)⟩
theorem regularMembers_of_small : ∀ {fields : Fields},
    bytesOfMembers fields ≤ MAX_JSON_STRING_CHARACTERS →
    nodesOfMembers fields ≤ MAX_JSON_COLLECTION_ITEMS → RegularMembers fields
  | [], _, _ => trivial
  | (_, value) :: fields, bytes, nodes => by
      rw [bytesOfMembers] at bytes
      rw [nodesOfMembers] at nodes
      exact ⟨regular_of_small (by omega) (by omega), regularMembers_of_small (by omega) (by omega)⟩
end

/-! ## What a measurement accepts -/

section
variable {context : String} {maxBytes : Nat}

/-- A measurement within its limits. -/
def Bounded (maxBytes : Nat) (u : JsonResourceUsage) : Prop :=
  u.nodes ≤ MAX_JSON_NODES ∧ u.scalarBytes ≤ maxBytes

/-- The usage with as many more nodes and bytes, at any depth. -/
def Grown (u v : JsonResourceUsage) (nodes bytes : Nat) : Prop :=
  v.nodes = u.nodes + nodes ∧ v.scalarBytes = u.scalarBytes + bytes

/-- Sizes that still fit from a depth and a usage on. -/
def Room (maxBytes depth : Nat) (u : JsonResourceUsage) (levels nodes bytes : Nat) : Prop :=
  depth + levels ≤ MAX_JSON_DEPTH + 1 ∧ u.nodes + nodes ≤ MAX_JSON_NODES ∧
    u.scalarBytes + bytes ≤ maxBytes

theorem charge_ok {bytes : Nat} {u v : JsonResourceUsage} :
    charge context maxBytes bytes u = .ok v ↔
      u.scalarBytes + bytes ≤ maxBytes ∧ v = { u with scalarBytes := u.scalarBytes + bytes } := by
  unfold charge
  split
  · next more => simp [Nat.not_le.mpr more]
  · next fits => simp [Nat.not_lt.mp fits, eq_comm]

theorem enter_ok {depth : Nat} {u v : JsonResourceUsage} :
    enter context depth u = .ok v ↔ u.nodes + 1 ≤ MAX_JSON_NODES ∧ depth ≤ MAX_JSON_DEPTH ∧
      v = { u with nodes := u.nodes + 1, maximumDepth := max u.maximumDepth depth } := by
  unfold enter
  split
  · next more => simp [Nat.not_le.mpr more]
  · next fits =>
      split
      · next deep => simp [Nat.not_le.mpr deep]
      · next level => simp [Nat.not_lt.mp fits, Nat.not_lt.mp level, eq_comm]

theorem boundedStringBytes_ok {s : String} {n : Nat} :
    boundedStringBytes s context = .ok n ↔ Short s ∧ n = s.utf8ByteSize := by
  unfold boundedStringBytes Short
  split
  · next long => simp [Nat.not_le.mpr long]
  · next short => simp [Nat.not_lt.mp short, eq_comm]

theorem keyBytes_ok {fields : Fields} {n : Nat} :
    keyBytes context fields = .ok n ↔ (∀ field ∈ fields, Short field.1) ∧ n = bytesOfKeys fields := by
  induction fields generalizing n with
  | nil => simp [keyBytes, bytesOfKeys, eq_comm]
  | cons field fields ih =>
      obtain ⟨key, value⟩ := field
      simp only [keyBytes, bytesOfKeys, bind_ok_iff, boundedStringBytes_ok, ih, pure_ok,
        Except.ok.injEq, List.forall_mem_cons]
      constructor
      · rintro ⟨_, ⟨short, rfl⟩, _, ⟨rest, rfl⟩, rfl⟩
        exact ⟨⟨short, rest⟩, rfl⟩
      · rintro ⟨⟨short, rest⟩, rfl⟩
        exact ⟨_, ⟨short, rfl⟩, _, ⟨rest, rfl⟩, rfl⟩

/-- What a walk that is not refused adds to the usage. -/
def Walk (maxBytes depth : Nat) (u : JsonResourceUsage) (result : Except Exn JsonResourceUsage)
    (levels nodes bytes : Nat) (regular : Prop) : Prop :=
  (∀ v, result = .ok v → Grown u v nodes bytes) ∧
  (Bounded maxBytes u → depth ≤ MAX_JSON_DEPTH + 1 →
    ((∃ v, result = .ok v) ↔ Room maxBytes depth u levels nodes bytes ∧ regular))

/-- A walk on, some levels deeper, after one that added to the usage. -/
theorem Walk.next {depth deeper : Nat} {u : JsonResourceUsage}
    {first : Except Exn JsonResourceUsage} {next : JsonResourceUsage → Except Exn JsonResourceUsage}
    {levels nodes bytes levels' nodes' bytes' : Nat} {regular regular' : Prop}
    (walk : Walk maxBytes depth u first levels nodes bytes regular) (within : deeper ≤ levels)
    (later : ∀ v, Walk maxBytes (depth + deeper) v (next v) levels' nodes' bytes' regular') :
    Walk maxBytes depth u (first >>= next) (max levels (levels' + deeper)) (nodes + nodes')
      (bytes + bytes') (regular ∧ regular') := by
  constructor
  · intro w result
    obtain ⟨v, ran, rest⟩ := bind_ok_iff.mp result
    obtain ⟨n, b⟩ := walk.1 v ran
    obtain ⟨n', b'⟩ := (later v).1 w rest
    exact ⟨by omega, by omega⟩
  · intro bounded level
    constructor
    · rintro ⟨w, result⟩
      obtain ⟨v, ran, rest⟩ := bind_ok_iff.mp result
      obtain ⟨n, b⟩ := walk.1 v ran
      obtain ⟨⟨deep, room⟩, regular⟩ := (walk.2 bounded level).mp ⟨v, ran⟩
      obtain ⟨⟨deep', room'⟩, regular'⟩ :=
        ((later v).2 ⟨n ▸ room.1, b ▸ room.2⟩ (by omega)).mp ⟨w, rest⟩
      exact ⟨⟨by omega, by omega, by omega⟩, regular, regular'⟩
    · rintro ⟨⟨deep, room⟩, regular, regular'⟩
      obtain ⟨v, ran⟩ := (walk.2 bounded level).mpr ⟨⟨by omega, by omega, by omega⟩, regular⟩
      obtain ⟨n, b⟩ := walk.1 v ran
      obtain ⟨w, rest⟩ := ((later v).2 ⟨by omega, by omega⟩ (by omega)).mpr
        ⟨⟨by omega, by omega, by omega⟩, regular'⟩
      exact ⟨w, bind_ok_iff.mpr ⟨v, ran, rest⟩⟩

/-- Nothing is left to walk. -/
theorem Walk.done {depth : Nat} {u : JsonResourceUsage} :
    Walk maxBytes depth u (.ok u) 0 0 0 True :=
  ⟨fun _ result => by cases result; exact ⟨rfl, rfl⟩,
    fun bounded level => ⟨fun _ => ⟨⟨level, bounded⟩, trivial⟩, fun _ => ⟨u, rfl⟩⟩⟩

/-- A scalar is entered, checked and charged. -/
theorem Walk.scalar {depth bytes : Nat} {u : JsonResourceUsage} {cost : Except Exn Nat}
    {regular : Prop} (priced : ∀ n, cost = .ok n ↔ regular ∧ n = bytes) :
    Walk maxBytes depth u
      (enter context depth u >>= fun v => cost >>= fun n => charge context maxBytes n v)
      1 1 bytes regular := by
  constructor
  · intro v result
    obtain ⟨w, entered, rest⟩ := bind_ok_iff.mp result
    obtain ⟨n, price, charged⟩ := bind_ok_iff.mp rest
    obtain ⟨-, -, rfl⟩ := enter_ok.mp entered
    obtain ⟨-, rfl⟩ := (priced n).mp price
    obtain ⟨-, rfl⟩ := charge_ok.mp charged
    exact ⟨rfl, rfl⟩
  · intro bounded level
    constructor
    · rintro ⟨v, result⟩
      obtain ⟨w, entered, rest⟩ := bind_ok_iff.mp result
      obtain ⟨n, price, charged⟩ := bind_ok_iff.mp rest
      obtain ⟨nodes, deep, rfl⟩ := enter_ok.mp entered
      obtain ⟨regular, rfl⟩ := (priced n).mp price
      exact ⟨⟨by omega, nodes, (charge_ok.mp charged).1⟩, regular⟩
    · rintro ⟨⟨deep, nodes, fits⟩, regular⟩
      exact ⟨_, bind_ok_iff.mpr ⟨_, enter_ok.mpr ⟨nodes, by omega, rfl⟩,
        bind_ok_iff.mpr ⟨_, (priced bytes).mpr ⟨regular, rfl⟩, charge_ok.mpr ⟨fits, rfl⟩⟩⟩⟩

theorem Walk.constant {depth : Nat} {u : JsonResourceUsage} (bytes : Nat) :
    Walk maxBytes depth u (enter context depth u >>= fun v => charge context maxBytes bytes v)
      1 1 bytes True := by
  have priced : ∀ n, (Except.ok bytes : Except Exn Nat) = .ok n ↔ True ∧ n = bytes := by
    simp [eq_comm]
  exact Walk.scalar priced

/-- A container is entered, is not too large, is charged for its keys and walked one level deeper. -/
theorem Walk.container {depth levels nodes keys bytes count : Nat} {u : JsonResourceUsage}
    {cost : Except Exn Nat} {e : Exn} {content : JsonResourceUsage → Except Exn JsonResourceUsage}
    {regular regular' : Prop} (priced : ∀ n, cost = .ok n ↔ regular ∧ n = keys)
    (later : ∀ v, Walk maxBytes (depth + 1) v (content v) levels nodes bytes regular') :
    Walk maxBytes depth u
      (enter context depth u >>= fun v =>
        if count > MAX_JSON_COLLECTION_ITEMS then .error e
        else cost >>= fun n => charge context maxBytes n v >>= content)
      (levels + 1) (nodes + 1) (keys + bytes)
      (count ≤ MAX_JSON_COLLECTION_ITEMS ∧ regular ∧ regular') := by
  by_cases large : count > MAX_JSON_COLLECTION_ITEMS
  · have refused : ∀ v, (enter context depth u >>= fun v =>
        if count > MAX_JSON_COLLECTION_ITEMS then .error e
        else cost >>= fun n => charge context maxBytes n v >>= content) ≠ .ok v := by
      intro v result
      obtain ⟨w, -, rest⟩ := bind_ok_iff.mp result
      rw [if_pos large] at rest
      cases rest
    exact ⟨fun v result => absurd result (refused v), fun _ _ =>
      ⟨fun ⟨v, result⟩ => absurd result (refused v), fun ⟨_, small, _⟩ => by omega⟩⟩
  · have front : Walk maxBytes depth u (enter context depth u >>= fun v => cost >>= fun n =>
        charge context maxBytes n v) 1 1 keys regular := Walk.scalar priced
    have levels_eq : max 1 (levels + 1) = levels + 1 := by omega
    simp only [if_neg large]
    simpa only [Nat.not_lt.mp large, true_and, Nat.add_comm 1 nodes, levels_eq, bind_assoc] using
      front.next (Nat.le_refl 1) later

mutual
/-- The walk over a value adds its nodes and bytes, and is refused exactly when they or its levels
exceed the limits or some part is oversized. -/
theorem measureNode_walk {depth : Nat} {u : JsonResourceUsage} : ∀ value : Json,
    Walk maxBytes depth u (measureNode context maxBytes depth u value) (jsonDepth value)
      (jsonNodes value) (jsonBytes value) (Regular value)
  | .null => Walk.constant 4
  | .bool b => Walk.constant (if b then 4 else 5)
  | .int n => Walk.constant (integerCharacters n)
  | .float _ => Walk.constant 24
  | .str s => Walk.scalar fun _ => boundedStringBytes_ok
  | .arr items => by
      have walk := fun e => @Walk.container context maxBytes depth (depthOfItems items)
        (nodesOfItems items) 0 (bytesOfItems items) items.length u (.ok 0) e
        (fun v => measureItems context maxBytes (depth + 1) v items) True (RegularItems items)
        (by simp [eq_comm]) fun _ => measureItems_walk items
      simp only [Nat.zero_add, true_and, ok_bind] at walk
      exact walk _
  | .obj fields => Walk.container (fun _ => keyBytes_ok) fun _ => measureMembers_walk fields
theorem measureItems_walk {depth : Nat} {u : JsonResourceUsage} : ∀ items : List Json,
    Walk maxBytes depth u (measureItems context maxBytes depth u items) (depthOfItems items)
      (nodesOfItems items) (bytesOfItems items) (RegularItems items)
  | [] => Walk.done
  | item :: items => Walk.next (measureNode_walk item) (Nat.zero_le _) fun _ => measureItems_walk items
theorem measureMembers_walk {depth : Nat} {u : JsonResourceUsage} : ∀ fields : Fields,
    Walk maxBytes depth u (measureMembers context maxBytes depth u fields) (depthOfMembers fields)
      (nodesOfMembers fields) (bytesOfMembers fields) (RegularMembers fields)
  | [] => Walk.done
  | (_, value) :: fields =>
      Walk.next (measureNode_walk value) (Nat.zero_le _) fun _ => measureMembers_walk fields
end

/-- A measurement accepts a value exactly when its levels, its nodes and its bytes are within the
limits and no part is oversized. -/
theorem measured_iff {value : Json} :
    (∃ usage, measureJsonResources context maxBytes value = .ok usage) ↔
      jsonDepth value ≤ MAX_JSON_DEPTH ∧ jsonNodes value ≤ MAX_JSON_NODES ∧
        jsonBytes value ≤ maxBytes ∧ Regular value := by
  have empty : Bounded maxBytes ⟨0, 0, 0⟩ := ⟨Nat.zero_le _, Nat.zero_le _⟩
  have walk : Walk maxBytes 1 ⟨0, 0, 0⟩ (measureNode context maxBytes 1 ⟨0, 0, 0⟩ value) _ _ _ _ :=
    measureNode_walk value
  refine (walk.2 empty (by decide)).trans ?_
  unfold Room
  simp only [Nat.zero_add, and_assoc]
  have level : 1 + jsonDepth value ≤ MAX_JSON_DEPTH + 1 ↔ jsonDepth value ≤ MAX_JSON_DEPTH := by
    omega
  rw [level]

/-- A small value fits. -/
theorem fits_of_small {value : Json} (depth : jsonDepth value ≤ MAX_JSON_DEPTH)
    (nodes : jsonNodes value ≤ MAX_JSON_COLLECTION_ITEMS) (bytes : jsonBytes value ≤ maxBytes)
    (short : jsonBytes value ≤ MAX_JSON_STRING_CHARACTERS) : fits context maxBytes value = [] := by
  have limits : MAX_JSON_COLLECTION_ITEMS ≤ MAX_JSON_NODES := by decide
  obtain ⟨usage, measured⟩ := measured_iff.mpr
    ⟨depth, nodes.trans limits, bytes, regular_of_small short nodes⟩
  unfold fits
  rw [measured]

end

/-! ## Nesting of a serialized plan -/

theorem depthOfMembers_le {fields : Fields} {n : Nat} :
    depthOfMembers fields ≤ n ↔ ∀ field ∈ fields, jsonDepth field.2 ≤ n := by
  induction fields with
  | nil => simp [depthOfMembers]
  | cons field fields ih => simp [depthOfMembers, ih]

theorem depthOfItems_le {items : List Json} {n : Nat} :
    depthOfItems items ≤ n ↔ ∀ item ∈ items, jsonDepth item ≤ n := by
  induction items with
  | nil => simp [depthOfItems]
  | cons item items ih => simp [depthOfItems, ih]

theorem depth_mkObj_le {fields : Fields} {n : Nat} (h : ∀ field ∈ fields, jsonDepth field.2 ≤ n) :
    jsonDepth (.mkObj fields) ≤ n + 1 :=
  Nat.succ_le_succ (depthOfMembers_le.mpr fun _ member => h _ (Json.mem_mkFields member))

theorem depth_arr_le {R : Type} {toDict : R → Json} {xs : List R} {n : Nat}
    (h : ∀ x ∈ xs, jsonDepth (toDict x) ≤ n) : jsonDepth (.arr (xs.map toDict)) ≤ n + 1 :=
  Nat.succ_le_succ (depthOfItems_le.mpr (by simpa using h))

/-- A member lies one level deeper than its object. -/
theorem depth_member {j value : Json} {key : String} (h : j.get? key = some value) :
    jsonDepth value + 1 ≤ jsonDepth j := by
  cases j with
  | obj fields =>
      obtain ⟨before, after, rfl, -⟩ := List.lookup_eq_some_iff.mp h
      have member : (key, value) ∈ before ++ (key, value) :: after := by simp
      exact Nat.succ_le_succ (depthOfMembers_le.mp (Nat.le_refl _) _ member)
  | _ => cases h

theorem depth_item {items : List Json} {item : Json} (h : item ∈ items) :
    jsonDepth item + 1 ≤ jsonDepth (.arr items) :=
  Nat.succ_le_succ (depthOfItems_le.mp (Nat.le_refl _) _ h)

@[simp]
theorem depth_str {s : String} : jsonDepth (.str s) = 1 := rfl

@[simp]
theorem depth_int {n : Int} : jsonDepth (.int n) = 1 := rfl

@[simp]
theorem depth_bool {b : Bool} : jsonDepth (.bool b) = 1 := rfl

theorem depth_textArray {xs : List String} {n : Nat} (h : 2 ≤ n) :
    jsonDepth (textArray xs) ≤ n :=
  (depth_arr_le fun _ _ => Nat.le_refl 1).trans h

@[simp]
theorem depth_optStr {s : Option String} : jsonDepth (optStr s) = 1 := by cases s <;> rfl

@[simp]
theorem depth_optInt {n : Option Int} : jsonDepth (optInt n) = 1 := by cases n <;> rfl

theorem assessment_depth (x : SystemsAssessment) : jsonDepth x.toDict ≤ 7 := by
  refine depth_mkObj_le ?_
  have complexity : jsonDepth (.arr (x.addedComplexity.map ComplexityItem.toDict)) ≤ 6 :=
    (depth_arr_le fun _ _ => depth_mkObj_le (by simp)).trans (by decide : 1 + 1 + 1 ≤ 6)
  have kernel (k : StrategyKernel) : jsonDepth k.toDict ≤ 6 := by
    have intents : jsonDepth (.arr (k.coherentActions.map StrategyActionIntent.toDict)) ≤ 5 :=
      (depth_arr_le fun _ _ => depth_mkObj_le (by simp)).trans
        (by decide : 1 + 1 + 1 ≤ 5)
    exact depth_mkObj_le (by simp [depth_textArray, intents])
  cases x.strategyKernel <;> simp [depth_textArray, complexity, kernel]

theorem decision_depth (x : SystemsGateDecision) : jsonDepth x.toDict ≤ 7 := by
  refine depth_mkObj_le ?_
  cases x.strategyCoherenceReviewFingerprint <;> simp [depth_textArray]

theorem review_depth (x : StrategyCoherenceReview) : jsonDepth x.toDict ≤ 7 :=
  depth_mkObj_le (by simp [depth_textArray])

theorem identity_depth (x : PlatformObjectIdentity) : jsonDepth x.toDict ≤ 3 := by
  refine depth_mkObj_le ?_
  have posix : jsonDepth (PlatformObjectIdentity.posixPayload x.fields) ≤ 2 :=
    depth_mkObj_le (by simp)
  have windows : jsonDepth (PlatformObjectIdentity.windowsPayload x.fields) ≤ 2 :=
    depth_mkObj_le (by simp)
  split <;> simp [posix, windows]

section
variable [Host]

theorem connector_depth (x : ConnectorExecutionBinding) : jsonDepth x.toDict ≤ 3 := by
  refine depth_mkObj_le ?_
  cases x.fields.credentialIdentity <;> simp [depth_textArray]

theorem path_depth (x : RuntimePathExecutionBinding) : jsonDepth x.toDict ≤ 4 := by
  refine depth_mkObj_le ?_
  cases x.fields.objectIdentity with
  | none => simp
  | some identity => simp [identity_depth identity]

theorem runtime_depth (x : RuntimeExecutionBinding) : jsonDepth x.toDict ≤ 6 := by
  refine depth_mkObj_le ?_
  have configurations : jsonDepth (.arr (x.fields.configurations.map
      ConfigurationExecutionBinding.toDict)) ≤ 5 :=
    (depth_arr_le fun _ _ => depth_mkObj_le (by simp)).trans (by decide : 1 + 1 + 1 ≤ 5)
  have paths (xs : List RuntimePathExecutionBinding) :
      jsonDepth (.arr (xs.map RuntimePathExecutionBinding.toDict)) ≤ 5 :=
    depth_arr_le fun x _ => path_depth x
  cases x.fields.credentialFile <;> simp [configurations, paths]

theorem capsule_depth (x : CapabilityCapsuleExecutionBinding) : jsonDepth x.toDict ≤ 3 := by
  refine depth_mkObj_le ?_
  simp [depth_textArray]

theorem context_depth (x : ExecutionContext) : jsonDepth x.toDict ≤ 7 := by
  refine depth_mkObj_le ?_
  have connectors : jsonDepth (.arr (x.fields.connectors.map ConnectorExecutionBinding.toDict)) ≤ 6 :=
    (depth_arr_le fun x _ => connector_depth x).trans (by decide)
  have plugins : jsonDepth (.arr (x.fields.plugins.map PluginExecutionBinding.toDict)) ≤ 6 :=
    (depth_arr_le fun _ _ => depth_mkObj_le (by simp)).trans (by decide : 1 + 1 + 1 ≤ 6)
  have capsules : jsonDepth (.arr (x.fields.capsules.map
      CapabilityCapsuleExecutionBinding.toDict)) ≤ 6 :=
    (depth_arr_le fun x _ => capsule_depth x).trans (by decide)
  cases x.fields.runtime with
  | none => split <;> simp [optField, connectors, plugins, capsules]
  | some runtime =>
      split <;> simp [optField, connectors, plugins, capsules, runtime_depth runtime]

end

/-! ### Actions -/

/-- Levels of an action's parameters. -/
def parameterDepth (a : AgentAction) : Nat := jsonDepth (.obj a.parameters)

theorem action_depth {a : AgentAction} {n : Nat} (h : parameterDepth a ≤ n) (least : 2 ≤ n) :
    jsonDepth a.toDict ≤ n + 1 := by
  refine depth_mkObj_le ?_
  have target : jsonDepth a.target.toDict ≤ n :=
    (depth_mkObj_le (by simp)).trans (by omega : 1 + 1 ≤ n)
  have scalar : 1 ≤ n := by omega
  unfold parameterDepth at h
  simp [target, h, scalar, depth_textArray least]

theorem parameters_depth (a : AgentAction) : parameterDepth a + 1 ≤ jsonDepth a.toDict := by
  have member : a.toDict.get? "parameters" = some (.obj a.parameters) := by
    simp [AgentAction.toDict, Json.lookup_cons]
  exact depth_member member

/-! ### Plans -/

theorem forall_mem_optField {key : String} {value : Option Json} {P : String × Json → Prop} :
    (∀ field ∈ optField key value, P field) ↔ ∀ v, value = some v → P (key, v) := by
  cases value <;> simp [optField]

section
variable [Host]

/-- A serialized plan nests within the limit exactly when the parameters of its actions, which lie
three levels deep in it, do. -/
theorem toDict_depth (p : ChangePlan) : jsonDepth p.toDict ≤ MAX_JSON_DEPTH ↔
    ∀ a ∈ p.actions, parameterDepth a + 3 ≤ MAX_JSON_DEPTH := by
  constructor
  · intro fits a planned
    have item := depth_item (List.mem_map.mpr ⟨a, planned, rfl⟩ :
      a.toDict ∈ p.actions.map AgentAction.toDict)
    have listed : p.toDict.get? "actions" = some (.arr (p.actions.map AgentAction.toDict)) := by
      simp [ChangePlan.toDict, Json.lookup_cons]
    have := depth_member listed
    have := parameters_depth a
    omega
  · intro shallow
    have actions : jsonDepth (.arr (p.actions.map AgentAction.toDict)) ≤ 31 :=
      depth_arr_le fun a planned => action_depth (n := 29) (by
        have := shallow a planned
        unfold MAX_JSON_DEPTH at this
        omega) (by decide)
    have traces : jsonDepth (.arr (p.strategyTraces.map StrategyActionTrace.toDict)) ≤ 31 :=
      (depth_arr_le fun _ _ => depth_mkObj_le (by simp)).trans (by decide : 1 + 1 + 1 ≤ 31)
    refine depth_mkObj_le (n := 31) ?_
    simp only [List.forall_mem_append, List.forall_mem_cons, forall_mem_optField, depth_str,
      depth_optStr, depth_bool, actions, Option.map_eq_some_iff, Option.bind_eq_some_iff]
    refine ⟨⟨⟨⟨⟨by simp, ?_⟩, ?_⟩, ?_⟩, ?_⟩, ?_⟩
    · rintro _ ⟨context, -, rfl⟩
      exact (context_depth context).trans (by decide)
    · intro value written
      split at written
      · cases written
      · cases written
        exact traces
    · rintro _ ⟨review, -, rfl⟩
      exact (review_depth review).trans (by decide)
    · rintro _ ⟨assessment, -, rfl⟩
      exact (assessment_depth assessment).trans (by decide)
    · rintro _ ⟨_, -, decision, -, rfl⟩
      exact (decision_depth decision).trans (by decide)

/-- What the decoder asks of a plan beyond what its constructor does. -/
structure WithinPlanLimits (p : ChangePlan) : Prop where
  depth : ∀ a ∈ p.actions, parameterDepth a + 3 ≤ MAX_JSON_DEPTH
  nodes : jsonNodes p.toDict ≤ MAX_JSON_NODES
  bytes : jsonBytes p.toDict ≤ MAX_PLAN_BYTES
  regular : Regular p.toDict

theorem fromDict_iff (p : ChangePlan) :
    (∃ q, ChangePlan.fromDict p.toDict = .ok q) ↔ WithinPlanLimits p := by
  have limits : (∃ q, ChangePlan.fromDict p.toDict = .ok q) ↔
      ∃ usage, measureJsonResources "change plan" MAX_PLAN_BYTES p.toDict = .ok usage := by
    unfold ChangePlan.fromDict
    simp only [bind_ok_iff, ChangePlan.decode_toDict, Except.ok.injEq]
    constructor
    · rintro ⟨_, usage, fits, -⟩
      exact ⟨usage, fits⟩
    · rintro ⟨usage, fits⟩
      exact ⟨_, usage, fits, rfl⟩
  rw [limits, measured_iff, toDict_depth]
  constructor
  · rintro ⟨depth, nodes, bytes, regular⟩
    exact ⟨depth, nodes, bytes, regular⟩
  · rintro ⟨depth, nodes, bytes, regular⟩
    exact ⟨depth, nodes, bytes, regular⟩

/-- The snapshot of a small plan is the plan. -/
theorem snapshot_of_small {p : ChangePlan} (depth : ∀ a ∈ p.actions, parameterDepth a + 3 ≤ MAX_JSON_DEPTH)
    (nodes : jsonNodes p.toDict ≤ MAX_JSON_COLLECTION_ITEMS)
    (bytes : jsonBytes p.toDict ≤ MAX_JSON_STRING_CHARACTERS) : p.executionSnapshot = .ok p := by
  have limits : WithinPlanLimits p :=
    ⟨depth, nodes.trans (by decide), bytes.trans (by decide), regular_of_small bytes nodes⟩
  obtain ⟨q, decoded⟩ := (fromDict_iff p).mpr limits
  have taken : ∃ q, p.executionSnapshot = .ok q := by
    unfold ChangePlan.executionSnapshot
    rw [decoded]
    exact ⟨_, rfl⟩
  obtain ⟨q, taken⟩ := taken
  rw [taken, ChangePlan.executionSnapshot_eq taken]

end

/-! ### A plan that cannot be run -/

namespace Limits.Samples

/-- Nested arrays. -/
def nested : Nat → Json
  | 0 => .null
  | n + 1 => .arr [nested n]

local instance : Host := plainHost

/-- Parameters of thirty levels. -/
def deepAction : AgentAction where
  toAgentActionFields := { sampleWrite.toAgentActionFields with
    parameters := [("tree", nested 28)] }
  valid := by decide +kernel

def deepPlan : ChangePlan where
  toChangePlanFields := samplePlan [deepAction]
  valid := by decide +kernel
  trustedStrategyCoherenceAdmission := false

end Limits.Samples

end MasterAgent
