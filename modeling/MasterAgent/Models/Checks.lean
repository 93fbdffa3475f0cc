import Mathlib.Data.List.Dedup
import Mathlib.Data.List.Sort
import Mathlib.Data.String.Basic
import MasterAgent.Host

/-!
# Validation and decoding

The helpers the record types share: the checks their constructors make, as lists of
conditions with the error each one raises, and the readers their `from_dict` methods use.

Results:

1. `build_ok`: a constructor succeeds exactly on values that pass its checks;
2. one simp lemma for each reader, on the text its writer produces.
-/

namespace MasterAgent
open Base

/-! ## Checks -/

/-- What a constructor requires, and the exception it raises otherwise. -/
abbrev Check := Bool × Exn

/-- The first violated requirement. -/
def firstError : List Check → Option Exn
  | [] => none
  | (true, _) :: rest => firstError rest
  | (false, e) :: _ => some e

theorem firstError_none {checks : List Check} :
    firstError checks = none ↔ ∀ c ∈ checks, c.1 = true := by
  induction checks with
  | nil => simp [firstError]
  | cons c checks ih =>
      obtain ⟨holds, e⟩ := c
      cases holds <;> simp [firstError, ih]

/-- Build a checked value. -/
def build {R : Type} (checks : List Check) (mk : firstError checks = none → R) : Except Exn R :=
  match h : firstError checks with
  | none => .ok (mk h)
  | some e => .error e

theorem build_ok {R : Type} {checks : List Check} {mk : firstError checks = none → R}
    (h : firstError checks = none) : build checks mk = .ok (mk h) := by
  unfold build
  split
  · rfl
  · next e raised => rw [h] at raised; cases raised

theorem of_build_ok {R : Type} {checks : List Check} {mk : firstError checks = none → R} {r : R}
    (built : build checks mk = .ok r) : ∃ valid, r = mk valid := by
  unfold build at built
  split at built
  · exact ⟨_, (Except.ok.inj built).symm⟩
  · cases built

@[simp]
theorem ok_bind {R S : Type} {x : R} {f : R → Except Exn S} : (Except.ok x >>= f) = f x := rfl

@[simp]
theorem pure_ok {R : Type} {x : R} : (pure x : Except Exn R) = .ok x := rfl

/-- A successful traversal pairs every element with its image. -/
theorem forall₂_of_mapM {R S : Type} {f : R → Except Exn S} {xs : List R} {ys : List S}
    (h : xs.mapM f = .ok ys) : List.Forall₂ (fun x y => f x = .ok y) xs ys := by
  induction xs generalizing ys with
  | nil =>
      cases h
      exact .nil
  | cons x xs ih =>
      rw [List.mapM_cons] at h
      cases head : f x with
      | error e => rw [head] at h; cases h
      | ok y =>
          cases tail : xs.mapM f with
          | error e => rw [head, tail] at h; cases h
          | ok zs =>
              rw [head, tail] at h
              cases h
              exact .cons head (ih tail)

/-- A traversal succeeds when every element has an image. -/
theorem mapM_ok_of {R S : Type} {f : R → Except Exn S} {P : R → S → Prop} : ∀ {xs : List R},
    (∀ x ∈ xs, ∃ y, f x = .ok y ∧ P x y) → ∃ ys, xs.mapM f = .ok ys ∧ List.Forall₂ P xs ys
  | [], _ => ⟨[], rfl, .nil⟩
  | x :: xs, each => by
      obtain ⟨y, image, holds⟩ := each x List.mem_cons_self
      obtain ⟨ys, images, all⟩ := mapM_ok_of fun z later => each z (List.mem_cons_of_mem x later)
      refine ⟨y :: ys, ?_, .cons holds all⟩
      rw [List.mapM_cons, image, images]
      rfl

/-- A requirement that raises `ValidationError`. -/
def require (holds : Bool) (message : String) : Check := (holds, validationError message)

/-! ## Text -/

/-- `str.isspace` of one character. -/
def isSpace (c : Char) : Bool :=
  let n := c.toNat
  9 ≤ n && n ≤ 13 || 28 ≤ n && n ≤ 32 || n == 0x85 || n == 0xa0 || n == 0x1680 ||
    0x2000 ≤ n && n ≤ 0x200a || n == 0x2028 || n == 0x2029 || n == 0x202f || n == 0x205f ||
    n == 0x3000

/-- `str.strip`. -/
def strip (s : String) : String :=
  String.ofList ((s.toList.dropWhile isSpace).reverse.dropWhile isSpace).reverse

/-- `s.strip()` is empty. -/
def isBlank (s : String) : Bool := s.toList.all isSpace

/-- `unicodedata.category(c) in {"Cc", "Cf"}`. -/
def isControl (c : Char) : Bool :=
  let n := c.toNat
  n ≤ 0x1f || 0x7f ≤ n && n ≤ 0x9f || n == 0xad || 0x600 ≤ n && n ≤ 0x605 || n == 0x61c ||
    n == 0x6dd || n == 0x70f || n == 0x890 || n == 0x891 || n == 0x8e2 || n == 0x180e ||
    0x200b ≤ n && n ≤ 0x200f || 0x202a ≤ n && n ≤ 0x202e || 0x2060 ≤ n && n ≤ 0x2064 ||
    0x2066 ≤ n && n ≤ 0x206f || n == 0xfeff || 0xfff9 ≤ n && n ≤ 0xfffb || n == 0x110bd ||
    n == 0x110cd || 0x13430 ≤ n && n ≤ 0x1343f || 0x1bca0 ≤ n && n ≤ 0x1bca3 ||
    0x1d173 ≤ n && n ≤ 0x1d17a || n == 0xe0001 || 0xe0020 ≤ n && n ≤ 0xe007f

def MAX_JSON_STRING_CHARACTERS : Nat := 1048576

/-- `validate_bounded_string`. Lean's text has no lone surrogates, so it always encodes. -/
def validateBoundedString (value context : String) : Check :=
  require (value.length ≤ MAX_JSON_STRING_CHARACTERS)
    s!"{context} contains a string exceeding the {MAX_JSON_STRING_CHARACTERS}-character limit"

/-- `_reject_control_characters`. -/
def rejectControlCharacters (value name : String) : Check :=
  require (value.toList.all fun c => !isControl c) s!"{name} must not contain control characters"

/-- `_require_systems_text`. -/
def requireSystemsText (value name : String) : List Check :=
  [require (!isBlank value) s!"{name} must not be empty",
    require (value == strip value) s!"{name} must be trimmed",
    validateBoundedString value name,
    rejectControlCharacters value name]

def isLowerHex (c : Char) : Bool := "0123456789abcdef".toList.contains c

/-- 64 lower-case hexadecimal digits. -/
def isSha256 (value : String) : Bool := value.length == 64 && value.toList.all isLowerHex

theorem numeral_hex (n : Nat) : isSha256 (numeral n).val = true := by
  have size : (numeral n).val.length = 64 := by
    rw [← String.length_toList]
    exact (congrArg List.length String.toList_ofList).trans padded_length
  unfold isSha256
  rw [size, beq_self_eq_true, Bool.true_and, List.all_eq_true]
  exact fun c member => List.contains_iff_mem.mpr ((numeral n).2 c member)

/-- `_validate_sha256`. -/
def validateSha256 (value name : String) : Check :=
  require (isSha256 value) s!"{name} must be a lowercase SHA-256 digest"

/-- `[a-z][a-z0-9_]{0,63}`, matched in full. -/
def isIdentifier (s : String) : Bool :=
  match s.toList with
  | [] => false
  | c :: cs => c.isLower && cs.length ≤ 63 && cs.all fun d => d.isLower || d.isDigit || d == '_'

/-- `sorted(items, key=key)`. -/
def sortBy {R : Type} (key : R → String) (items : List R) : List R :=
  items.insertionSort fun a b => key a ≤ key b

/-- `sorted(set(values))`. -/
def sortedSet (values : List String) : List String := sortBy id values.dedup

theorem sortBy_sortBy {R : Type} (key : R → String) (xs : List R) :
    sortBy key (sortBy key xs) = sortBy key xs := by
  have total : Std.Total fun a b : R => key a ≤ key b := ⟨fun _ _ => String.le_total _ _⟩
  have trans : IsTrans R fun a b => key a ≤ key b := ⟨fun _ _ _ => String.le_trans⟩
  exact (List.pairwise_insertionSort _ xs).insertionSort_eq

theorem sortedSet_sortedSet (xs : List String) : sortedSet (sortedSet xs) = sortedSet xs := by
  have nodup : (sortBy id xs.dedup).Nodup :=
    (List.perm_insertionSort _ _).nodup_iff.mpr xs.nodup_dedup
  unfold sortedSet
  rw [nodup.dedup, sortBy_sortBy]

/-- Building the normal form of fields that are in normal form. -/
theorem build_normal {F R : Type} {checks : F → List Check} {normalize : F → F}
    {mk : (x : F) → normalize x = x → firstError (checks x) = none → R}
    (idem : ∀ x, normalize (normalize x) = normalize x) {x : F} (normal : normalize x = x)
    (valid : firstError (checks x) = none) :
    build (checks (normalize x)) (mk (normalize x) (idem x)) = .ok (mk x normal valid) := by
  have general : ∀ (y : F) (hy : normalize y = y), y = x →
      build (checks y) (mk y hy) = .ok (mk x normal valid) := by
    rintro y hy rfl
    exact build_ok valid
  exact general _ _ normal

/-! ## Reading JSON -/

section
variable [Host]

/-- `str(value)`. -/
def pyStr : Json → String
  | .str s => s
  | .null => "None"
  | .bool true => "True"
  | .bool false => "False"
  | .int n => toString n
  | .float f => f.text
  | j => Host.reprText j

@[simp]
theorem pyStr_str {s : String} : pyStr (.str s) = s := rfl

/-- `int(value)`. -/
def pyInt : Json → Except Exn Int
  | .int n => .ok n
  | .bool true => .ok 1
  | .bool false => .ok 0
  | j => Host.intOf j

@[simp]
theorem pyInt_int {n : Int} : pyInt (.int n) = .ok n := rfl

/-- `data[key]`. -/
def item (data : Json) (key : String) : Except Exn Json :=
  match data.get? key with
  | some value => .ok value
  | none => .error (keyError ("'" ++ key ++ "'"))

/-- `str(data[key])`. -/
def itemStr (data : Json) (key : String) : Except Exn String :=
  (item data key).map pyStr

/-- `str(data.get(key, default))`. -/
def getStr (data : Json) (key default : String) : String :=
  (data.get? key).elim default pyStr

/-- `value is None`. -/
def isNull : Json → Bool
  | .null => true
  | _ => false

/-- `data.get(key)` when it is not `None`. -/
def present (data : Json) (key : String) : Option Json :=
  (data.get? key).filter fun value => !isNull value

/-- `str(data[key]) if data.get(key) is not None else None`. -/
def getOptStr (data : Json) (key : String) : Option String :=
  (present data key).map pyStr

end

/-- A member written only when it has a value. -/
def optField (key : String) (value : Option Json) : Fields :=
  match value with
  | none => []
  | some v => [(key, v)]

@[simp]
theorem lookup_optField {key k : String} {value : Option Json} :
    (optField k value).lookup key = if key = k then value else none := by
  cases value with
  | none => simp [optField]
  | some v => simp [optField, Json.lookup_cons]

/-- An optional text as a JSON value. -/
def optStr : Option String → Json
  | none => .null
  | some s => .str s

/-- An optional integer as a JSON value. -/
def optInt : Option Int → Json
  | none => .null
  | some n => .int n

/-- `isinstance(value, Mapping)`. -/
def isObject : Json → Bool
  | .obj _ => true
  | _ => false

/-- `_expect_mapping`. -/
def expectMapping (data : Json) (key : String) : Except Exn Json :=
  match data.get? key with
  | some value =>
      if isObject value then .ok value
      else .error (validationError s!"{key} must be an object")
  | none => .error (validationError s!"{key} must be an object")

/-- `_strict_bool`. -/
def strictBool (value : Option Json) (name : String) : Except Exn Bool :=
  match value with
  | some (.bool b) => .ok b
  | _ => .error (validationError s!"{name} must be a boolean")

/-- `_strict_int`. -/
def strictInt (value : Option Json) (name : String) : Except Exn Int :=
  match value with
  | some (.int n) => .ok n
  | _ => .error (validationError s!"{name} must be an integer")

/-- The texts of a list of strings. -/
def asStrings : List Json → Option (List String)
  | [] => some []
  | .str s :: rest => (asStrings rest).map (s :: ·)
  | _ :: _ => none

@[simp]
theorem asStrings_map {xs : List String} : asStrings (xs.map .str) = some xs := by
  induction xs with
  | nil => rfl
  | cons x xs ih => simp [asStrings, ih]

/-- A value that must be a list of strings. -/
def stringList (value : Option Json) (e : Exn) : Except Exn (List String) :=
  match value with
  | some (.arr items) =>
      match asStrings items with
      | some xs => .ok xs
      | none => .error e
  | _ => .error e

@[simp]
theorem stringList_map {xs : List String} {e : Exn} :
    stringList (some (.arr (xs.map .str))) e = .ok xs := by
  simp [stringList]

/-- A value that must be a list of objects. -/
def objectList (value : Option Json) (e : Exn) : Except Exn (List Json) :=
  match value with
  | some (.arr items) => if items.all isObject then .ok items else .error e
  | _ => .error e

theorem objectList_map {R : Type} {toDict : R → Json} {xs : List R} {e : Exn}
    (h : ∀ x, isObject (toDict x) = true) :
    objectList (some (.arr (xs.map toDict))) e = .ok (xs.map toDict) := by
  simp [objectList, h]

/-- `set(data) == names`. -/
def hasKeys (data : Json) (names : List String) : Bool :=
  match data with
  | .obj fields =>
      (fields.map Prod.fst).all (names.contains ·) && names.all ((fields.map Prod.fst).contains ·)
  | _ => false

theorem mem_keys_setField {key k : String} {value : Json} {fields : Fields} :
    k ∈ (Json.setField key value fields).map Prod.fst ↔ k = key ∨ k ∈ fields.map Prod.fst := by
  induction fields with
  | nil => simp [Json.setField]
  | cons field rest ih =>
      obtain ⟨l, v⟩ := field
      unfold Json.setField
      split
      · simp
      · split
        · next eq => subst eq; simp
        · rw [List.map_cons, List.mem_cons, ih, List.map_cons, List.mem_cons]
          tauto

theorem mem_keys_mkFields {k : String} {fields : Fields} :
    k ∈ (Json.mkFields fields).map Prod.fst ↔ k ∈ fields.map Prod.fst := by
  induction fields with
  | nil => rfl
  | cons field rest ih =>
      obtain ⟨l, v⟩ := field
      rw [Json.mkFields, mem_keys_setField, ih, List.map_cons, List.mem_cons]

/-- An object has exactly the keys it was built with. -/
theorem hasKeys_mkObj {fields : Fields} {names : List String}
    (h : ∀ k, k ∈ fields.map Prod.fst ↔ k ∈ names) : hasKeys (.mkObj fields) names = true := by
  simp only [hasKeys, Json.mkObj, Bool.and_eq_true, List.all_eq_true, List.contains_iff_mem]
  exact ⟨fun k hk => (h k).mp (mem_keys_mkFields.mp hk),
    fun k hk => mem_keys_mkFields.mpr ((h k).mpr hk)⟩

/-- Decoding what was encoded, item by item. -/
theorem mapM_decode {R : Type} {toDict : R → Json} {fromDict : Json → Except Exn R}
    (h : ∀ x, fromDict (toDict x) = .ok x) (xs : List R) :
    (xs.map toDict).mapM fromDict = .ok xs := by
  induction xs with
  | nil => rfl
  | cons x xs ih =>
      rw [List.map_cons, List.mapM_cons, h, ih]
      rfl

@[simp]
theorem isObject_mkObj {fields : Fields} : isObject (.mkObj fields) = true := rfl

@[simp]
theorem isObject_obj {fields : Fields} : isObject (.obj fields) = true := rfl

theorem object_not_null {j : Json} (h : isObject j = true) : isNull j = false := by
  cases j <;> first | rfl | cases h

/-- An optional text is read back. -/
@[simp]
theorem map_optStr [Host] {s : Option String} :
    ((some (optStr s)).filter fun value => !isNull value).map pyStr = s := by
  cases s <;> rfl

@[simp]
theorem map_str [Host] {s : String} :
    ((some (Json.str s)).filter fun value => !isNull value).map pyStr = some s := rfl

end MasterAgent
