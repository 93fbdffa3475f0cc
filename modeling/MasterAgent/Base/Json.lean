import Mathlib.Tactic.IntervalCases
import MasterAgent.Base.Text

/-!
# JSON values

A JSON document as the value it denotes: object members are kept in key order, because the
order in which a dictionary was filled is not part of its value.

Results:

1. `get?_mkObj`: an object built from distinct members returns each of them;
2. `dumps_inj`: the compact, key-sorted rendering determines the value. The proof shows more,
   that a rendered value is never a proper prefix of another one inside a document
   (`dump_cut`).
-/

namespace Base

/-- The characters numerals are made of. -/
def numeralAlphabet : List Char := "0123456789.e+-".toList

/-- The shape of a finite float's text: numeral characters, with a point or an exponent to tell
it from an integer, and beginning with a digit or a minus sign. -/
def isFloatText (s : String) : Bool :=
  s.toList.all (numeralAlphabet.contains ·) && (s.toList.contains '.' || s.toList.contains 'e') &&
    match s.toList with
    | [] => false
    | c :: _ => c.isDigit || c == '-'

/-- A finite float, identified with its shortest round-trip text. -/
structure FloatText where
  text : String
  shape : isFloatText text = true
deriving DecidableEq

inductive Json where
  | null
  | bool (b : Bool)
  | int (n : Int)
  | float (f : FloatText)
  | str (s : String)
  | arr (items : List Json)
  | obj (fields : List (String × Json))

/-- Members of an object. -/
abbrev Fields := List (String × Json)

namespace Json

/-! ## Equality -/

mutual
def decEq : (a b : Json) → Decidable (a = b)
  | .null, .null => isTrue rfl
  | .bool a, .bool b =>
      if h : a = b then isTrue (h ▸ rfl) else isFalse fun e => h (Json.bool.inj e)
  | .int a, .int b =>
      if h : a = b then isTrue (h ▸ rfl) else isFalse fun e => h (Json.int.inj e)
  | .float a, .float b =>
      if h : a = b then isTrue (h ▸ rfl) else isFalse fun e => h (Json.float.inj e)
  | .str a, .str b =>
      if h : a = b then isTrue (h ▸ rfl) else isFalse fun e => h (Json.str.inj e)
  | .arr a, .arr b =>
      match decEqItems a b with
      | isTrue h => isTrue (h ▸ rfl)
      | isFalse h => isFalse fun e => h (Json.arr.inj e)
  | .obj a, .obj b =>
      match decEqFields a b with
      | isTrue h => isTrue (h ▸ rfl)
      | isFalse h => isFalse fun e => h (Json.obj.inj e)
  | .null, .bool _ | .null, .int _ | .null, .float _ | .null, .str _ | .null, .arr _
  | .null, .obj _ | .bool _, .null | .bool _, .int _ | .bool _, .float _ | .bool _, .str _
  | .bool _, .arr _ | .bool _, .obj _ | .int _, .null | .int _, .bool _ | .int _, .float _
  | .int _, .str _ | .int _, .arr _ | .int _, .obj _ | .float _, .null | .float _, .bool _
  | .float _, .int _ | .float _, .str _ | .float _, .arr _ | .float _, .obj _ | .str _, .null
  | .str _, .bool _ | .str _, .int _ | .str _, .float _ | .str _, .arr _ | .str _, .obj _
  | .arr _, .null | .arr _, .bool _ | .arr _, .int _ | .arr _, .float _ | .arr _, .str _
  | .arr _, .obj _ | .obj _, .null | .obj _, .bool _ | .obj _, .int _ | .obj _, .float _
  | .obj _, .str _ | .obj _, .arr _ => isFalse fun e => by cases e
def decEqItems : (a b : List Json) → Decidable (a = b)
  | [], [] => isTrue rfl
  | [], _ :: _ => isFalse fun e => by cases e
  | _ :: _, [] => isFalse fun e => by cases e
  | x :: xs, y :: ys =>
      match decEq x y, decEqItems xs ys with
      | isTrue h, isTrue h' => isTrue (h ▸ h' ▸ rfl)
      | isFalse h, _ => isFalse fun e => h (List.cons.inj e).1
      | _, isFalse h => isFalse fun e => h (List.cons.inj e).2
def decEqFields : (a b : Fields) → Decidable (a = b)
  | [], [] => isTrue rfl
  | [], _ :: _ => isFalse fun e => by cases e
  | _ :: _, [] => isFalse fun e => by cases e
  | (k, x) :: xs, (l, y) :: ys =>
      if hk : k = l then
        match decEq x y, decEqFields xs ys with
        | isTrue h, isTrue h' => isTrue (hk ▸ h ▸ h' ▸ rfl)
        | isFalse h, _ => isFalse fun e => h (Prod.mk.inj (List.cons.inj e).1).2
        | _, isFalse h => isFalse fun e => h (List.cons.inj e).2
      else isFalse fun e => hk (Prod.mk.inj (List.cons.inj e).1).1
end

instance : DecidableEq Json := decEq
instance : Inhabited Json := ⟨.null⟩

/-! ## Objects -/

/-- Set one member, keeping the members in key order. -/
def setField (key : String) (value : Json) : Fields → Fields
  | [] => [(key, value)]
  | (k, v) :: rest =>
      if key < k then (key, value) :: (k, v) :: rest
      else if key = k then (key, value) :: rest
      else (k, v) :: setField key value rest

/-- The object with the given members, an earlier one taking precedence. -/
def mkFields : Fields → Fields
  | [] => []
  | (k, v) :: rest => setField k v (mkFields rest)

def mkObj (fields : Fields) : Json := .obj (mkFields fields)

/-- The member of an object under a key. -/
def get? (j : Json) (key : String) : Option Json :=
  match j with
  | .obj fields => fields.lookup key
  | _ => none

theorem lookup_cons {key k : String} {v : Json} {rest : Fields} :
    List.lookup key ((k, v) :: rest) = if key = k then some v else rest.lookup key := by
  rw [List.lookup_cons]
  by_cases h : key = k
  · simp [h]
  · simp [h, beq_eq_false_iff_ne.mpr h]

theorem lookup_setField {key key' : String} {value : Json} : ∀ {fields : Fields},
    (setField key value fields).lookup key' =
      if key' = key then some value else fields.lookup key'
  | [] => by simp [setField, lookup_cons]
  | (k, v) :: rest => by
      unfold setField
      split
      · rw [lookup_cons]
      · split
        · next eq =>
            subst eq
            simp only [lookup_cons]
            split <;> rfl
        · next ne =>
            simp only [lookup_cons, lookup_setField]
            by_cases h : key' = k
            · subst h
              simp [Ne.symm ne]
            · simp [h]

/-- Members are found again under their keys. -/
@[simp]
theorem get?_mkObj {key : String} {fields : Fields} :
    (mkObj fields).get? key = fields.lookup key := by
  induction fields with
  | nil => rfl
  | cons field rest ih =>
      obtain ⟨k, v⟩ := field
      simp only [mkObj, get?, mkFields] at ih ⊢
      rw [lookup_setField, ih, lookup_cons]

theorem mem_setField {key : String} {value : Json} {field : String × Json} : ∀ {fields : Fields},
    field ∈ setField key value fields → field = (key, value) ∨ field ∈ fields
  | [], member => .inl (List.mem_singleton.mp member)
  | (k, v) :: rest, member => by
      unfold setField at member
      split at member
      · exact (List.mem_cons.mp member).imp_right fun other => other
      · split at member
        · exact (List.mem_cons.mp member).imp_right (List.mem_cons_of_mem _)
        · rcases List.mem_cons.mp member with rfl | member
          · exact .inr List.mem_cons_self
          · exact (mem_setField member).imp_right (List.mem_cons_of_mem _)

theorem mem_mkFields {field : String × Json} {fields : Fields} (member : field ∈ mkFields fields) :
    field ∈ fields := by
  induction fields with
  | nil => exact member
  | cons first rest ih =>
      rcases mem_setField member with rfl | member
      · exact List.mem_cons_self
      · exact List.mem_cons_of_mem _ (ih member)

/-! ## Rendering -/

def quoteMark : Char := Char.ofNat 34
def backslash : Char := Char.ofNat 92

/-- A lower-case hexadecimal digit. -/
def hexChar (n : Nat) : Char :=
  if n < 10 then Char.ofNat (48 + n) else Char.ofNat (87 + n)

/-- One character of a string literal. Only the quote, the backslash and the C0 controls are
escaped. -/
def escapeChar (c : Char) : List Char :=
  if c = quoteMark then [backslash, quoteMark]
  else if c = backslash then [backslash, backslash]
  else if c.toNat = 8 then [backslash, 'b']
  else if c.toNat = 9 then [backslash, 't']
  else if c.toNat = 10 then [backslash, 'n']
  else if c.toNat = 12 then [backslash, 'f']
  else if c.toNat = 13 then [backslash, 'r']
  else if c.toNat < 32 then
    [backslash, 'u', '0', '0', hexChar (c.toNat / 16), hexChar (c.toNat % 16)]
  else [c]

def escape (cs : List Char) : List Char := cs.flatMap escapeChar

def quoted (s : String) : List Char := quoteMark :: (escape s.toList ++ [quoteMark])

def intChars : Int → List Char
  | .ofNat n => Nat.toDigits 10 n
  | .negSucc n => '-' :: Nat.toDigits 10 (n + 1)

mutual
def dump : Json → List Char
  | .null => ['n', 'u', 'l', 'l']
  | .bool true => ['t', 'r', 'u', 'e']
  | .bool false => ['f', 'a', 'l', 's', 'e']
  | .int n => intChars n
  | .float f => f.text.toList
  | .str s => quoted s
  | .arr items => '[' :: dumpItems [] items
  | .obj fields => '{' :: dumpMembers [] fields
/-- The items up to the closing bracket, `lead` standing before the first of them. -/
def dumpItems (lead : List Char) : List Json → List Char
  | [] => [']']
  | item :: items => lead ++ (dump item ++ dumpItems [','] items)
def dumpMembers (lead : List Char) : Fields → List Char
  | [] => ['}']
  | (key, value) :: fields =>
      lead ++ (quoted key ++ ':' :: (dump value ++ dumpMembers [','] fields))
end

/-- `json.dumps` with sorted keys, compact separators and no ASCII escaping. -/
def dumps (j : Json) : String := String.ofList (dump j)

end Json

/-! ## The rendering determines the value -/

namespace JsonLemmas
open Json

/-- Read one character of a string literal back. -/
def unescapeChar : List Char → Option (Char × List Char)
  | [] => none
  | c :: cs =>
      if c = backslash then
        match cs with
        | 'b' :: rest => some (Char.ofNat 8, rest)
        | 't' :: rest => some (Char.ofNat 9, rest)
        | 'n' :: rest => some (Char.ofNat 10, rest)
        | 'f' :: rest => some (Char.ofNat 12, rest)
        | 'r' :: rest => some (Char.ofNat 13, rest)
        | 'u' :: _ :: _ :: high :: low :: rest =>
            some (Char.ofNat ((high.toNat - 48) * 16 +
              if low.toNat < 58 then low.toNat - 48 else low.toNat - 87), rest)
        | d :: rest => some (d, rest)
        | [] => none
      else some (c, cs)

/-- A control character is told by its number, so the table has to be checked only below 32. -/
theorem unescape_control : ∀ n < 32, ∀ rest,
    unescapeChar (escapeChar (Char.ofNat n) ++ rest) = some (Char.ofNat n, rest) := by
  intro n hn rest
  interval_cases n <;> rfl

theorem unescape_escape (c : Char) (rest : List Char) :
    unescapeChar (escapeChar c ++ rest) = some (c, rest) := by
  rcases Nat.lt_or_ge c.toNat 32 with control | printable
  · have h := unescape_control c.toNat control rest
    rwa [Char.ofNat_toNat] at h
  · unfold escapeChar
    split
    · next h => subst h; rfl
    split
    · next h => subst h; rfl
    iterate 6 rw [if_neg (by omega)]
    next h => simp [unescapeChar, h]

theorem escapeChar_inj {c d : Char} {s t : List Char}
    (h : escapeChar c ++ s = escapeChar d ++ t) : c = d ∧ s = t := by
  have back := unescape_escape c s
  rw [h, unescape_escape d t] at back
  have same := Option.some.inj back
  exact ⟨(congrArg Prod.fst same).symm, (congrArg Prod.snd same).symm⟩

/-- No escaped character begins with the closing quote. -/
theorem escapeChar_head {c : Char} {s t : List Char} (h : quoteMark :: s = escapeChar c ++ t) :
    False := by
  have back := unescape_escape c t
  rw [← h] at back
  have c_eq : c = quoteMark := by
    simpa [unescapeChar, quoteMark, backslash] using (congrArg (Option.map Prod.fst) back).symm
  subst c_eq
  exact absurd (List.cons.inj h).1 (by decide)

theorem escape_cut : ∀ {xs ys s t : List Char},
    escape xs ++ quoteMark :: s = escape ys ++ quoteMark :: t → xs = ys ∧ s = t
  | [], [], s, t, h => by simpa [escape] using h
  | [], y :: ys, s, t, h => by
      simp only [escape, List.flatMap_nil, List.nil_append, List.flatMap_cons,
        List.append_assoc] at h
      exact (escapeChar_head h).elim
  | x :: xs, [], s, t, h => by
      simp only [escape, List.flatMap_nil, List.nil_append, List.flatMap_cons,
        List.append_assoc] at h
      exact (escapeChar_head h.symm).elim
  | x :: xs, y :: ys, s, t, h => by
      simp only [escape, List.flatMap_cons, List.append_assoc] at h
      obtain ⟨rfl, rest⟩ := escapeChar_inj h
      obtain ⟨rfl, ends⟩ := @escape_cut xs ys _ _ rest
      exact ⟨rfl, ends⟩

theorem quoted_cut {a b : String} {s t : List Char} (h : quoted a ++ s = quoted b ++ t) :
    a = b ∧ s = t := by
  simp only [quoted, List.cons_append, List.append_assoc, List.nil_append, List.cons.injEq,
    true_and] at h
  obtain ⟨chars, ends⟩ := escape_cut h
  exact ⟨String.toList_injective chars, ends⟩

/-! ### Numerals -/

/-- `s` does not continue a numeral. -/
def Ends (s : List Char) : Prop := ∀ c, s.head? = some c → c ∉ numeralAlphabet

theorem ends_cons {c : Char} {s : List Char} (h : c ∉ numeralAlphabet) : Ends (c :: s) := by
  intro d hd
  rw [List.head?_cons, Option.some.injEq] at hd
  exact hd ▸ h

theorem numeral_cut : ∀ {xs ys s t : List Char}, (∀ c ∈ xs, c ∈ numeralAlphabet) →
    (∀ c ∈ ys, c ∈ numeralAlphabet) → Ends s → Ends t → xs ++ s = ys ++ t → xs = ys ∧ s = t
  | [], [], _, _, _, _, _, _, h => ⟨rfl, h⟩
  | [], y :: ys, s, t, _, hy, hs, _, h => by
      rw [List.nil_append, List.cons_append] at h
      exact absurd (hy y (by simp)) (hs y (by rw [h, List.head?_cons]))
  | x :: xs, [], s, t, hx, _, _, ht, h => by
      rw [List.nil_append, List.cons_append] at h
      exact absurd (hx x (by simp)) (ht x (by rw [← h, List.head?_cons]))
  | x :: xs, y :: ys, s, t, hx, hy, hs, ht, h => by
      obtain ⟨rfl, rest⟩ := List.cons.inj h
      obtain ⟨rfl, ends⟩ := numeral_cut (fun c hc => hx c (by simp [hc]))
        (fun c hc => hy c (by simp [hc])) hs ht rest
      exact ⟨rfl, ends⟩

theorem toDigits_isDigit {n : Nat} {c : Char} (h : c ∈ Nat.toDigits 10 n) : c.isDigit = true :=
  Nat.isDigit_of_mem_toDigits (by decide) (by decide) h

theorem toDigits_inj {m n : Nat} (h : Nat.toDigits 10 m = Nat.toDigits 10 n) : m = n := by
  have back := Nat.ofDigitChars_ten_toDigits (n := m)
  rwa [h, Nat.ofDigitChars_ten_toDigits, eq_comm] at back

theorem intChars_mem {n : Int} {c : Char} (h : c ∈ intChars n) : c.isDigit = true ∨ c = '-' := by
  cases n with
  | ofNat n => exact .inl (toDigits_isDigit h)
  | negSucc n =>
      rcases List.mem_cons.mp h with rfl | h
      · exact .inr rfl
      · exact .inl (toDigits_isDigit h)

theorem toDigits_no_minus {m : Nat} {cs : List Char} (h : Nat.toDigits 10 m = '-' :: cs) :
    False := by
  have digit : '-'.isDigit = true := toDigits_isDigit (n := m) (h ▸ List.mem_cons_self)
  exact absurd digit (by decide)

theorem intChars_inj {m n : Int} (h : intChars m = intChars n) : m = n := by
  cases m with
  | ofNat m =>
      cases n with
      | ofNat n => exact congrArg Int.ofNat (toDigits_inj h)
      | negSucc n => exact (toDigits_no_minus h).elim
  | negSucc m =>
      cases n with
      | ofNat n => exact (toDigits_no_minus h.symm).elim
      | negSucc n =>
          have same := toDigits_inj (List.cons.inj h).2
          exact congrArg Int.negSucc (by omega)

theorem digit_numeral {c : Char} (h : c.isDigit = true) : c ∈ numeralAlphabet := by
  have bounds : 48 ≤ c.toNat ∧ c.toNat ≤ 57 := by
    simpa [Char.isDigit, UInt32.le_iff_toNat_le] using h
  rw [← Char.ofNat_toNat c]
  generalize c.toNat = n at bounds
  obtain ⟨low, high⟩ := bounds
  interval_cases n <;> decide

theorem intChars_numeral {n : Int} {c : Char} (h : c ∈ intChars n) : c ∈ numeralAlphabet := by
  rcases intChars_mem h with digit | rfl
  · exact digit_numeral digit
  · decide

theorem float_numeral {f : FloatText} {c : Char} (h : c ∈ f.text.toList) :
    c ∈ numeralAlphabet := by
  have shape := f.shape
  simp only [isFloatText, Bool.and_eq_true, List.all_eq_true, List.contains_iff_mem] at shape
  exact shape.1.1 c h

/-- An integer's text has neither a point nor an exponent. -/
theorem int_ne_float {n : Int} {f : FloatText} (h : intChars n = f.text.toList) : False := by
  have shape := f.shape
  simp only [isFloatText, Bool.and_eq_true, Bool.or_eq_true, List.contains_iff_mem] at shape
  rcases shape.1.2 with point | exponent
  · exact absurd (intChars_mem (h ▸ point)) (by decide)
  · exact absurd (intChars_mem (h ▸ exponent)) (by decide)

/-! ### Documents -/

/-- Which kind of value a document's first character announces. -/
def announced (c : Char) : Nat :=
  if c = 'n' then 0 else if c = 't' then 1 else if c = 'f' then 2
  else if c.isDigit || c == '-' then 3 else if c = quoteMark then 4
  else if c = '[' then 5 else if c = '{' then 6 else 7

def kind : Json → Nat
  | .null => 0
  | .bool true => 1
  | .bool false => 2
  | .int _ | .float _ => 3
  | .str _ => 4
  | .arr _ => 5
  | .obj _ => 6

theorem announced_numeral {c : Char} (h : c.isDigit = true ∨ c = '-') : announced c = 3 := by
  rcases h with digit | rfl
  · have bounds : 48 ≤ c.toNat ∧ c.toNat ≤ 57 := by
      simpa [Char.isDigit, UInt32.le_iff_toNat_le] using digit
    rw [← Char.ofNat_toNat c]
    generalize c.toNat = n at bounds
    obtain ⟨low, high⟩ := bounds
    interval_cases n <;> decide
  · decide

theorem intChars_ne_nil {n : Int} : intChars n ≠ [] := by
  cases n with
  | ofNat n => exact Nat.toDigits_ne_nil
  | negSucc n => exact List.cons_ne_nil _ _

theorem dump_head (j : Json) : ∃ c cs, dump j = c :: cs ∧ announced c = kind j := by
  cases j with
  | null => exact ⟨_, _, rfl, by decide⟩
  | bool b => cases b <;> exact ⟨_, _, rfl, by decide⟩
  | int n =>
      obtain ⟨c, cs, hc⟩ := List.exists_cons_of_ne_nil (intChars_ne_nil (n := n))
      exact ⟨c, cs, hc, announced_numeral (intChars_mem (hc ▸ List.mem_cons_self))⟩
  | float f =>
      have shape := f.shape
      unfold isFloatText at shape
      cases hf : f.text.toList with
      | nil => simp [hf] at shape
      | cons c cs =>
          refine ⟨c, cs, by simp only [dump, hf], announced_numeral ?_⟩
          simp only [hf, Bool.and_eq_true, Bool.or_eq_true, beq_iff_eq] at shape
          exact shape.2
  | str s => exact ⟨_, _, rfl, (by decide : announced quoteMark = 4)⟩
  | arr items => exact ⟨_, _, rfl, (by decide : announced '[' = 5)⟩
  | obj fields => exact ⟨_, _, rfl, (by decide : announced '{' = 6)⟩

/-- Documents that agree on a first character are of one kind. -/
theorem kind_eq {a b : Json} {s t : List Char} (h : dump a ++ s = dump b ++ t) :
    kind a = kind b := by
  obtain ⟨c, cs, ha, ka⟩ := dump_head a
  obtain ⟨d, ds, hb, kb⟩ := dump_head b
  rw [ha, hb, List.cons_append, List.cons_append] at h
  rw [← ka, ← kb, (List.cons.inj h).1]

theorem ends_item {items : List Json} {s : List Char} : Ends (dumpItems [','] items ++ s) := by
  cases items with
  | nil => exact ends_cons (by decide)
  | cons item items => exact ends_cons (by decide)

theorem ends_member {fields : Fields} {s : List Char} :
    Ends (dumpMembers [','] fields ++ s) := by
  cases fields with
  | nil => exact ends_cons (by decide)
  | cons field fields => exact ends_cons (by decide)

/-- What may stand before an item: nothing before the first, a comma before the others. -/
def Lead (lead : List Char) : Prop := lead = [] ∨ lead = [',']

/-- A further item never begins where the closing bracket would stand. -/
theorem item_not_close {lead : List Char} {item : Json} {items : List Json} {s t : List Char}
    (hl : Lead lead) (h : ']' :: s = dumpItems lead (item :: items) ++ t) : False := by
  obtain ⟨c, cs, hc, announce⟩ := dump_head item
  rcases hl with rfl | rfl
  · simp only [dumpItems, hc, List.nil_append, List.cons_append] at h
    rw [← (List.cons.inj h).1] at announce
    have seven : announced ']' = 7 := by decide
    rw [seven] at announce
    unfold kind at announce
    split at announce <;> cases announce
  · exact absurd (List.cons.inj h).1 (by decide)

theorem member_not_close {lead : List Char} {field : String × Json} {fields : Fields}
    {s t : List Char} (hl : Lead lead) (h : '}' :: s = dumpMembers lead (field :: fields) ++ t) :
    False := by
  rcases hl with rfl | rfl
  · exact absurd (List.cons.inj h).1 (by decide)
  · exact absurd (List.cons.inj h).1 (by decide)

mutual
/-- A rendered value is not a proper prefix of another one: what follows it is read from the
same place. -/
theorem dump_cut : ∀ (a b : Json) {s t : List Char}, Ends s → Ends t →
    dump a ++ s = dump b ++ t → a = b ∧ s = t := by
  intro a b s t hs ht h
  have same := kind_eq h
  match a, b with
  | .null, .null => exact ⟨rfl, by simpa [dump] using h⟩
  | .bool true, .bool true => exact ⟨rfl, by simpa [dump] using h⟩
  | .bool false, .bool false => exact ⟨rfl, by simpa [dump] using h⟩
  | .int m, .int n =>
      obtain ⟨text, ends⟩ := numeral_cut (fun c hc => intChars_numeral hc)
        (fun c hc => intChars_numeral hc) hs ht h
      exact ⟨congrArg Json.int (intChars_inj text), ends⟩
  | .int m, .float g =>
      obtain ⟨text, _⟩ := numeral_cut (fun c hc => intChars_numeral hc)
        (fun c hc => float_numeral hc) hs ht h
      exact (int_ne_float text).elim
  | .float f, .int n =>
      obtain ⟨text, _⟩ := numeral_cut (fun c hc => float_numeral hc)
        (fun c hc => intChars_numeral hc) hs ht h
      exact (int_ne_float text.symm).elim
  | .float ⟨f, hf⟩, .float ⟨g, hg⟩ =>
      obtain ⟨text, ends⟩ := numeral_cut (fun c hc => float_numeral (f := ⟨f, hf⟩) hc)
        (fun c hc => float_numeral (f := ⟨g, hg⟩) hc) hs ht h
      cases String.toList_injective text
      exact ⟨rfl, ends⟩
  | .str x, .str y =>
      obtain ⟨rfl, ends⟩ := quoted_cut h
      exact ⟨rfl, ends⟩
  | .arr xs, .arr ys =>
      obtain ⟨rfl, ends⟩ := items_cut xs ys (.inl rfl) (List.cons.inj h).2
      exact ⟨rfl, ends⟩
  | .obj xs, .obj ys =>
      obtain ⟨rfl, ends⟩ := members_cut xs ys (.inl rfl) (List.cons.inj h).2
      exact ⟨rfl, ends⟩
theorem items_cut : ∀ (xs ys : List Json) {lead s t : List Char}, Lead lead →
    dumpItems lead xs ++ s = dumpItems lead ys ++ t → xs = ys ∧ s = t := by
  intro xs ys lead s t hl h
  match xs, ys with
  | [], [] => exact ⟨rfl, (List.cons.inj h).2⟩
  | [], y :: ys => exact (item_not_close hl h).elim
  | x :: xs, [] => exact (item_not_close hl h.symm).elim
  | x :: xs, y :: ys =>
      simp only [dumpItems, List.append_assoc] at h
      obtain ⟨rfl, rest⟩ := dump_cut x y ends_item ends_item (List.append_cancel_left h)
      obtain ⟨rfl, ends⟩ := items_cut xs ys (.inr rfl) rest
      exact ⟨rfl, ends⟩
theorem members_cut : ∀ (xs ys : Fields) {lead s t : List Char}, Lead lead →
    dumpMembers lead xs ++ s = dumpMembers lead ys ++ t → xs = ys ∧ s = t := by
  intro xs ys lead s t hl h
  match xs, ys with
  | [], [] => exact ⟨rfl, (List.cons.inj h).2⟩
  | [], y :: ys => exact (member_not_close hl h).elim
  | x :: xs, [] => exact (member_not_close hl h.symm).elim
  | (k, x) :: xs, (l, y) :: ys =>
      simp only [dumpMembers, List.append_assoc, List.cons_append] at h
      obtain ⟨rfl, value⟩ := quoted_cut (List.append_cancel_left h)
      obtain ⟨rfl, rest⟩ := dump_cut x y ends_member ends_member (List.cons.inj value).2
      obtain ⟨rfl, ends⟩ := members_cut xs ys (.inr rfl) rest
      exact ⟨rfl, ends⟩
end

end JsonLemmas

open JsonLemmas in
/-- The compact rendering determines the value. -/
theorem Json.dumps_inj {a b : Json} (h : a.dumps = b.dumps) : a = b := by
  have chars : a.dump = b.dump := by
    simpa [Json.dumps] using congrArg String.toList h
  have ends : Ends [] := by
    intro c hc
    cases hc
  exact (dump_cut a b ends ends (by simp [chars])).1

end Base
