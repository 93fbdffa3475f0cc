import MasterAgent.Base.Uuid
import MasterAgent.Base.Datetime
import MasterAgent.Errors

/-!
# The host runtime

What the program takes from the Python standard library without computing it itself. The
functions are parameters of the model: a statement about the program holds for every choice
of them that has the properties it names.
-/

namespace MasterAgent
open Base

/-- The parts of `urllib.parse.urlsplit`'s result the program reads. -/
structure SplitUrl where
  scheme : String
  hostname : Option String
  username : Option String
  password : Option String
  path : String
  query : String
  fragment : String

/-- A text of hexadecimal digits. -/
abbrev HexText := { s : String // ∀ c ∈ s.toList, c ∈ "0123456789abcdef".toList }

class Host where
  /-- `hashlib.sha256(text.encode("utf-8")).hexdigest()`. -/
  sha256 : String → String
  /-- `hmac.new(secret, text.encode("utf-8"), hashlib.sha256).hexdigest()`. -/
  hmacSha256 : List UInt8 → String → HexText
  /-- `unicodedata.normalize("NFC", text)`. -/
  nfc : String → String
  /-- `unicodedata.normalize("NFKC", text)`. -/
  nfkc : String → String
  /-- The full case folding of one character. -/
  foldChar : Char → List Char
  /-- `str(value)` of a container, its `repr`. -/
  reprText : Json → String
  /-- `int(value)` of a value that is neither an integer nor a boolean. -/
  intOf : Json → Except Exn Int
  /-- `urlsplit(text)`. -/
  urlsplit : String → Except Exn SplitUrl
  /-- `Path(text).is_absolute()`. -/
  isAbsolute : String → Bool
  /-- `str(Path(text).parent)`. -/
  parent : String → String

/-- `str.casefold`: folding is character by character. -/
def casefold [Host] (s : String) : String := String.ofList (s.toList.flatMap Host.foldChar)

/-- SHA-256 as an ideal commitment: no two texts share a digest, and a digest contains no
column separator. -/
structure CollisionFree [Host] : Prop where
  inj : ∀ s t : String, Host.sha256 s = Host.sha256 t → s = t
  free : ∀ s : String, Free '|' (Host.sha256 s)

/-! ## A host for examples

Its digest spells the text out in seven decimal digits a character. It is collision free, and
small inputs can be evaluated with it. -/

def spell (cs : List Char) : List Char := cs.flatMap fun c => padded 7 c.toNat

/-- The numeral of 64 digits. -/
def numeral (n : Nat) : HexText :=
  ⟨String.ofList (padded 64 n), fun c h => by
    have digits : "0123456789".toList ⊆ "0123456789abcdef".toList := by decide
    rw [String.toList_ofList] at h
    exact digits (padded_digits h)⟩

/-- A host whose digests are `digest` of the hashed text and whose text functions leave ASCII
as it is. A message is authenticated by the sum of the secret's bytes. -/
@[reducible]
def asciiHost (digest : String → String) : Host where
  sha256 := digest
  hmacSha256 secret _ := numeral (secret.map UInt8.toNat).sum
  nfc s := s
  nfkc s := s
  foldChar c := [c.toLower]
  reprText _ := ""
  intOf _ := .error (typeError "int() argument must be a string or a number")
  urlsplit s := .ok ⟨"", none, none, none, s, "", ""⟩
  isAbsolute s := s.toList.head? == some '/'
  parent s := String.ofList (s.toList.reverse.dropWhile (· != '/')).tail.reverse

@[reducible]
def spellingHost : Host := asciiHost fun s => String.ofList (spell s.toList)

/-- A host with a single digest, of the length real digests have. -/
@[reducible]
def plainHost : Host := asciiHost fun _ => (numeral 0).val

theorem spell_inj : ∀ {xs ys : List Char}, spell xs = spell ys → xs = ys
  | [], [], _ => rfl
  | [], y :: ys, h => by simpa [spell, padded] using congrArg List.length h
  | x :: xs, [], h => by simpa [spell, padded] using congrArg List.length h
  | x :: xs, y :: ys, h => by
      have small (c : Char) : c.toNat < 10 ^ 7 := by
        have := c.valid
        unfold UInt32.isValidChar Nat.isValidChar at this
        have : c.toNat = c.val.toNat := rfl
        omega
      have read := congrArg (readPadded 7) h
      simp only [spell, List.flatMap_cons, readPadded_padded (small x),
        readPadded_padded (small y), Option.some.injEq, Prod.mk.injEq] at read
      rw [Char.toNat_inj.mp read.1, spell_inj read.2]

theorem spellingHost_collisionFree : @CollisionFree spellingHost := by
  let := spellingHost
  refine ⟨fun s t same => ?_, fun s bar => ?_⟩
  · have spelled : String.ofList (spell s.toList) = String.ofList (spell t.toList) := same
    exact String.toList_injective (spell_inj (String.ofList_injective spelled))
  · have spelled : '|' ∈ (String.ofList (spell s.toList)).toList := bar
    simp only [String.toList_ofList, spell, List.mem_flatMap] at spelled
    obtain ⟨c, _, digit⟩ := spelled
    exact absurd (padded_digits digit) (by decide)

end MasterAgent
