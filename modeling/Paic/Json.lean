import Paic.Patterns
import Mathlib

/-!
# JSON values, hashes and file contents

The programs hash the JSON form of a model, write it to files and read it
back. JSON values are data here; serialisation, hashing and parsing come
from Python's library and from pydantic, and are parameters: `Hashing` for
`json.dumps`, `hashlib` and `hmac`, `FileText` for the bytes of a file, and
`TextCodec` for one model class's reader and writer. Their laws say no more
than that a hash is a hash and that what was written reads back.
-/

namespace Paic

/-- A JSON value. A number written as a float is not the integer it equals. -/
inductive Json where
  | null
  | bool (b : Bool)
  | int (n : Int)
  | float (q : Rat)
  | str (s : String)
  | arr (items : List Json)
  | obj (fields : List (String × Json))
  deriving Repr

mutual
protected def Json.decEq : (a b : Json) → Decidable (a = b)
  | .null, .null => isTrue rfl
  | .bool a, .bool b => decidable_of_iff (a = b) (by simp)
  | .int a, .int b => decidable_of_iff (a = b) (by simp)
  | .float a, .float b => decidable_of_iff (a = b) (by simp)
  | .str a, .str b => decidable_of_iff (a = b) (by simp)
  | .arr a, .arr b => have := Json.decEqItems a b; decidable_of_iff (a = b) (by simp)
  | .obj a, .obj b => have := Json.decEqFields a b; decidable_of_iff (a = b) (by simp)
  | .null, .bool _ | .null, .int _ | .null, .float _ | .null, .str _ | .null, .arr _
  | .null, .obj _ | .bool _, .null | .bool _, .int _ | .bool _, .float _ | .bool _, .str _
  | .bool _, .arr _ | .bool _, .obj _ | .int _, .null | .int _, .bool _ | .int _, .float _
  | .int _, .str _ | .int _, .arr _ | .int _, .obj _ | .float _, .null | .float _, .bool _
  | .float _, .int _ | .float _, .str _ | .float _, .arr _ | .float _, .obj _ | .str _, .null
  | .str _, .bool _ | .str _, .int _ | .str _, .float _ | .str _, .arr _ | .str _, .obj _
  | .arr _, .null | .arr _, .bool _ | .arr _, .int _ | .arr _, .float _ | .arr _, .str _
  | .arr _, .obj _ | .obj _, .null | .obj _, .bool _ | .obj _, .int _ | .obj _, .float _
  | .obj _, .str _ | .obj _, .arr _ => isFalse nofun

protected def Json.decEqItems : (a b : List Json) → Decidable (a = b)
  | [], [] => isTrue rfl
  | x :: xs, y :: ys =>
    have := Json.decEq x y
    have := Json.decEqItems xs ys
    decidable_of_iff (x = y ∧ xs = ys) (by simp)
  | [], _ :: _ | _ :: _, [] => isFalse nofun

protected def Json.decEqFields : (a b : List (String × Json)) → Decidable (a = b)
  | [], [] => isTrue rfl
  | (k, x) :: xs, (l, y) :: ys =>
    have := Json.decEq x y
    have := Json.decEqFields xs ys
    decidable_of_iff (k = l ∧ x = y ∧ xs = ys) (by simp [and_assoc])
  | [], _ :: _ | _ :: _, [] => isFalse nofun
end

instance : DecidableEq Json := Json.decEq

def Json.strs (l : List String) : Json := .arr (l.map .str)

def Json.opt (f : α → Json) : Option α → Json
  | none => .null
  | some a => f a

def Json.isAtom : Json → Bool
  | .arr _ | .obj _ => false
  | _ => true

/-- An object of atoms with its keys in order, as `sort_keys` writes it. -/
def Json.IsRecord : Json → Prop
  | .obj fields => (fields.map Prod.fst).Pairwise (· < ·) ∧ ∀ f ∈ fields, f.2.isAtom = true
  | _ => False

/-- The value of a key of an object. -/
def Json.get? : Json → String → Option Json
  | .obj fields, key => (fields.find? (·.1 == key)).map Prod.snd
  | _, _ => none

/-- A moment. `utcoffset` is `none` for a datetime without a timezone;
aware datetimes compare by the instant alone. -/
structure Datetime where
  instant : Int
  utcoffset : Option Int
  deriving DecidableEq, Repr

def Datetime.Aware (t : Datetime) : Prop := t.utcoffset.isSome = true

instance (t : Datetime) : Decidable t.Aware := by unfold Datetime.Aware; infer_instance

/-- Addition of a `timedelta(minutes=n)`. -/
def Datetime.addMinutes (t : Datetime) (n : Nat) : Datetime :=
  { t with instant := t.instant + n * 60000000 }

/-- `json.dumps`, `hashlib.sha256` and `hmac` as the code uses them: hashes
and signatures are the lowercase hex digests of UTF-8 text. A datetime has
two texts, pydantic's JSON form and `str`. -/
class Hashing where
  canonical : Json → String
  isoformat : Datetime → String
  strDatetime : Datetime → String
  sha256 : String → String
  hmac : String → String → String
  sha256_hex : ∀ s, isSha256 (sha256 s) = true
  hmac_hex : ∀ key message, isSha256 (hmac key message) = true

export Hashing (canonical isoformat strDatetime sha256 hmac)

/-- `hashlib.sha256(canonical(value).encode()).hexdigest()` -/
def digest [Hashing] (value : Json) : String := sha256 (canonical value)

theorem digest_hex [Hashing] (value : Json) : isSha256 (digest value) = true :=
  Hashing.sha256_hex _

def Json.datetime [Hashing] (t : Datetime) : Json := .str (isoformat t)

/-- A model class, with what its validators accept. -/
class Model (α : Type) where
  Valid : α → Prop
  decValid : DecidablePred Valid

instance [Model α] (a : α) : Decidable (Model.Valid a) := Model.decValid a

/-- What a file holds. `json` writes an object the way `canonical(value) + "\n"`
does, `line` a string with a newline; `strip` reads the latter back. -/
class FileText (T : Type) where
  decEq : DecidableEq T
  empty : T
  size : T → Nat
  sha256 : T → String
  json : Json → T
  loads : T → Option Json
  line : String → T
  strip : T → String
  sha256_hex : ∀ t, isSha256 (sha256 t) = true
  loads_json : ∀ j, j.IsRecord → loads (json j) = some j
  strip_line : ∀ s, isSha256 s = true → strip (line s) = s

instance [FileText T] : DecidableEq T := FileText.decEq

/-- One model class's `model_dump_json` and `model_validate_json`. Reading
returns only what the validators accept, and from a dump nothing else than
what was dumped. -/
class TextCodec (T α : Type) [Model α] where
  dump : α → T
  load : T → Option α
  load_valid : load t = some a → Model.Valid a
  load_dump : Model.Valid a → load (dump a) = some a
  eq_of_load_dump : load (dump a) = some b → b = a

end Paic
