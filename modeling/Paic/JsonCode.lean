import Paic.Lib.Lines
import Paic.Platform
import Paic.Tools.AuditText
import Mathlib

/-!
# A writing of JSON

Values written as the decimal number of a tree, with the keys of objects in
order. It reads back, and it is one line: what is assumed of `json.dumps` and
`json.loads` can be met.
-/

namespace Paic.JsonCode

inductive Tree where
  | nil
  | node (label : Nat) (left right : Tree)
  deriving Encodable

def leaf (label : Nat) : Tree := .node label .nil .nil

def codeText (s : String) : Nat := Encodable.encode (s.toList.map Char.toNat)

def readText (n : Nat) : Option String :=
  (Encodable.decode n : Option (List Nat)).map fun cs => String.ofList (cs.map Char.ofNat)

mutual
def ofJson : Json → Tree
  | .null => leaf 0
  | .bool b => leaf (if b then 1 else 2)
  | .int n => .node 3 (leaf (Encodable.encode n)) .nil
  | .float q => .node 4 (leaf (Encodable.encode q)) .nil
  | .str s => .node 5 (leaf (codeText s)) .nil
  | .arr items => .node 6 (ofItems items) .nil
  | .obj fields => .node 7 (ofFields fields) .nil

def ofItems : List Json → Tree
  | [] => .nil
  | j :: rest => .node 0 (ofJson j) (ofItems rest)

def ofFields : List (String × Json) → Tree
  | [] => .nil
  | (key, j) :: rest => .node (codeText key) (ofJson j) (ofFields rest)
end

mutual
def toJson : Tree → Option Json
  | .node 0 _ _ => some .null
  | .node 1 _ _ => some (.bool true)
  | .node 2 _ _ => some (.bool false)
  | .node 3 (.node n _ _) _ => (Encodable.decode n).map .int
  | .node 4 (.node n _ _) _ => (Encodable.decode n).map .float
  | .node 5 (.node n _ _) _ => (readText n).map .str
  | .node 6 items _ => (toItems items).map .arr
  | .node 7 fields _ => (toFields fields).map .obj
  | _ => none

def toItems : Tree → Option (List Json)
  | .nil => some []
  | .node _ j rest => do return (← toJson j) :: (← toItems rest)

def toFields : Tree → Option (List (String × Json))
  | .nil => some []
  | .node key j rest => do return (← readText key, ← toJson j) :: (← toFields rest)
end

theorem readText_code (s : String) : readText (codeText s) = some s := by
  simp [readText, codeText, Function.comp_def]

mutual
theorem toJson_ofJson : ∀ j : Json, toJson (ofJson j) = some j
  | .null => rfl
  | .bool true | .bool false => rfl
  | .int n => congrArg (Option.map Json.int) (Encodable.encodek n)
  | .float q => congrArg (Option.map Json.float) (Encodable.encodek q)
  | .str s => by simp [ofJson, leaf, toJson, readText_code]
  | .arr items => by simp [ofJson, toJson, toItems_ofItems items]
  | .obj fields => by simp [ofJson, toJson, toFields_ofFields fields]

theorem toItems_ofItems : ∀ items : List Json, toItems (ofItems items) = some items
  | [] => rfl
  | j :: rest => by simp [ofItems, toItems, toJson_ofJson j, toItems_ofItems rest]

theorem toFields_ofFields : ∀ fields : List (String × Json),
    toFields (ofFields fields) = some fields
  | [] => rfl
  | (key, j) :: rest => by
    simp [ofFields, toFields, readText_code, toJson_ofJson j, toFields_ofFields rest]
end

-- ---------------------------------------------------------------------------
-- Numerals
-- ---------------------------------------------------------------------------

def numeral (n : Nat) : String := String.ofList (Nat.toDigits 10 n)

theorem numeral_digits : ∀ c ∈ (numeral n).toList, c.isDigit = true := by
  rw [numeral, String.toList_ofList]
  exact fun c hc => Nat.isDigit_of_mem_toDigits (by decide) (by decide) hc

theorem readDecimal_numeral : readDecimal (numeral n).toList = some n := by
  rw [readDecimal_digits numeral_digits]
  simp [numeral]

theorem numeral_line : Lines.OneLine (numeral n).toList := by
  refine ⟨?_, fun c hc => ?_⟩
  · rw [numeral, String.toList_ofList]
    exact Nat.toDigits_ne_nil
  · have hdigit := numeral_digits c hc
    simp only [Char.isDigit, Bool.and_eq_true, decide_eq_true_eq] at hdigit
    have hout : ∀ n ∈ ([0x0A, 0x0B, 0x0C, 0x0D, 0x1C, 0x1D, 0x1E, 0x85, 0x2028, 0x2029] :
        List UInt32), ¬ (n ≥ '0'.val ∧ n ≤ '9'.val) := by
      intro n hn
      simp only [List.mem_cons, List.not_mem_nil, or_false] at hn
      rcases hn with rfl | rfl | rfl | rfl | rfl | rfl | rfl | rfl | rfl | rfl <;> decide
    exact decide_eq_false fun hmem => hout c.val hmem hdigit

-- ---------------------------------------------------------------------------
-- Values in order
-- ---------------------------------------------------------------------------

theorem mem_sortedFields_cons {key : String} {j : Json} {rest : List (String × Json)} :
    field ∈ Json.sortedFields ((key, j) :: rest) ↔
      field = (key, j.sorted) ∨ field ∈ Json.sortedFields rest := by
  rw [Json.sortedFields, List.mem_orderedInsert]

mutual
theorem sorted_sorted : ∀ j : Json, j.sorted.sorted = j.sorted
  | .null | .bool _ | .int _ | .float _ | .str _ => rfl
  | .arr items => congrArg Json.arr (sortedItems_sorted items)
  | .obj fields => by
    refine congrArg Json.obj ?_
    rw [Json.sortedFields_eq (Json.sortedFields fields)]
    have hvalues : (Json.sortedFields fields).map (fun field => (field.1, field.2.sorted)) =
        Json.sortedFields fields := by
      refine (List.map_congr_left fun field hf => ?_).trans (List.map_id _)
      exact Prod.ext rfl (sortedFields_values fields field hf)
    rw [hvalues, (Json.sortedFields_pairwise fields).insertionSort_eq]

theorem sortedItems_sorted : ∀ items : List Json,
    Json.sortedItems (Json.sortedItems items) = Json.sortedItems items
  | [] => rfl
  | j :: rest => by
    rw [Json.sortedItems, Json.sortedItems, sorted_sorted j, sortedItems_sorted rest]

theorem sortedFields_values : ∀ fields : List (String × Json),
    ∀ field ∈ Json.sortedFields fields, field.2.sorted = field.2
  | [], _, h => absurd h List.not_mem_nil
  | (key, j) :: rest, field, h => by
    rcases mem_sortedFields_cons.mp h with rfl | h
    · exact sorted_sorted j
    · exact sortedFields_values rest field h
end

mutual
theorem unique_sorted : ∀ j : Json, j.unique = true → j.sorted.unique = true
  | .null, _ | .bool _, _ | .int _, _ | .float _, _ | .str _, _ => rfl
  | .arr items, h => uniqueItems_sorted items h
  | .obj fields, h => by
    rw [Json.sorted, Json.unique, Bool.and_eq_true, decide_eq_true_eq]
    refine ⟨(Json.sortedFields_keys fields).nodup_iff.mpr (Json.keys_unique h),
      Json.uniqueFields_iff.mpr ?_⟩
    exact uniqueFields_sorted fields (Json.fields_unique h)

theorem uniqueItems_sorted : ∀ items : List Json, Json.uniqueItems items = true →
    Json.uniqueItems (Json.sortedItems items) = true
  | [], _ => rfl
  | j :: rest, h => by
    simp only [Json.uniqueItems, Bool.and_eq_true] at h
    rw [Json.sortedItems, Json.uniqueItems, unique_sorted j h.1, uniqueItems_sorted rest h.2]
    rfl

theorem uniqueFields_sorted : ∀ fields : List (String × Json), Json.uniqueFields fields = true →
    ∀ field ∈ Json.sortedFields fields, field.2.unique = true
  | [], _, _, hf => absurd hf List.not_mem_nil
  | (key, j) :: rest, h, field, hf => by
    simp only [Json.uniqueFields, Bool.and_eq_true] at h
    rcases mem_sortedFields_cons.mp hf with rfl | hf
    · exact unique_sorted j h.1
    · exact uniqueFields_sorted rest h.2 field hf
end

-- ---------------------------------------------------------------------------
-- The parameters
-- ---------------------------------------------------------------------------

def writes (j : Json) : String := numeral (Encodable.encode (ofJson j))

def reads (text : String) : Option Json :=
  (readDecimal text.toList).bind fun n => (Encodable.decode n).bind toJson

theorem reads_writes (j : Json) : reads (writes j) = some j := by
  simp [reads, writes, readDecimal_numeral, toJson_ofJson]

theorem mixText_isSha256 (s : String) :
    isSha256 (Platform.hexText (Platform.mixText 13 s)) = true :=
  Platform.hexText_isSha256 _

theorem keyedText_isSha256 (key message : String) :
    isSha256 (Platform.hexText (Platform.mixText (Platform.mixText 14 key) message)) = true :=
  Platform.hexText_isSha256 _

@[reducible] def hashing : Hashing where
  canonical j := writes j.sorted
  isoformat t := numeral (Encodable.encode (t.instant, t.utcoffset))
  strDatetime t := numeral (Encodable.encode (t.instant, t.utcoffset))
  sha256 s := Platform.hexText (Platform.mixText 13 s)
  hmac key message := Platform.hexText (Platform.mixText (Platform.mixText 14 key) message)
  sha256_hex := mixText_isSha256
  hmac_hex := keyedText_isSha256

@[reducible] def jsonText : Tools.JsonText where
  loads text := Checks.need ((reads text).filter Json.unique) .decodeError
  repr := writes

attribute [local instance] hashing jsonText

theorem jsonLaws : Tools.JsonLaws where
  loads_unique h := (Option.filter_eq_some_iff.mp (Checks.need_ok.mp h)).2
  loads_canonical {j} h := Checks.need_ok.mpr <| Option.filter_eq_some_iff.mpr
    ⟨reads_writes _, unique_sorted j h⟩
  canonical_sorted j := congrArg writes (sorted_sorted j)
  canonical_line _ := numeral_line

-- ---------------------------------------------------------------------------
-- ASCII text
-- ---------------------------------------------------------------------------

@[reducible] def asciiText : Tools.UnicodeText where
  lower s := s.map Char.toLower
  isDecimal := Char.isDigit
  isSpace c := c.isWhitespace || c ∈ ['\x0b', '\x0c', '\x1c', '\x1d', '\x1e', '\x1f']
  isDecimal_ascii _ _ := rfl

attribute [local instance] asciiText

theorem asciiLaws : Tools.UnicodeLaws where
  lower_ascii s _ := by
    change (s.map Char.toLower).toList = _
    simp
  isSpace_ascii _ _ := rfl

end Paic.JsonCode
