import Paic.Json

/-!
# A platform that computes

An instance of the platform parameters on which the models can be run: JSON
values hash by their structure, texts by their characters. It shows that the
laws the parameters come with can be met, and evaluates examples.
-/

namespace Paic.Platform

/-- One step of a polynomial hash. -/
def mix (h n : Nat) : Nat := (h * 1000003 + n + 1) % 2 ^ 256

/-- The hash of a text's UTF-8 bytes. -/
def mixText (h : Nat) (s : String) : Nat :=
  s.toByteArray.data.toList.foldl (fun h b => mix h b.toNat) h

mutual
/-- A number for a JSON value, with a tag for each constructor. -/
def fingerprint : Json → Nat
  | .null => 1
  | .bool b => if b then 2 else 3
  | .int n => mix (mix 4 n.natAbs) (if n < 0 then 1 else 0)
  | .float q => mix (mix (mix 5 q.num.natAbs) (if q.num < 0 then 1 else 0)) q.den
  | .str s => mixText 6 s
  | .arr items => mix 7 (fingerprintItems items)
  | .obj fields => mix 8 (fingerprintFields fields)

def fingerprintItems : List Json → Nat
  | [] => 9
  | j :: rest => mix (mix 10 (fingerprint j)) (fingerprintItems rest)

def fingerprintFields : List (String × Json) → Nat
  | [] => 11
  | (k, j) :: rest => mix (mix (mixText 12 k) (fingerprint j)) (fingerprintFields rest)
end

def hexDigit (n : Nat) : Char :=
  if n < 10 then Char.ofNat (48 + n) else Char.ofNat (87 + n)

/-- Sixty-four hex digits, the lowest first. -/
def hexText (n : Nat) : String :=
  String.ofList ((List.range 64).map fun i => hexDigit (n / 16 ^ i % 16))

theorem hexDigit_isHex (h : n < 16) : isHex (hexDigit n) = true := by
  have key : ∀ n < 16, isHex (hexDigit n) = true := by decide
  exact key n h

theorem hexText_isSha256 (n : Nat) : isSha256 (hexText n) = true := by
  simp only [isSha256, hexText, String.toList_ofList, List.length_map, List.length_range,
    Bool.and_eq_true, beq_iff_eq, true_and, List.all_eq_true, List.mem_map]
  rintro c ⟨i, -, rfl⟩
  exact hexDigit_isHex (Nat.mod_lt _ (by decide))

def datetimeText (t : Datetime) : String :=
  hexText (fingerprint (.arr [.int t.instant, .opt .int t.utcoffset]))

instance : Hashing where
  canonical j := hexText (fingerprint j)
  isoformat := datetimeText
  strDatetime := datetimeText
  sha256 s := hexText (mixText 13 s)
  hmac key message := hexText (mixText (mixText 14 key) message)
  sha256_hex _ := hexText_isSha256 _
  hmac_hex _ _ := hexText_isSha256 _

/-- A number as `n` bytes, the lowest first. -/
def bytes (n k : Nat) : List UInt8 := (List.range n).map fun i => UInt8.ofNat (k / 256 ^ i % 256)

def hexBytes (bs : List UInt8) : String :=
  String.ofList (bs.flatMap fun b => [hexDigit (b.toNat / 16), hexDigit (b.toNat % 16)])

def readHexDigit (c : Char) : Option Nat := (List.range 16).find? fun n => hexDigit n == c

def readHexBytes : List Char → Option (List UInt8)
  | [] => some []
  | [_] => none
  | a :: b :: rest => do
    let high ← readHexDigit a
    let low ← readHexDigit b
    return UInt8.ofNat (16 * high + low) :: (← readHexBytes rest)

/-- A model class that files hold as it is. -/
@[reducible] def codec [Model α] (dump : α → T) (unpack : T → Option α)
    (h : ∀ a, unpack (dump a) = some a) : TextCodec T α where
  dump := dump
  load t := (unpack t).filter fun a => Model.Valid a
  load_valid h := of_decide_eq_true (Option.filter_eq_some_iff.mp h).2
  load_dump hv := by simp [h, hv]
  eq_of_load_dump hl := by
    rw [h] at hl
    exact (Option.some.inj (Option.filter_eq_some_iff.mp hl).1).symm

end Paic.Platform
