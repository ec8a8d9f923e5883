import Mathlib

/-!
# Identifiers, hashes and numbered names

The string patterns the models check, as recognisers over characters, and
the zero-padded numbers that name a store's generations. `segments_join`
says that two identifiers joined by a separator are an identifier again;
`readDecimal_zeroPadded` says that a padded number reads back.
-/

namespace Paic

/-- `word+(?:sep word+)*`, anchored at both ends. `inside` says that the
current segment already has a word character. -/
def segments (word sep : Char → Bool) (inside : Bool) : List Char → Bool
  | [] => inside
  | c :: cs =>
    if word c then segments word sep true cs
    else inside && sep c && segments word sep false cs

theorem segments_join {word sep : Char → Bool} {xs ys : List Char} {c : Char}
    (hx : segments word sep inside xs = true) (hc : word c = false) (hs : sep c = true)
    (hy : segments word sep false ys = true) :
    segments word sep inside (xs ++ c :: ys) = true := by
  induction xs generalizing inside with
  | nil =>
    simp only [segments] at hx
    simp [segments, hx, hc, hs, hy]
  | cons x xs ih =>
    simp only [List.cons_append, segments] at hx ⊢
    split at hx
    · next hword => simp only [hword, ↓reduceIte, ih hx]
    · next hword =>
      simp only [Bool.and_eq_true] at hx
      simp only [hword, Bool.false_eq_true, ↓reduceIte, hx.1.1, hx.1.2, Bool.and_self,
        ih hx.2]

def isLowerAlnum (c : Char) : Bool := c.isLower || c.isDigit

def isIdentifierSep (c : Char) : Bool := c == '.' || c == '_' || c == '/' || c == '-'

/-- `Identifier`: words of `[a-z0-9]+` joined by one of `.`, `_`, `/` and `-`. -/
def isIdentifier (s : String) : Bool := segments isLowerAlnum isIdentifierSep false s.toList

/-- `EvidenceRecordId`: the same with words of `[A-Za-z0-9]+`. -/
def isEvidenceRecordId (s : String) : Bool :=
  segments Char.isAlphanum isIdentifierSep false s.toList

/-- `^[a-z0-9]+(?:-[a-z0-9]+)*$` -/
def isKeyId (s : String) : Bool := segments isLowerAlnum (· == '-') false s.toList

/-- `^[A-Z][A-Z0-9_]*$` -/
def isEnvName (s : String) : Bool :=
  match s.toList with
  | [] => false
  | c :: cs => c.isUpper && cs.all fun c => c.isUpper || c.isDigit || c == '_'

theorem isIdentifier_length (h : isIdentifier s = true) : 1 ≤ s.length := by
  rw [← String.length_toList]
  cases hs : s.toList with
  | nil => simp [isIdentifier, hs, segments] at h
  | cons c cs => simp

theorem segments_mono {word sep sep' : Char → Bool} (hsep : ∀ c, sep c = true → sep' c = true)
    (h : segments word sep inside cs = true) : segments word sep' inside cs = true := by
  induction cs generalizing inside with
  | nil => exact h
  | cons c cs ih =>
    simp only [segments] at h ⊢
    split at h
    · next hword => simp only [hword, ↓reduceIte, ih h]
    · next hword =>
      simp only [Bool.and_eq_true] at h
      simp only [hword, Bool.false_eq_true, ↓reduceIte, h.1.1, hsep c h.1.2, Bool.and_self,
        ih h.2]

/-- A key id is an identifier. -/
theorem isIdentifier_of_isKeyId (h : isKeyId s = true) : isIdentifier s = true :=
  segments_mono (fun c hc => by simp_all [isIdentifierSep]) h

theorem isIdentifier_join {a b : String} (ha : isIdentifier a = true)
    (hb : isIdentifier b = true) : isIdentifier (a ++ "-" ++ b) = true := by
  unfold isIdentifier at ha hb ⊢
  rw [String.toList_append, String.toList_append, List.append_assoc]
  exact segments_join ha rfl rfl hb

-- ---------------------------------------------------------------------------
-- Hashes
-- ---------------------------------------------------------------------------

/-- `[0-9a-f]` -/
def isHex (c : Char) : Bool := c.isDigit || (decide ('a' ≤ c) && decide (c ≤ 'f'))

/-- `^[a-f0-9]{64}$` -/
def isSha256 (s : String) : Bool := s.toList.length == 64 && s.toList.all isHex

/-- `[0-9a-f]{16}` -/
def isHex16 (cs : List Char) : Bool := cs.length == 16 && cs.all isHex

/-- `"0" * 64` -/
def zeroHash : String := String.ofList (List.replicate 64 '0')

theorem zeroHash_isSha256 : isSha256 zeroHash = true := by decide

/-- `s[:16]` -/
def hashPrefix (s : String) : String := String.ofList (s.toList.take 16)

theorem hashPrefix_hex (h : isSha256 s = true) : isHex16 (hashPrefix s).toList = true := by
  simp only [isSha256, Bool.and_eq_true, beq_iff_eq, List.all_eq_true] at h
  simp only [isHex16, hashPrefix, String.toList_ofList, Bool.and_eq_true, beq_iff_eq,
    List.length_take, List.all_eq_true, h.1]
  exact ⟨rfl, fun c hc => h.2 c (List.mem_of_mem_take hc)⟩

-- ---------------------------------------------------------------------------
-- Numbered names
-- ---------------------------------------------------------------------------

/-- `f"{n:020d}"` -/
def zeroPadded (n : Nat) : String :=
  String.ofList (List.replicate (20 - (Nat.toDigits 10 n).length) '0' ++ Nat.toDigits 10 n)

/-- The zeros of Unicode's decimal digits: what `\d` matches and `int` reads. -/
def decimalZeros : List Nat :=
  [0x30, 0x660, 0x6f0, 0x7c0, 0x966, 0x9e6, 0xa66, 0xae6, 0xb66, 0xbe6, 0xc66, 0xce6, 0xd66,
    0xde6, 0xe50, 0xed0, 0xf20, 0x1040, 0x1090, 0x17e0, 0x1810, 0x1946, 0x19d0, 0x1a80, 0x1a90,
    0x1b50, 0x1bb0, 0x1c40, 0x1c50, 0xa620, 0xa8d0, 0xa900, 0xa9d0, 0xa9f0, 0xaa50, 0xabf0,
    0xff10, 0x104a0, 0x10d30, 0x11066, 0x110f0, 0x11136, 0x111d0, 0x112f0, 0x11450, 0x114d0,
    0x11650, 0x116c0, 0x11730, 0x118e0, 0x11950, 0x11c50, 0x11d50, 0x11da0, 0x16a60, 0x16ac0,
    0x16b50, 0x1d7ce, 0x1d7d8, 0x1d7e2, 0x1d7ec, 0x1d7f6, 0x1e140, 0x1e2f0, 0x1e950, 0x1fbf0]

def decimal (c : Char) : Option Nat :=
  (decimalZeros.find? fun z => decide (z ≤ c.toNat) && decide (c.toNat < z + 10)).map (c.toNat - ·)

/-- `int(digits)` -/
def readDecimal (cs : List Char) : Option Nat :=
  (cs.mapM decimal).map fun ds => ds.foldl (fun n d => 10 * n + d) 0

theorem decimal_isDigit (h : c.isDigit = true) : decimal c = some (c.toNat - '0'.toNat) := by
  have hc : 48 ≤ c.toNat ∧ c.toNat < 48 + 10 := by
    simp only [Char.isDigit, Bool.and_eq_true, decide_eq_true_eq] at h
    have h1 : 48 ≤ c.toNat := h.1
    have h2 : c.toNat ≤ 57 := h.2
    omega
  simp [decimal, decimalZeros, hc]

theorem readDecimal_digits (h : ∀ c ∈ cs, c.isDigit = true) :
    readDecimal cs = some (Nat.ofDigitChars 10 cs 0) := by
  have hm : cs.mapM decimal = some (cs.map fun c => c.toNat - '0'.toNat) := by
    induction cs with
    | nil => rfl
    | cons c cs ih =>
      have hc := decimal_isDigit (h c (by simp))
      have hr := ih fun d hd => h d (List.mem_cons_of_mem _ hd)
      simp [List.mapM_cons, hc, hr]
  simp [readDecimal, hm, Nat.ofDigitChars_eq_foldl, List.foldl_map]

theorem zeroPadded_digits : ∀ c ∈ (zeroPadded n).toList, c.isDigit = true := by
  intro c hc
  simp only [zeroPadded, String.toList_ofList, List.mem_append, List.mem_replicate] at hc
  rcases hc with ⟨-, rfl⟩ | hc
  · rfl
  · exact Nat.isDigit_of_mem_toDigits (by decide) (by decide) hc

theorem zeroPadded_length (h : n < 10 ^ 20) : (zeroPadded n).toList.length = 20 := by
  have hle := (Nat.length_toDigits_le_iff (b := 10) (k := 20) (by decide) (by decide)).mpr h
  simp only [zeroPadded, String.toList_ofList, List.length_append, List.length_replicate]
  omega

theorem readDecimal_zeroPadded : readDecimal (zeroPadded n).toList = some n := by
  rw [readDecimal_digits zeroPadded_digits]
  simp [zeroPadded, Nat.ofDigitChars_append]

theorem zeroPadded_injective (h : zeroPadded m = zeroPadded n) : m = n := by
  have hm := readDecimal_zeroPadded (n := m)
  rw [h, readDecimal_zeroPadded] at hm
  exact (Option.some.inj hm).symm

/-- The name of the first generation of a store. -/
def initialName : String := "00000000000000000000"

theorem zeroPadded_zero : zeroPadded 0 = initialName := by decide

/-- `f"{n:020d}-{sha[:16]}"` -/
def generationName (n : Nat) (sha : String) : String := zeroPadded n ++ "-" ++ hashPrefix sha

/-- `re.fullmatch(rf"{n:020d}-[0-9a-f]{16}", name)` -/
def namesGeneration (n : Nat) (name : String) : Bool :=
  let stem := (zeroPadded n).toList ++ ['-']
  stem.isPrefixOf name.toList && isHex16 (name.toList.drop stem.length)

/-- The number in a name that matches `(\d{20})-[0-9a-f]{16}`. -/
def readGeneration (name : String) : Option Nat :=
  let cs := name.toList
  if cs[20]? = some '-' ∧ isHex16 (cs.drop 21) = true then readDecimal (cs.take 20) else none

theorem generationName_toList :
    (generationName n sha).toList = (zeroPadded n).toList ++ '-' :: (hashPrefix sha).toList := by
  simp [generationName, String.toList_append]

theorem namesGeneration_iff : namesGeneration n name = true ↔
    ∃ cs, name.toList = (zeroPadded n).toList ++ '-' :: cs ∧ isHex16 cs = true := by
  simp only [namesGeneration, Bool.and_eq_true, List.isPrefixOf_iff_prefix]
  constructor
  · rintro ⟨⟨cs, hcs⟩, hex⟩
    rw [← hcs, List.drop_left] at hex
    exact ⟨cs, by simpa using hcs.symm, hex⟩
  · rintro ⟨cs, hcs, hex⟩
    have hcs' : name.toList = ((zeroPadded n).toList ++ ['-']) ++ cs := by simpa using hcs
    refine ⟨⟨cs, hcs'.symm⟩, ?_⟩
    rw [hcs', List.drop_left]
    exact hex

theorem namesGeneration_generationName (h : isSha256 sha = true) :
    namesGeneration n (generationName n sha) = true :=
  namesGeneration_iff.mpr ⟨_, generationName_toList, hashPrefix_hex h⟩

theorem namesGeneration_read (hn : n < 10 ^ 20) (h : namesGeneration n name = true) :
    readGeneration name = some n := by
  obtain ⟨cs, hcs, hex⟩ := namesGeneration_iff.mp h
  have hlen := zeroPadded_length hn
  have hdash : name.toList[20]? = some '-' := by
    rw [hcs, List.getElem?_append_right (by omega)]
    simp [hlen]
  have hdrop : name.toList.drop 21 = cs := by
    rw [hcs, List.append_cons]
    exact List.drop_left' (by simp [hlen])
  have htake : name.toList.take 20 = (zeroPadded n).toList := by
    rw [hcs]
    exact List.take_left' hlen
  simp only [readGeneration, hdash, hdrop, hex, and_self, ↓reduceIte, htake,
    readDecimal_zeroPadded]

theorem namesGeneration_ne_initial (hn : n < 10 ^ 20) (h : namesGeneration n name = true) :
    name ≠ initialName := by
  obtain ⟨cs, hcs, hex⟩ := namesGeneration_iff.mp h
  rintro rfl
  have hlen := congrArg List.length hcs
  rw [List.length_append, zeroPadded_length hn, List.length_cons] at hlen
  have : initialName.toList.length = 20 := by decide
  omega

theorem generationName_injective (h : generationName n sha = generationName n sha') :
    hashPrefix sha = hashPrefix sha' := by
  have := congrArg String.toList h
  simp only [generationName_toList, List.append_cancel_left_eq, List.cons.injEq, true_and] at this
  exact String.toList_inj.mp this

end Paic
