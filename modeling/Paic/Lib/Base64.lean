import Mathlib

/-!
# Base64

Three bytes are written as four letters, each for six bits; what is left over
is one byte as two letters or two bytes as three, and a padding fills the last
group. The strict reader takes the two alphabets and only whole groups, but
does not look at the bits of the last letter that no byte uses. A text that is
what its bytes are written as is the only one of its kind.
-/

namespace Paic.Base64

/-- The letters of the sixty-four digits. -/
def letters : List Char :=
  "ABCDEFGHIJKLMNOPQRSTUVWXYZabcdefghijklmnopqrstuvwxyz0123456789+/".toList

def digit (i : Nat) : Char := letters.getD i 'A'

def value (c : Char) : Option Nat := letters.findIdx? (· == c)

/-- The letters of the bytes, without padding. -/
def digits : List UInt8 → List Char
  | [] => []
  | [a] => [digit (a.toNat / 4), digit (a.toNat % 4 * 16)]
  | [a, b] =>
    [digit (a.toNat / 4), digit (a.toNat % 4 * 16 + b.toNat / 16), digit (b.toNat % 16 * 4)]
  | a :: b :: c :: rest =>
    digit (a.toNat / 4) :: digit (a.toNat % 4 * 16 + b.toNat / 16) ::
      digit (b.toNat % 16 * 4 + c.toNat / 64) :: digit (c.toNat % 64) :: digits rest

/-- What fills the last group of a text of `n` letters. -/
def padding (n : Nat) : List Char := List.replicate ((4 - n % 4) % 4) '='

def encode (bytes : List UInt8) : List Char := digits bytes ++ padding (digits bytes).length

/-- The last group: its fourth letter is a padding, and its third may be. -/
def decodeLast (a b c : Char) : Option (List UInt8) := do
  let a ← value a
  let b ← value b
  if c = '=' then some [UInt8.ofNat (a * 4 + b / 16)]
  else
    let c ← value c
    some [UInt8.ofNat (a * 4 + b / 16), UInt8.ofNat (b % 16 * 16 + c / 4)]

/-- The strict reader of padded text. -/
def decode : List Char → Option (List UInt8)
  | [] => some []
  | a :: b :: c :: d :: rest =>
    if d = '=' ∧ rest = [] then decodeLast a b c
    else do
      let a ← value a
      let b ← value b
      let c ← value c
      let d ← value d
      let bytes ← decode rest
      some (UInt8.ofNat (a * 4 + b / 16) :: UInt8.ofNat (b % 16 * 16 + c / 4) ::
        UInt8.ofNat (c % 4 * 64 + d) :: bytes)
  | _ => none

-- ---------------------------------------------------------------------------
-- Writing and reading
-- ---------------------------------------------------------------------------

theorem value_digit (h : i < 64) : value (digit i) = some i := by
  have key : ∀ i < 64, value (digit i) = some i := by decide +kernel
  exact key i h

theorem digit_mem (h : i < 64) : digit i ∈ letters := by
  have hlength : i < letters.length := h
  rw [digit, List.getD_eq_getElem _ _ hlength]
  exact List.getElem_mem hlength

theorem digits_mem (bytes : List UInt8) : ∀ c ∈ digits bytes, c ∈ letters := by
  have hbyte : ∀ a : UInt8, a.toNat < 256 := fun a => a.toNat_lt
  induction bytes using digits.induct with
  | case1 => exact List.forall_mem_nil _
  | case2 a =>
    have ha := hbyte a
    simp only [digits, List.forall_mem_cons]
    exact ⟨digit_mem (by omega), digit_mem (by omega), List.forall_mem_nil _⟩
  | case3 a b =>
    have ha := hbyte a
    have hb := hbyte b
    simp only [digits, List.forall_mem_cons]
    exact ⟨digit_mem (by omega), digit_mem (by omega), digit_mem (by omega), List.forall_mem_nil _⟩
  | case4 a b c rest ih =>
    have ha := hbyte a
    have hb := hbyte b
    have hc := hbyte c
    simp only [digits, List.forall_mem_cons]
    exact ⟨digit_mem (by omega), digit_mem (by omega), digit_mem (by omega), digit_mem (by omega), ih⟩

theorem letters_ne_padding : '=' ∉ letters := by decide

theorem ofNat_eq {a : UInt8} (h : n = a.toNat) : UInt8.ofNat n = a := by
  rw [h, UInt8.ofNat_toNat]

/-- Reading gives back the bytes that were written. -/
theorem decode_encode (bytes : List UInt8) : decode (encode bytes) = some bytes := by
  have hbyte : ∀ a : UInt8, a.toNat < 256 := fun a => a.toNat_lt
  induction bytes using digits.induct with
  | case1 => rfl
  | case2 a =>
    have ha := hbyte a
    have hpadding : encode [a] =
        [digit (a.toNat / 4), digit (a.toNat % 4 * 16), '=', '='] := rfl
    have hfirst : UInt8.ofNat (a.toNat / 4 * 4 + a.toNat % 4 * 16 / 16) = a := ofNat_eq (by omega)
    rw [hpadding, decode, if_pos ⟨rfl, rfl⟩, decodeLast, value_digit (by omega),
      value_digit (by omega)]
    simp only [Option.bind_eq_bind, Option.bind_some, if_true, hfirst]
  | case3 a b =>
    have ha := hbyte a
    have hb := hbyte b
    have hpadding : encode [a, b] = [digit (a.toNat / 4),
        digit (a.toNat % 4 * 16 + b.toNat / 16), digit (b.toNat % 16 * 4), '='] := rfl
    have hletter : digit (b.toNat % 16 * 4) ≠ '=' := fun h =>
      letters_ne_padding (h ▸ digit_mem (by omega))
    have hfirst : UInt8.ofNat
        (a.toNat / 4 * 4 + (a.toNat % 4 * 16 + b.toNat / 16) / 16) = a := ofNat_eq (by omega)
    have hsecond : UInt8.ofNat ((a.toNat % 4 * 16 + b.toNat / 16) % 16 * 16 +
        b.toNat % 16 * 4 / 4) = b := ofNat_eq (by omega)
    rw [hpadding, decode, if_pos ⟨rfl, rfl⟩, decodeLast, value_digit (by omega),
      value_digit (by omega), value_digit (by omega)]
    simp only [Option.bind_eq_bind, Option.bind_some, if_neg hletter, hfirst, hsecond]
  | case4 a b c rest ih =>
    have ha := hbyte a
    have hb := hbyte b
    have hc := hbyte c
    have hpadding : encode (a :: b :: c :: rest) = digit (a.toNat / 4) ::
        digit (a.toNat % 4 * 16 + b.toNat / 16) :: digit (b.toNat % 16 * 4 + c.toNat / 64) ::
        digit (c.toNat % 64) :: encode rest := by
      have hlength : (digits (a :: b :: c :: rest)).length % 4 = (digits rest).length % 4 := by
        simp only [digits, List.length_cons]
        omega
      rw [encode, padding, hlength]
      rfl
    have hletter : digit (c.toNat % 64) ≠ '=' := fun h =>
      letters_ne_padding (h ▸ digit_mem (by omega))
    have hfirst : UInt8.ofNat
        (a.toNat / 4 * 4 + (a.toNat % 4 * 16 + b.toNat / 16) / 16) = a := ofNat_eq (by omega)
    have hsecond : UInt8.ofNat ((a.toNat % 4 * 16 + b.toNat / 16) % 16 * 16 +
        (b.toNat % 16 * 4 + c.toNat / 64) / 4) = b := ofNat_eq (by omega)
    have hthird : UInt8.ofNat ((b.toNat % 16 * 4 + c.toNat / 64) % 4 * 64 +
        c.toNat % 64) = c := ofNat_eq (by omega)
    rw [hpadding, decode, if_neg fun h => hletter h.1, value_digit (by omega),
      value_digit (by omega), value_digit (by omega), value_digit (by omega), ih]
    simp only [Option.bind_eq_bind, Option.bind_some, hfirst, hsecond, hthird]

-- ---------------------------------------------------------------------------
-- The alphabet of URLs
-- ---------------------------------------------------------------------------

/-- `urlsafe_b64encode` writes `-` and `_`. -/
def toUrl (c : Char) : Char := if c = '+' then '-' else if c = '/' then '_' else c

/-- With `altchars` of `-_` they are read back, and the others still are. -/
def ofUrl (c : Char) : Char := if c = '-' then '+' else if c = '_' then '/' else c

theorem ofUrl_toUrl (h : c ∈ letters) : ofUrl (toUrl c) = c := by
  have key : letters.all (fun c => ofUrl (toUrl c) = c) = true := by decide
  simpa using List.all_eq_true.mp key c h

theorem toUrl_letter (h : c ∈ letters) : toUrl c ≠ '=' ∧ toUrl c ≠ '.' := by
  have key : letters.all (fun c => toUrl c ≠ '=' ∧ toUrl c ≠ '.') = true := by decide
  simpa using List.all_eq_true.mp key c h

/-- `urlsafe_b64encode(bytes).rstrip(b"=")` -/
def encodeUrl (bytes : List UInt8) : List Char :=
  ((encode bytes).map toUrl).rdropWhile (· == '=')

/-- `b64decode(text + padding, altchars=b"-_", validate=True)` -/
def decodeUrl (text : List Char) : Option (List UInt8) :=
  decode ((text ++ padding text.length).map ofUrl)

theorem rdropWhile_padding {text : List Char} (h : ∀ c ∈ text, c ≠ '=') (n : Nat) :
    (text ++ List.replicate n '=').rdropWhile (· == '=') = text := by
  induction n with
  | zero =>
    rw [List.replicate_zero, List.append_nil, List.rdropWhile_eq_self_iff]
    exact fun hne => by simpa using h _ (List.getLast_mem hne)
  | succ n ih =>
    rw [List.replicate_succ', ← List.append_assoc, List.rdropWhile_concat_pos _ _ _ (by rfl), ih]

/-- Without the padding the letters of the bytes are left. -/
theorem encodeUrl_eq (bytes : List UInt8) : encodeUrl bytes = (digits bytes).map toUrl := by
  rw [encodeUrl, encode, List.map_append, padding, List.map_replicate]
  refine rdropWhile_padding (fun c hc => ?_) _
  obtain ⟨letter, hletter, rfl⟩ := List.mem_map.mp hc
  exact (toUrl_letter (digits_mem bytes letter hletter)).1

theorem encodeUrl_no_dot (bytes : List UInt8) : '.' ∉ encodeUrl bytes := by
  rw [encodeUrl_eq, List.mem_map]
  rintro ⟨letter, hletter, hdot⟩
  exact (toUrl_letter (digits_mem bytes letter hletter)).2 hdot

theorem decodeUrl_encodeUrl (bytes : List UInt8) : decodeUrl (encodeUrl bytes) = some bytes := by
  have hletters : (digits bytes).map (ofUrl ∘ toUrl) = digits bytes :=
    List.map_congr_left (fun c hc => ofUrl_toUrl (digits_mem bytes c hc)) |>.trans
      (List.map_id' _)
  rw [decodeUrl, encodeUrl_eq, List.length_map, List.map_append, List.map_map, hletters, padding,
    List.map_replicate]
  exact decode_encode bytes

end Paic.Base64
