import Paic.Evaluation.Ablation
import Paic.Json

/-!
# What may be published

The sanitiser of public values leaves out the fields whose names sound like
secrets, and refuses texts that look like paths of a machine.
-/

namespace Paic.WebReadiness

open Checks (raiseIf bind_eq_ok raiseIf_ok pure_eq_ok)
open Evaluation (CaseText sameLetter)

inductive Error where
  | webReadinessError (message : String)
  /-- `UnicodeDecodeError` or `JSONDecodeError` -/
  | decodeError
  /-- pydantic's `ValidationError` -/
  | validationError
  /-- `get` of a value that is no dict -/
  | attributeError
  deriving DecidableEq, Repr

-- ---------------------------------------------------------------------------
-- Patterns
-- ---------------------------------------------------------------------------

/-- The words of `_SECRET_KEY`, `[_-]?` written out. -/
def secretTerms : List String :=
  ["secret", "password", "passwd", "token", "apikey", "api_key", "api-key", "privatekey",
    "private_key", "private-key", "credential", "authorization", "cookie", "env"]

section
variable [CaseText]

/-- A character of the pattern matches one of the text; `re.IGNORECASE` counts
for letters. -/
def inPattern (p c : Char) : Bool := if p.isLower then sameLetter p c else p == c

/-- `_SECRET_KEY.search` -/
def secretKey (key : String) : Bool :=
  key.toList.tails.any fun rest =>
    secretTerms.any fun term => Replace.begins inPattern term.toList rest

end

/-- `_ABSOLUTE.match` -/
def isAbsolute (value : String) : Bool :=
  match value.toList with
  | '/' :: _ => true
  | '\\' :: '\\' :: _ => true
  | drive :: ':' :: separator :: _ => drive.isAlpha && (separator == '\\' || separator == '/')
  | _ => false

def hasBackslashOrNul (value : String) : Bool :=
  value.toList.any fun c => c == '\\' || c.toNat == 0

/-- The texts that `_safe_public` refuses. -/
def unsafeText (value : String) : Bool := isAbsolute value || hasBackslashOrNul value

-- ---------------------------------------------------------------------------
-- The sanitiser
-- ---------------------------------------------------------------------------

section
variable [CaseText]

mutual
/-- `_safe_public`, of values that were read from JSON. -/
def safePublic (context : String) : Json → Except Error Json
  | .obj fields => do
    let result ← safeFields context fields
    return .obj result
  | .arr items => do
    let result ← safeItems (context ++ "[]") items
    return .arr result
  | .str value => do
    raiseIf (unsafeText value = true)
      (.webReadinessError ("machine-specific or unsafe path in public export: " ++ context))
    return .str value
  | value => .ok value

def safeItems (context : String) : List Json → Except Error (List Json)
  | [] => .ok []
  | item :: rest => do
    let safe ← safePublic context item
    let safeRest ← safeItems context rest
    return safe :: safeRest

def safeFields (context : String) : List (String × Json) → Except Error (List (String × Json))
  | [] => .ok []
  | (key, item) :: rest =>
    if secretKey key then safeFields context rest
    else do
      let safe ← safePublic (context ++ "." ++ key) item
      let safeRest ← safeFields context rest
      return (key, safe) :: safeRest
end

mutual
/-- No field at any depth has a name that sounds like a secret. -/
def secretFree : Json → Bool
  | .obj fields => secretFreeFields fields
  | .arr items => secretFreeItems items
  | _ => true

def secretFreeItems : List Json → Bool
  | [] => true
  | item :: rest => secretFree item && secretFreeItems rest

def secretFreeFields : List (String × Json) → Bool
  | [] => true
  | (key, item) :: rest => !secretKey key && secretFree item && secretFreeFields rest
end

end

mutual
/-- No text at any depth looks like a path of a machine. -/
def pathFree : Json → Bool
  | .obj fields => pathFreeFields fields
  | .arr items => pathFreeItems items
  | .str value => !unsafeText value
  | _ => true

def pathFreeItems : List Json → Bool
  | [] => true
  | item :: rest => pathFree item && pathFreeItems rest

def pathFreeFields : List (String × Json) → Bool
  | [] => true
  | (_, item) :: rest => pathFree item && pathFreeFields rest
end

-- ---------------------------------------------------------------------------
-- What the sanitiser leaves
-- ---------------------------------------------------------------------------

section
variable [CaseText]

mutual
theorem safePublic_clean (context : String) (value out : Json)
    (h : safePublic context value = .ok out) : secretFree out = true ∧ pathFree out = true := by
  cases value with
  | obj fields =>
    rw [safePublic] at h
    obtain ⟨result, hresult, h⟩ := bind_eq_ok.mp h
    obtain rfl := pure_eq_ok.mp h
    exact safeFields_clean context fields result hresult
  | arr items =>
    rw [safePublic] at h
    obtain ⟨result, hresult, h⟩ := bind_eq_ok.mp h
    obtain rfl := pure_eq_ok.mp h
    exact safeItems_clean _ items result hresult
  | str value =>
    rw [safePublic] at h
    obtain ⟨_, hsafe, h⟩ := bind_eq_ok.mp h
    obtain rfl := pure_eq_ok.mp h
    exact ⟨rfl, by rw [pathFree, Bool.not_eq_true'] ; exact Bool.eq_false_iff.mpr (raiseIf_ok.mp hsafe)⟩
  | null | bool | int | float =>
    obtain rfl := Except.ok.inj h
    exact ⟨rfl, rfl⟩

theorem safeItems_clean (context : String) (items out : List Json)
    (h : safeItems context items = .ok out) :
    secretFreeItems out = true ∧ pathFreeItems out = true := by
  cases items with
  | nil =>
    obtain rfl := Except.ok.inj h
    exact ⟨rfl, rfl⟩
  | cons item rest =>
    rw [safeItems] at h
    obtain ⟨safe, hsafe, h⟩ := bind_eq_ok.mp h
    obtain ⟨safeRest, hrest, h⟩ := bind_eq_ok.mp h
    obtain rfl := pure_eq_ok.mp h
    obtain ⟨hs, hp⟩ := safePublic_clean context item safe hsafe
    obtain ⟨hss, hps⟩ := safeItems_clean context rest safeRest hrest
    rw [secretFreeItems, pathFreeItems, hs, hp, hss, hps]
    exact ⟨rfl, rfl⟩

theorem safeFields_clean (context : String) (fields out : List (String × Json))
    (h : safeFields context fields = .ok out) :
    secretFreeFields out = true ∧ pathFreeFields out = true := by
  match fields with
  | [] =>
    obtain rfl := Except.ok.inj h
    exact ⟨rfl, rfl⟩
  | (key, item) :: rest =>
    rw [safeFields] at h
    split at h
    case isTrue => exact safeFields_clean context rest out h
    case isFalse hkey =>
      obtain ⟨safe, hsafe, h⟩ := bind_eq_ok.mp h
      obtain ⟨safeRest, hrest, h⟩ := bind_eq_ok.mp h
      obtain rfl := pure_eq_ok.mp h
      obtain ⟨hs, hp⟩ := safePublic_clean _ item safe hsafe
      obtain ⟨hss, hps⟩ := safeFields_clean context rest safeRest hrest
      rw [secretFreeFields, pathFreeFields, hs, hp, hss, hps, Bool.eq_false_iff.mpr hkey]
      exact ⟨rfl, rfl⟩
end

mutual
/-- What is clean is left as it is. -/
theorem safePublic_of_clean (context : String) (value : Json) (hs : secretFree value = true)
    (hp : pathFree value = true) : safePublic context value = .ok value := by
  cases value with
  | obj fields => rw [safePublic, safeFields_of_clean context fields hs hp]; rfl
  | arr items => rw [safePublic, safeItems_of_clean _ items hs hp]; rfl
  | str value =>
    rw [pathFree, Bool.not_eq_true'] at hp
    rw [safePublic, Checks.raiseIf_neg (Bool.eq_false_iff.mp hp)]
    rfl
  | null | bool | int | float => rfl

theorem safeItems_of_clean (context : String) (items : List Json)
    (hs : secretFreeItems items = true) (hp : pathFreeItems items = true) :
    safeItems context items = .ok items := by
  cases items with
  | nil => rfl
  | cons item rest =>
    rw [secretFreeItems, Bool.and_eq_true] at hs
    rw [pathFreeItems, Bool.and_eq_true] at hp
    rw [safeItems, safePublic_of_clean context item hs.1 hp.1,
      safeItems_of_clean context rest hs.2 hp.2]
    rfl

theorem safeFields_of_clean (context : String) (fields : List (String × Json))
    (hs : secretFreeFields fields = true) (hp : pathFreeFields fields = true) :
    safeFields context fields = .ok fields := by
  match fields with
  | [] => rfl
  | (key, item) :: rest =>
    rw [secretFreeFields, Bool.and_eq_true, Bool.and_eq_true, Bool.not_eq_true'] at hs
    rw [pathFreeFields, Bool.and_eq_true] at hp
    rw [safeFields, if_neg (Bool.eq_false_iff.mp hs.1.1), safePublic_of_clean _ item hs.1.2 hp.1,
      safeFields_of_clean context rest hs.2 hp.2]
    rfl
end

mutual
/-- Where nothing sounds like a secret, nothing is left out. -/
theorem safePublic_eq (context : String) (value out : Json) (hs : secretFree value = true)
    (h : safePublic context value = .ok out) : out = value := by
  cases value with
  | obj fields =>
    rw [safePublic] at h
    obtain ⟨result, hresult, h⟩ := bind_eq_ok.mp h
    obtain rfl := pure_eq_ok.mp h
    exact congrArg Json.obj (safeFields_eq context fields result hs hresult)
  | arr items =>
    rw [safePublic] at h
    obtain ⟨result, hresult, h⟩ := bind_eq_ok.mp h
    obtain rfl := pure_eq_ok.mp h
    exact congrArg Json.arr (safeItems_eq _ items result hs hresult)
  | str value =>
    rw [safePublic] at h
    obtain ⟨_, -, h⟩ := bind_eq_ok.mp h
    exact (pure_eq_ok.mp h).symm
  | null | bool | int | float => exact (Except.ok.inj h).symm

theorem safeItems_eq (context : String) (items out : List Json)
    (hs : secretFreeItems items = true) (h : safeItems context items = .ok out) : out = items := by
  cases items with
  | nil => exact (Except.ok.inj h).symm
  | cons item rest =>
    rw [secretFreeItems, Bool.and_eq_true] at hs
    rw [safeItems] at h
    obtain ⟨safe, hsafe, h⟩ := bind_eq_ok.mp h
    obtain ⟨safeRest, hrest, h⟩ := bind_eq_ok.mp h
    obtain rfl := pure_eq_ok.mp h
    rw [safePublic_eq context item safe hs.1 hsafe, safeItems_eq context rest safeRest hs.2 hrest]

theorem safeFields_eq (context : String) (fields out : List (String × Json))
    (hs : secretFreeFields fields = true) (h : safeFields context fields = .ok out) :
    out = fields := by
  match fields with
  | [] => exact (Except.ok.inj h).symm
  | (key, item) :: rest =>
    rw [secretFreeFields, Bool.and_eq_true, Bool.and_eq_true, Bool.not_eq_true'] at hs
    rw [safeFields, if_neg (Bool.eq_false_iff.mp hs.1.1)] at h
    obtain ⟨safe, hsafe, h⟩ := bind_eq_ok.mp h
    obtain ⟨safeRest, hrest, h⟩ := bind_eq_ok.mp h
    obtain rfl := pure_eq_ok.mp h
    rw [safePublic_eq _ item safe hs.1.2 hsafe, safeFields_eq context rest safeRest hs.2 hrest]
end

/-- The sanitiser changes a value that it lets through exactly when a field in
it sounds like a secret. -/
theorem safePublic_self_iff (h : safePublic context value = .ok out) :
    safePublic context value = .ok value ↔ secretFree value = true :=
  ⟨fun hself => (safePublic_clean context value value hself).1,
    fun hs => (safePublic_eq context value out hs h) ▸ h⟩

end

end Paic.WebReadiness
