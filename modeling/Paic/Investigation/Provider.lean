import Paic.Investigation.Prompts
import Paic.Lib.Checks

/-!
# The parsing of a provider's response

`_parse` turns the bytes of an OpenAI-compatible response into a
`ProviderResponse`. Its `try` catches what the checks, `json.loads` and the
models inside it raise; the response itself is made after it.
-/

namespace Paic.Investigation.Provider

open Checks (raiseIf need loop bind_eq_ok pure_eq_ok)

/-- A Python string. A surrogate in it need not be half of a pair. -/
structure Text where
  points : List Nat
  deriving DecidableEq, Repr

def Text.of (s : String) : Text := ⟨s.toList.map Char.toNat⟩

/-- A decoded value. A float that overflows has no number. -/
inductive Value where
  | null
  | bool (b : Bool)
  | int (n : Int)
  | float (q : Option Rat)
  | str (text : Text)
  | arr (items : List Value)
  | obj (pairs : List (Text × Value))

abbrev Fields := List (Text × Value)

def Value.dict? : Value → Option Fields
  | .obj pairs => some pairs
  | _ => none

def Value.str? : Value → Option Text
  | .str text => some text
  | _ => none

def Value.items? : Value → Option (List Value)
  | .arr items => some items
  | _ => none

def Value.truthy : Value → Bool
  | .null => false
  | .bool b => b
  | .int n => n ≠ 0
  | .float q => q ≠ some 0
  | .str text => text.points ≠ []
  | .arr items => !items.isEmpty
  | .obj pairs => !pairs.isEmpty

/-- `dict.get` -/
def get (fields : Fields) (key : String) : Value := (fields.lookup (Text.of key)).getD .null

-- ---------------------------------------------------------------------------
-- Decoding
-- ---------------------------------------------------------------------------

/-- How `json.loads` fails: with a `ValueError`, or on values that are nested
deeper than the interpreter goes. -/
inductive LoadError where
  | valueError
  | recursionError
  deriving DecidableEq, Repr

/-- `object_pairs_hook` and `parse_constant` -/
structure Hooks where
  object : Fields → Except LoadError Value
  constant : String → Except LoadError Value

mutual
/-- The value of a JSON text with the hook called for each of its objects. -/
def hooked (hook : Fields → Except LoadError Value) : Value → Except LoadError Value
  | .arr items => do pure (.arr (← hookedItems hook items))
  | .obj pairs => do hook (← hookedPairs hook pairs)
  | value => .ok value
def hookedItems (hook : Fields → Except LoadError Value) : List Value → Except LoadError (List Value)
  | [] => .ok []
  | item :: items => do pure ((← hooked hook item) :: (← hookedItems hook items))
def hookedPairs (hook : Fields → Except LoadError Value) : Fields → Except LoadError Fields
  | [] => .ok []
  | (key, value) :: pairs => do pure ((key, ← hooked hook value) :: (← hookedPairs hook pairs))
end

/-- The `json` module. `tree` is what a text says, each object as its pairs in
order; a decoder that rejects the constants calls the hook for each object. -/
class JsonDecoder where
  decodeBytes : List UInt8 → Option Text
  tree : Text → Option Value
  decode : Hooks → Text → Except LoadError Value
  decode_hooked : ∀ {hooks text value}, (∀ name, ∃ e, hooks.constant name = .error e) →
    decode hooks text = .ok value → ∃ t, tree text = some t ∧ hooked hooks.object t = .ok value

/-- `_unique_object` -/
def uniqueObject (pairs : Fields) : Except LoadError Value := do
  let result ← loop (fun (result : Fields) (pair : Text × Value) => do
      raiseIf (pair.1 ∈ result.map Prod.fst) .valueError
      pure (result ++ [pair]))
    [] pairs
  pure (.obj result)

/-- `_reject_json_constant` -/
def rejectJsonConstant (_ : String) : Except LoadError Value := .error .valueError

def strictHooks : Hooks := ⟨uniqueObject, rejectJsonConstant⟩

/-- What `_parse` can raise. -/
inductive PyError where
  | attributeError
  | typeError
  | valueError
  | validationError
  | recursionError
  | providerError (e : ProviderError)
  deriving DecidableEq, Repr

/-- The exceptions of the `except` clause. `JSONDecodeError`, `UnicodeDecodeError`
and `ValidationError` are value errors. -/
def PyError.caught : PyError → Bool
  | .typeError | .valueError | .validationError => true
  | .attributeError | .recursionError | .providerError _ => false

def LoadError.raised : LoadError → PyError
  | .valueError => .valueError
  | .recursionError => .recursionError

section
variable [JsonDecoder]

/-- `json.loads` of a string, which has no byte order mark. -/
def loads (text : Text) : Except PyError Value :=
  if text.points.head? = some 0xfeff then .error .valueError
  else (JsonDecoder.decode strictHooks text).mapError LoadError.raised

/-- `json.loads` of bytes -/
def loadsBytes (raw : List UInt8) : Except PyError Value := do
  let text ← need (JsonDecoder.decodeBytes raw) .valueError
  (JsonDecoder.decode strictHooks text).mapError LoadError.raised

end

-- ---------------------------------------------------------------------------
-- Models
-- ---------------------------------------------------------------------------

/-- What pydantic accepts in a field: a string, a string of some lengths, an
integer. -/
class FieldModels where
  plain : Text → Bool
  sized : Nat → Nat → Text → Bool
  laxInt : Value → Option Int
  plain_of : ∀ s, plain (Text.of s) = true

structure ToolCall where
  callId : Text
  name : Text
  arguments : Fields

structure Usage where
  promptTokens : Nat
  completionTokens : Nat
  totalTokens : Nat

structure Response where
  model : String
  content : Option Text
  toolCalls : List ToolCall
  finishReason : Option Text
  usage : Usage

section
variable [FieldModels]

/-- `ProviderToolCall(...)` -/
def newToolCall (callId name : Text) (arguments : Fields) : Except PyError ToolCall := do
  raiseIf (¬ (FieldModels.sized 1 200 callId = true ∧ FieldModels.sized 1 200 name = true ∧
    ∀ pair ∈ arguments, FieldModels.plain pair.1 = true)) .validationError
  pure ⟨callId, name, arguments⟩

/-- A token count: `usage_raw.get(key, 0) or 0`, as an integer that is not
negative. -/
def tokenCount (usage : Fields) (key : String) : Option Nat :=
  let value := if (get usage key).truthy then get usage key else .int 0
  (FieldModels.laxInt value).bind fun n => if 0 ≤ n then some n.toNat else none

/-- `ProviderUsage(...)`, with `reconcile_token_totals` -/
def newUsage (usage : Fields) : Except PyError Usage := do
  let promptTokens ← need (tokenCount usage "prompt_tokens") .validationError
  let completionTokens ← need (tokenCount usage "completion_tokens") .validationError
  let totalTokens ← need (tokenCount usage "total_tokens") .validationError
  let componentTotal := promptTokens + completionTokens
  raiseIf (componentTotal ≠ 0 ∧ totalTokens ≠ 0 ∧ totalTokens ≠ componentTotal) .validationError
  pure ⟨promptTokens, completionTokens, if totalTokens = 0 then componentTotal else totalTokens⟩

-- ---------------------------------------------------------------------------
-- `_parse`
-- ---------------------------------------------------------------------------

/-- What the `try` has read. -/
structure Body where
  choice : Fields
  content : Option Text
  calls : List ToolCall
  usage : Usage

/-- `message.get("content")`, a string or null -/
def contentOf : Value → Option (Option Text)
  | .null => some none
  | .str text => some (some text)
  | _ => none

/-- `message.get("tool_calls", [])`, an array or null -/
def toolItems : Value → Option (List Value)
  | .null => some []
  | .arr items => some items
  | _ => none

/-- `decoded.get("usage") or {}` -/
def usageFields (value : Value) : Option Fields :=
  if value.truthy then value.dict? else some []

/-- `function.get("arguments") or "{}"`, which `json.loads` takes as a string -/
def argumentsText (value : Value) : Option Text :=
  if value.truthy then value.str? else some (Text.of "{}")

/-- A name that the request offered. -/
def Known (known : List Text) (name : Text) : Prop :=
  known = [] ∨ name ∈ known ∨ name = Text.of submitTool

instance : Decidable (Known known name) := by unfold Known; infer_instance

variable [JsonDecoder]

/-- The body of the loop over the tool calls. -/
def parseCall (known : List Text) (strictType : Bool) (item : Value) : Except PyError ToolCall := do
  let fields ← need item.dict? .valueError
  raiseIf (strictType = true ∧ (get fields "type").str? ≠ some (Text.of "function")) .valueError
  let function ← need (get fields "function").dict? .valueError
  let callId ← need (get fields "id").str? .valueError
  let name ← need (get function "name").str? .valueError
  raiseIf (¬ Known known name) .valueError
  let text ← need (argumentsText (get function "arguments")) .typeError
  let decoded ← loads text
  let arguments ← need decoded.dict? .typeError
  newToolCall callId name arguments

/-- The `try` of `_parse`. -/
def parseBody (known : List Text) (strictType : Bool) (raw : List UInt8) : Except PyError Body := do
  let value ← loadsBytes raw
  let decoded ← need value.dict? .attributeError
  let choices ← need (get decoded "choices").items? .valueError
  let first ← need choices.head? .valueError
  let choice ← need first.dict? .valueError
  let message ← need (get choice "message").dict? .valueError
  let content ← need (contentOf (get message "content")) .typeError
  let items ← need (toolItems (get message "tool_calls")) .typeError
  let calls ← items.mapM (parseCall known strictType)
  let usageRaw ← need (usageFields (get decoded "usage")) .typeError
  let usage ← newUsage usageRaw
  pure { choice, content, calls, usage }

/-- A field of type `str | None`. -/
def optionalText : Value → Option (Option Text)
  | .null => some none
  | .str text => if FieldModels.plain text then some (some text) else none
  | _ => none

/-- `ProviderResponse(...)` -/
def newResponse (model : String) (body : Body) : Except PyError Response := do
  raiseIf (FieldModels.plain (Text.of model) = false) .validationError
  raiseIf (∃ text ∈ body.content, FieldModels.plain text = false) .validationError
  let finishReason ← need (optionalText (get body.choice "finish_reason")) .validationError
  pure { model, content := body.content, toolCalls := body.calls, finishReason, usage := body.usage }

/-- `_OpenAICompatibleProvider._parse` -/
def parse (providerLabel model : String) (known : List Text) (strictType : Bool)
    (raw : List UInt8) : Except PyError Response :=
  match parseBody known strictType raw with
  | .ok body => newResponse model body
  | .error e =>
    if e.caught then
      .error (.providerError ⟨"invalid_response", providerLabel ++ " response is malformed", true⟩)
    else .error e

end

end Paic.Investigation.Provider
