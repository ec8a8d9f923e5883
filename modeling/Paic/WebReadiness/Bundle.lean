import Paic.JsonObjects
import Paic.Remediation.Artifact
import Paic.Tools.Catalogue
import Paic.WebReadiness.Public

/-!
# The public bundle and its validator

A model class of pydantic is a table of its fields. Validating a value against
it gives what `model_dump` makes of the model.
-/

namespace Paic.WebReadiness

open Checks (raiseIf need)
open Evaluation (CaseText)
open Remediation (Directory Node)
open Tools (Pydantic)

-- ---------------------------------------------------------------------------
-- Models
-- ---------------------------------------------------------------------------

/-- A field with its type and its default, if it has one. -/
structure Field (τ : Type) where
  name : String
  type : τ
  default : Option Json

/-- One field of a model. -/
def readField (validate : τ → Json → Except Error Json) (fields : List (String × Json))
    (field : Field τ) : Except Error (String × Json) :=
  match fields.lookup field.name with
  | some item => do
    let item ← validate field.type item
    return (field.name, item)
  | none => do
    let item ← need field.default .validationError
    return (field.name, item)

/-- The fields of a value of a model class that forbids others. -/
def validateModel (validate : τ → Json → Except Error Json) (table : List (Field τ))
    (value : Json) : Except Error Json := do
  match value with
  | .obj fields =>
    raiseIf (∃ field ∈ fields, field.1 ∉ table.map Field.name) .validationError
    let read ← table.mapM (readField validate fields)
    return .obj read
  | _ => .error .validationError

inductive FieldType where
  | text (pattern : String → Bool)
  /-- `str | None` -/
  | optionalText (pattern : String → Bool)
  /-- `int = Field(ge=0)` -/
  | natural
  | any
  | dict
  | dicts
  | publicFiles

def anyText (_ : String) : Bool := true

/-- `^[0-9a-f]{40}$` -/
def isCommit (value : String) : Bool :=
  value.length == 40 && value.toList.all fun c => c.isDigit || (decide ('a' ≤ c) && decide (c ≤ 'f'))

def isDict : Json → Bool
  | .obj _ => true
  | _ => false

/-- `PublicFile` -/
def publicFile : List (Field FieldType) :=
  [⟨"path", .text anyText, none⟩, ⟨"sha256", .text isSha256, none⟩, ⟨"size", .natural, none⟩,
    ⟨"content", .any, none⟩]

section
variable [Pydantic]

/-- The types that are not model classes. -/
def validatePlain (type : FieldType) (value : Json) : Except Error Json :=
  match type, value with
  | .text pattern, .str s => do
    raiseIf (pattern s = false) .validationError
    return .str s
  | .optionalText _, .null => .ok .null
  | .optionalText pattern, .str s => do
    raiseIf (pattern s = false) .validationError
    return .str s
  | .natural, .obj _ => .error .validationError
  | .natural, .arr _ => .error .validationError
  | .natural, value => do
    let size ← need (Pydantic.laxInt value) .validationError
    raiseIf (size < 0) .validationError
    return .int size
  | .any, value => .ok value
  | .dict, .obj fields => .ok (.obj fields)
  | .dicts, .arr items => do
    raiseIf (∃ item ∈ items, isDict item = false) .validationError
    return .arr items
  | _, _ => .error .validationError

def validateField (type : FieldType) (value : Json) : Except Error Json :=
  match type, value with
  | .publicFiles, .arr items => do
    let files ← items.mapM (validateModel validatePlain publicFile)
    return .arr files
  | type, value => validatePlain type value

/-- `WebBundle` -/
def webBundle : List (Field FieldType) :=
  [⟨"schema_version", .text (· == "1.0"), none⟩,
    ⟨"bundle_kind", .text (· == "paic-public-demo"), none⟩,
    ⟨"disclaimer", .text anyText, none⟩,
    ⟨"workspace_id", .text anyText, none⟩,
    ⟨"display_name", .text anyText, none⟩,
    ⟨"source_bindings", .dict, none⟩,
    ⟨"lifecycle", .dict, none⟩,
    ⟨"detection", .dict, none⟩,
    ⟨"operations", .dict, none⟩,
    ⟨"investigation", .dict, none⟩,
    ⟨"impact", .dict, none⟩,
    ⟨"remediation", .dict, none⟩,
    ⟨"recovery", .dict, none⟩,
    ⟨"evaluation", .dict, none⟩,
    ⟨"presentation", .dict, some (.obj [])⟩,
    ⟨"source_commit", .optionalText isCommit, some .null⟩,
    ⟨"stages", .dicts, none⟩,
    ⟨"files", .publicFiles, none⟩]

/-- `WebBundle.model_validate`, dumped again. -/
def WebBundle.modelValidate (payload : Json) : Except Error Json :=
  validateModel validateField webBundle payload

end

-- ---------------------------------------------------------------------------
-- The directory
-- ---------------------------------------------------------------------------

/-- What the validator reads of a file: its hash, its lines and its JSON, where
an object has no key twice. -/
class PublicText (T : Type) where
  sha256 : T → String
  splitlines : T → Option (List String)
  loads : T → Option Json
  loads_unique : ∀ t j, loads t = some j → j.unique = true

structure BundleDir (T : Type) where
  directory : Option (Directory T)
  symlink : Bool

def bundleFile : String := "bundle.json"

def manifestFile : String := "manifest.json"

def checksumFile : String := "SHA256SUMS"

def expectedFiles : List String := [bundleFile, manifestFile, checksumFile]

/-- `_regular`, and the file's content. -/
def regular (directory : Directory T) (name context : String) : Except Error T :=
  match directory.entries.lookup name with
  | some (.file text) => .ok text
  | some _ => .error (.webReadinessError (context ++ " is not a regular file: " ++ name))
  | none => .error (.webReadinessError ("cannot inspect " ++ context ++ ": " ++ name))

section
variable {T : Type} [PublicText T] [Pydantic] [CaseText]

/-- `validate_bundle`: the bundle as its model dumps it. -/
def validateBundle (bundleDir : BundleDir T) : Except Error Json := do
  raiseIf (bundleDir.symlink = true) (.webReadinessError "bundle directory must be a regular directory")
  let directory ← need bundleDir.directory
    (.webReadinessError "bundle directory must be a regular directory")
  let observed := directory.entries.map Prod.fst
  raiseIf (¬ ((∀ name ∈ observed, name ∈ expectedFiles) ∧ ∀ name ∈ expectedFiles, name ∈ observed))
    (.webReadinessError "bundle directory is not closed-world")
  let bundleText ← regular directory bundleFile "bundle entry"
  let manifestText ← regular directory manifestFile "bundle entry"
  let checksumText ← regular directory checksumFile "bundle entry"
  let checksums ← need (PublicText.splitlines checksumText) .decodeError
  raiseIf (checksums ≠ [PublicText.sha256 bundleText ++ "  " ++ bundleFile,
      PublicText.sha256 manifestText ++ "  " ++ manifestFile])
    (.webReadinessError "bundle checksum file is invalid")
  let payload ← need (PublicText.loads bundleText) .decodeError
  let bundle ← WebBundle.modelValidate payload
  let _ ← safePublic "bundle" bundle
  let manifest ← need (PublicText.loads manifestText) .decodeError
  match manifest with
  | .obj fields =>
    raiseIf (fields.lookup "bundle_sha256" ≠ some (.str (PublicText.sha256 bundleText)))
      (.webReadinessError "bundle manifest does not bind bundle bytes")
    return bundle
  | _ => .error .attributeError

end

end Paic.WebReadiness
