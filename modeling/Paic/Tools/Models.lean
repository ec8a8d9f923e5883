import Paic.Json
import Paic.Lib.Checks
import Mathlib

/-!
# Models of governed tool calls

The wire models of the tool gateway. `ToolError` is the one model with bounds
on its texts: building one may raise.
-/

namespace Paic.Tools

open Checks (raiseIf)

/-- The exceptions of a call, with their texts. `valueError` stands for
pydantic's `ValidationError` too; `other` is any exception that is none of
those the gateway catches. -/
inductive Error where
  | bindingError (message : String)
  | gatewayError (message : String)
  | sqlPolicyError (message : String)
  | osError (message : String)
  | valueError (message : String)
  | other (message : String)
  deriving DecidableEq, Repr

/-- `str(exc)` -/
def Error.message : Error → String
  | .bindingError m | .gatewayError m | .sqlPolicyError m | .osError m | .valueError m
  | .other m => m

/-- `except (BindingError, GatewayError, SQLPolicyError, OSError, ValueError)` -/
def Error.caught : Error → Bool
  | .other _ => false
  | _ => true

/-- What Python's `str` methods and regular expressions say of characters
beyond ASCII. -/
class UnicodeText where
  lower : String → String
  isDecimal : Char → Bool
  isSpace : Char → Bool
  isDecimal_ascii : ∀ c, c.toNat < 128 → isDecimal c = c.isDigit

export UnicodeText (lower isDecimal isSpace)

/-- `^\d+\.\d+$` -/
def isVersion [UnicodeText] (s : String) : Bool :=
  match s.toList.span isDecimal with
  | (major, '.' :: minor) => !major.isEmpty && !minor.isEmpty && minor.all isDecimal
  | _ => false

inductive Role where
  | observer | investigator | approver
  deriving DecidableEq, Repr

def Role.text : Role → String
  | .observer => "observer"
  | .investigator => "investigator"
  | .approver => "approver"

/-- An object of arguments. -/
abbrev Arguments := List (String × Json)

structure ToolRequest where
  tool : String
  toolVersion : String
  incidentId : String
  role : Role
  arguments : Arguments
  datasetDir : String
  analyticsDir : Option String
  detectionDir : Option String
  impactDir : Option String
  evidenceDir : Option String
  auditDir : Option String
  callId : Option String
  deriving DecidableEq, Repr

@[mk_iff]
structure ToolRequest.Valid [UnicodeText] (r : ToolRequest) : Prop where
  tool : 1 ≤ r.tool.length ∧ r.tool.length ≤ 80
  toolVersion : isVersion r.toolVersion = true
  incidentId : 1 ≤ r.incidentId.length ∧ r.incidentId.length ≤ 200
  datasetDir : 1 ≤ r.datasetDir.length

instance [UnicodeText] (r : ToolRequest) : Decidable r.Valid :=
  decidable_of_iff' _ (ToolRequest.valid_iff r)

def ToolRequest.modelDump (r : ToolRequest) : Json :=
  .obj [("tool", .str r.tool), ("tool_version", .str r.toolVersion),
    ("incident_id", .str r.incidentId), ("role", .str r.role.text), ("arguments", .obj r.arguments),
    ("dataset_dir", .str r.datasetDir), ("analytics_dir", .opt .str r.analyticsDir),
    ("detection_dir", .opt .str r.detectionDir), ("impact_dir", .opt .str r.impactDir),
    ("evidence_dir", .opt .str r.evidenceDir), ("audit_dir", .opt .str r.auditDir),
    ("call_id", .opt .str r.callId)]

structure ToolError where
  code : String
  message : String
  deriving DecidableEq, Repr

@[mk_iff]
structure ToolError.Valid (e : ToolError) : Prop where
  code : 1 ≤ e.code.length ∧ e.code.length ≤ 80
  message : 1 ≤ e.message.length ∧ e.message.length ≤ 1000

instance (e : ToolError) : Decidable e.Valid := decidable_of_iff' _ (ToolError.valid_iff e)

/-- `ToolError(code=code, message=message)` -/
def toolError (code message : String) : Except Error ToolError := do
  let error := { code, message }
  raiseIf (¬ ToolError.Valid error) (.valueError "validation error for ToolError")
  pure error

def ToolError.modelDump (e : ToolError) : Json :=
  .obj [("code", .str e.code), ("message", .str e.message)]

inductive PolicyOutcome where
  | allow | deny
  deriving DecidableEq, Repr

def PolicyOutcome.text : PolicyOutcome → String
  | .allow => "allow"
  | .deny => "deny"

inductive ExecutionStatus where
  | success | error
  deriving DecidableEq, Repr

def ExecutionStatus.text : ExecutionStatus → String
  | .success => "success"
  | .error => "error"

/-- Manifest hashes by the kind of their artifact. -/
abbrev SourceHashes := List (String × String)

def SourceHashes.modelDump (hashes : SourceHashes) : Json :=
  .obj (hashes.map fun h => (h.1, .str h.2))

structure ToolResponse where
  callId : String
  incidentId : String
  tool : String
  toolVersion : String
  policyDecision : PolicyOutcome
  executionStatus : ExecutionStatus
  sourceManifestHashes : SourceHashes
  rowCount : Nat
  byteCount : Nat
  truncated : Bool
  evidenceRecordIds : List String
  normalizedArguments : Arguments
  result : Json
  resultSha256 : String
  error : Option ToolError
  deriving DecidableEq, Repr

/-- The response without its result, as the ledger keeps it. -/
def ToolResponse.receipt (r : ToolResponse) : List (String × Json) :=
  [("call_id", .str r.callId), ("incident_id", .str r.incidentId), ("tool", .str r.tool),
    ("tool_version", .str r.toolVersion), ("policy_decision", .str r.policyDecision.text),
    ("execution_status", .str r.executionStatus.text),
    ("source_manifest_hashes", SourceHashes.modelDump r.sourceManifestHashes),
    ("row_count", .int r.rowCount), ("byte_count", .int r.byteCount),
    ("truncated", .bool r.truncated), ("evidence_record_ids", .strs r.evidenceRecordIds),
    ("normalized_arguments", .obj r.normalizedArguments), ("result_sha256", .str r.resultSha256),
    ("error", .opt ToolError.modelDump r.error)]

def ToolResponse.modelDump (r : ToolResponse) : Json := .obj (("result", r.result) :: r.receipt)

theorem toolError_ok : toolError code message = .ok e ↔
    e = { code, message } ∧ ToolError.Valid { code, message } := by
  simp only [toolError, Checks.bind_eq_ok, Checks.raiseIf_ok, Checks.pure_eq_ok, not_not,
    exists_and_left, exists_const]
  exact ⟨fun ⟨hv, he⟩ => ⟨he.symm, hv⟩, fun ⟨he, hv⟩ => ⟨hv, he.symm⟩⟩

end Paic.Tools
