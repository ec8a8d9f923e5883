import Paic.Tools.Models

/-!
# The tool catalogue and the policy

The argument schemas of the tools, and what each role may call with them. A
schema is data here: `ArgsModel.modelValidate` reads an object of arguments by
it, as pydantic does.
-/

namespace Paic.Tools

/-- What pydantic makes of a value that is not of the field's type, and the
text of the error that a model of that name raises. -/
class Pydantic where
  laxInt : Json → Option Int
  laxBool : Json → Option Bool
  validationText : String → Arguments → String
  laxInt_int : ∀ n, laxInt (.int n) = some n
  laxBool_bool : ∀ b, laxBool (.bool b) = some b

-- ---------------------------------------------------------------------------
-- Argument schemas
-- ---------------------------------------------------------------------------

inductive ArgType where
  | text (low high : Nat)
  | integer (low high : Int)
  | choice (options : List String)
  | boolean
  deriving DecidableEq, Repr

/-- A field of an arguments model. A field without a default is required. -/
structure ArgField where
  name : String
  type : ArgType
  nullable : Bool
  default : Option Json
  deriving DecidableEq, Repr

/-- `requireSelector` marks the model with the validator of that name. -/
structure ArgsModel where
  name : String
  fields : List ArgField
  requireSelector : Bool
  deriving DecidableEq, Repr

def required (name : String) (type : ArgType) : ArgField := ⟨name, type, false, none⟩

def defaulted (name : String) (type : ArgType) (value : Json) : ArgField :=
  ⟨name, type, false, some value⟩

/-- `T | None`, with the default `None` -/
def optional (name : String) (type : ArgType) : ArgField := ⟨name, type, true, some .null⟩

def sqlQueryArgs : ArgsModel :=
  ⟨"SQLQueryArgs", [required "query" (.text 1 20000), optional "limit" (.integer 1 5000)], false⟩

def searchFields : List ArgField :=
  [defaulted "query" (.text 0 1000) (.str ""), defaulted "limit" (.integer 1 500) (.int 50)]

def searchArgs : ArgsModel := ⟨"SearchArgs", searchFields, false⟩

def lineageTraceArgs : ArgsModel :=
  ⟨"LineageTraceArgs",
    [required "node_id" (.text 1 200),
      defaulted "direction" (.choice ["both", "upstream", "downstream"]) (.str "both"),
      defaulted "depth" (.integer 1 8) (.int 2)], false⟩

def changesListArgs : ArgsModel :=
  ⟨"ChangesListArgs", searchFields ++ [optional "service" (.text 0 200)], false⟩

def runbookGetArgs : ArgsModel :=
  ⟨"RunbookGetArgs",
    [optional "runbook_id" (.text 0 200), defaulted "query" (.text 0 1000) (.str ""),
      defaulted "limit" (.integer 1 100) (.int 20)], true⟩

def historicalSearchArgs : ArgsModel :=
  ⟨"HistoricalSearchArgs",
    searchFields ++ [optional "family" (.text 0 200), optional "service" (.text 0 200)], false⟩

def anomaliesListArgs : ArgsModel :=
  ⟨"AnomaliesListArgs",
    [optional "metric" (.text 0 200),
      optional "severity" (.choice ["low", "medium", "high", "critical"]),
      defaulted "limit" (.integer 1 500) (.int 50)], false⟩

def impactSummaryArgs : ArgsModel :=
  ⟨"ImpactSummaryArgs", [optional "segment" (.text 0 200)], false⟩

def artifactsSummaryArgs : ArgsModel :=
  ⟨"ArtifactsSummaryArgs", [defaulted "include_tables" .boolean (.bool true)], false⟩

/-- `TOOL_ARGUMENT_MODELS` -/
def toolArgumentModels : List (String × ArgsModel) :=
  [("sql.query", sqlQueryArgs), ("evidence.search", searchArgs),
    ("lineage.trace", lineageTraceArgs), ("changes.list", changesListArgs),
    ("runbook.get", runbookGetArgs), ("historical_incidents.search", historicalSearchArgs),
    ("anomalies.list", anomaliesListArgs), ("impact.summary", impactSummaryArgs),
    ("artifacts.summary", artifactsSummaryArgs)]

/-- The names of `TOOLS`. -/
def tools : List String := toolArgumentModels.map Prod.fst

/-- The version of every tool. -/
def toolsVersion : String := "1.0"

/-- `CAPABILITIES` -/
def capabilities : List (String × List String) :=
  [("observer",
      ["evidence.search", "lineage.trace", "changes.list", "runbook.get",
        "historical_incidents.search", "anomalies.list", "impact.summary", "artifacts.summary"]),
    ("investigator", tools), ("approver", tools)]

section
variable [Pydantic]

/-- A value of the field's type, within its bounds. -/
def ArgType.read : ArgType → Json → Option Json
  | .text low high, .str s =>
    if low ≤ s.length ∧ s.length ≤ high then some (.str s) else none
  | .text _ _, _ => none
  | .integer low high, value => do
    let n ← Pydantic.laxInt value
    if low ≤ n ∧ n ≤ high then some (.int n) else none
  | .choice options, .str s => if s ∈ options then some (.str s) else none
  | .choice _, _ => none
  | .boolean, value => (Pydantic.laxBool value).map .bool

/-- The field's value among the arguments. Defaults are not validated. -/
def ArgField.read (field : ArgField) (arguments : Arguments) : Option (String × Json) :=
  match arguments.lookup field.name with
  | none => field.default.map (field.name, ·)
  | some .null => if field.nullable then some (field.name, .null) else none
  | some value => (field.type.read value).map (field.name, ·)

/-- `not value`, for a text or `None` -/
def isEmptyText : Option Json → Bool
  | some (.str s) => s = ""
  | _ => true

/-- `model_validate` -/
def ArgsModel.modelValidate (model : ArgsModel) (arguments : Arguments) : Option Arguments := do
  if ∃ a ∈ arguments, a.1 ∉ model.fields.map ArgField.name then none
  let values ← model.fields.mapM fun field => field.read arguments
  if model.requireSelector = true ∧ isEmptyText (values.lookup "runbook_id") = true ∧
    isEmptyText (values.lookup "query") = true then none
  some values

/-- `model_dump(mode="json", exclude_none=True)` -/
def dumpArguments (values : Arguments) : Arguments := values.filter (·.2 ≠ .null)

-- ---------------------------------------------------------------------------
-- The policy
-- ---------------------------------------------------------------------------

structure PolicyDecision where
  allowed : Bool
  code : String
  reason : String
  normalizedArguments : Arguments
  deriving DecidableEq, Repr

def denied (code reason : String) : PolicyDecision := ⟨false, code, reason, []⟩

def authorize (role tool version : String) (arguments : Arguments) : PolicyDecision :=
  match capabilities.lookup role with
  | none => denied "unknown_role" "role is not registered"
  | some permitted =>
    match toolArgumentModels.lookup tool with
    | none => denied "unknown_tool" "tool is not registered"
    | some model =>
      if tool ∉ permitted then denied "forbidden" "role is not authorized for this tool"
      else if version ≠ toolsVersion then
        denied "unsupported_version" "tool version is not supported"
      else match model.modelValidate arguments with
        | none => denied "invalid_arguments" (Pydantic.validationText model.name arguments)
        | some values => ⟨true, "allowed", "policy permits read-only access", dumpArguments values⟩

end

end Paic.Tools
