import Paic.Tools.Catalogue
import Paic.Tools.Ledger

/-!
# The governed tool gateway

`invoke` answers one request: the policy decides, the sources are bound, the
tool runs, the sources are bound again, and the answer is recorded. Binding
and running are parameters: they read artifacts that are no part of this.
-/

namespace Paic.Tools

open Checks (raiseIf)

/-- `bind_sources` returns the hashes of the artifacts it bound, each a
`file_sha256` under the kind of its artifact. -/
structure BoundSources where
  hashes : SourceHashes
  kinds : (hashes.map Prod.fst).Nodup
  hex : ∀ h ∈ hashes, isSha256 h.2 = true
  deriving DecidableEq

/-- What binding the sources and running a tool do on one call. `rebind` is
the second `bind_sources`. -/
structure Tooling where
  bind : ToolRequest → Except Error BoundSources
  run : ToolRequest → BoundSources → Arguments → Except Error (Json × Bool)
  rebind : ToolRequest → Except Error BoundSources

/-- `uuid5(NAMESPACE_URL, text)`, and `UUID(text)`, both as texts. -/
class Uuids where
  uuid5 : String → String
  parse : String → Option String
  parse_uuid5 : ∀ s, parse (uuid5 s) = some (uuid5 s)

export Uuids (uuid5)

-- ---------------------------------------------------------------------------
-- Evidence references
-- ---------------------------------------------------------------------------

mutual
def jsonSize : Json → Nat
  | .arr items => 1 + itemsSize items
  | .obj fields => 1 + fieldsSize fields
  | _ => 1

def itemsSize : List Json → Nat
  | [] => 0
  | j :: rest => jsonSize j + itemsSize rest

def fieldsSize : List (String × Json) → Nat
  | [] => 0
  | (_, j) :: rest => jsonSize j + fieldsSize rest
end

/-- The values inside a value, in order. -/
def children : Json → List Json
  | .obj fields => fields.map Prod.snd
  | .arr items => items
  | _ => []

theorem itemsSize_append : itemsSize (xs ++ ys) = itemsSize xs + itemsSize ys := by
  induction xs with
  | nil => simp [itemsSize]
  | cons x xs ih => simp only [List.cons_append, itemsSize, ih]; omega

theorem itemsSize_values : itemsSize (fields.map Prod.snd) = fieldsSize fields := by
  induction fields with
  | nil => rfl
  | cons field rest ih => obtain ⟨key, j⟩ := field; simp [itemsSize, fieldsSize, ih]

theorem itemsSize_children (j : Json) : itemsSize (children j) < jsonSize j := by
  cases j <;> simp [children, jsonSize, itemsSize, itemsSize_values]

section
variable [JsonText]

/-- The references of an `evidence_record_ids_json` field. -/
def parsedRefs (raw : String) : Except Error (List String) :=
  match loads raw with
  | .ok (.arr items) => .ok (items.map pyStr)
  | .ok _ => .ok []
  | .error .decodeError => .ok []
  | .error (.valueError m) => .error (.valueError m)

def rawRefs (fields : List (String × Json)) : Except Error (List String) :=
  match fields.lookup "evidence_record_ids_json" with
  | some (.str raw) => parsedRefs raw
  | _ => .ok []

/-- The references an object makes itself. -/
def directRefs : Json → Except Error (List String)
  | .obj fields =>
    let direct := match fields.lookup "evidence_record_id" with
      | some (.str s) => [s]
      | _ => []
    let many := match fields.lookup "evidence_record_ids" with
      | some (.arr items) => items.map pyStr
      | _ => []
    (rawRefs fields).map fun raw => direct ++ many ++ raw
  | _ => .ok []

/-- The loop of `_evidence_refs`, with the values that are still queued. -/
def collectRefs (refs : List String) : List Json → Except Error (List String)
  | [] => .ok refs
  | item :: queue => do
    let found ← directRefs item
    collectRefs (refs ++ found) (queue ++ children item)
termination_by queue => itemsSize queue
decreasing_by
  have h := itemsSize_children item
  simp only [itemsSize_append, itemsSize]
  omega

/-- `sorted` of a set of texts -/
def sortedSet (texts : List String) : List String := texts.dedup.insertionSort (· ≤ ·)

/-- `_evidence_refs` -/
def evidenceRefs (value : Json) : Except Error (List String) :=
  (collectRefs [] [value]).map sortedSet

end

-- ---------------------------------------------------------------------------
-- Invocation
-- ---------------------------------------------------------------------------

variable [Hashing] [JsonText] [UnicodeText] [Pydantic] [Uuids]

/-- `req.call_id or uuid5(...)` -/
def callIdOf (req : ToolRequest) : String :=
  req.callId.getD (uuid5 (canonical req.modelDump))

/-- The response before anything ran. -/
def baseResponse (req : ToolRequest) (decision : PolicyDecision) : ToolResponse :=
  { callId := callIdOf req
    incidentId := req.incidentId
    tool := req.tool
    toolVersion := req.toolVersion
    policyDecision := if decision.allowed then .allow else .deny
    executionStatus := .error
    sourceManifestHashes := []
    rowCount := 0
    byteCount := 0
    truncated := false
    evidenceRecordIds := []
    normalizedArguments := decision.normalizedArguments
    result := .null
    resultSha256 := digest .null
    error := none }

/-- What a tool that ran answers with. -/
structure Executed where
  bound : BoundSources
  result : Json
  truncated : Bool
  refs : List String

/-- The body of the `try` of `invoke`: source binding and tool execution. -/
def execute (tooling : Tooling) (req : ToolRequest) (arguments : Arguments) :
    Except Error Executed := do
  let bound ← tooling.bind req
  let (result, truncated) ← tooling.run req bound arguments
  let rebound ← tooling.rebind req
  raiseIf (¬ Equal (SourceHashes.modelDump rebound.hashes) (SourceHashes.modelDump bound.hashes))
    (.gatewayError "source artifacts changed during tool invocation")
  let refs ← evidenceRefs result
  pure { bound, result, truncated, refs }

/-- The length of a list, and 1 for anything else. -/
def rowCountOf : Json → Nat
  | .arr items => items.length
  | _ => 1

def succeeded (base : ToolResponse) (done : Executed) : ToolResponse :=
  { base with
    executionStatus := .success
    sourceManifestHashes := done.bound.hashes
    rowCount := rowCountOf done.result
    byteCount := (canonical done.result).utf8ByteSize
    truncated := done.truncated
    evidenceRecordIds := done.refs
    result := done.result
    resultSha256 := digest done.result }

/-- `ToolError(...)` set in the response. -/
def failed (base : ToolResponse) (code message : String) : Except Error ToolResponse := do
  let error ← toolError code message
  pure { base with error := some error }

/-- The response to a request. -/
def respond (tooling : Tooling) (req : ToolRequest) : Except Error ToolResponse :=
  let decision := authorize req.role.text req.tool req.toolVersion req.arguments
  let base := baseResponse req decision
  if decision.allowed = false then failed base decision.code decision.reason
  else match execute tooling req decision.normalizedArguments with
    | .ok done => .ok (succeeded base done)
    | .error e => if e.caught then failed base "request_rejected" e.message else .error e

/-- `if req.audit_dir` -/
def ToolRequest.audits (req : ToolRequest) : Bool := req.auditDir.any (· ≠ "")

/-- `Gateway.invoke`, with the ledger of the request's `audit_dir`. -/
def invoke (tooling : Tooling) (ledger : AuditLedger) (req : ToolRequest) :
    Except Error ToolResponse × AuditLedger :=
  if req.audits then
    match openLedger ledger with
    | .error e => (.error e, ledger)
    | .ok ledger =>
      match respond tooling req with
      | .error e => (.error e, ledger)
      | .ok response =>
        let allowed := (authorize req.role.text req.tool req.toolVersion req.arguments).allowed
        let recorded := if allowed then
            ledger.append req response .allow response.sourceManifestHashes
          else ledger.append req response .deny []
        match recorded with
        | .error e => (.error e, ledger)
        | .ok (_, ledger') => (.ok response, ledger')
  else (respond tooling req, ledger)

end Paic.Tools
