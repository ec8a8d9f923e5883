import Paic.Tools.Models
import Mathlib

/-!
# The audit ledger

One line of JSON for every call, chained by hashes. `append` validates the
whole file before it adds a line. A file is read here as lines that a line
break ends, and what stands after the last of them.
-/

namespace Paic.Tools

open Checks (raiseIf need)

/-- How `json.loads` fails: a text that is no JSON, or a `ValueError` of
another kind, as of a number with too many digits. -/
inductive LoadError where
  | decodeError
  | valueError (message : String)
  deriving DecidableEq, Repr

/-- `json.loads` and `str` of a value that is no text. -/
class JsonText where
  loads : String → Except LoadError Json
  repr : Json → String

export JsonText (loads)

/-- `str(value)` -/
def pyStr [JsonText] : Json → String
  | .str s => s
  | value => JsonText.repr value

-- ---------------------------------------------------------------------------
-- Redaction
-- ---------------------------------------------------------------------------

section
variable [UnicodeText]

/-- `[^\s'"\\]` -/
def isPathChar (c : Char) : Bool := !isSpace c && c ≠ '\'' && c ≠ '"' && c ≠ '\\'

/-- The length of a `/[^\s'"\\]+` at the start. -/
def slashLength : List Char → Nat
  | '/' :: cs =>
    let n := (cs.takeWhile isPathChar).length
    if n = 0 then 0 else n + 1
  | _ => 0

/-- The length of a `[A-Za-z]:\\[^\s'"\\]+` at the start. -/
def driveLength : List Char → Nat
  | c :: ':' :: '\\' :: cs =>
    let n := (cs.takeWhile isPathChar).length
    if c.isAlpha = false ∨ n = 0 then 0 else n + 3
  | _ => 0

/-- The length of the `_PATH_VALUE` at the start, or 0. -/
def pathLength (cs : List Char) : Nat :=
  let file := match cs with
    | 'f' :: 'i' :: 'l' :: 'e' :: ':' :: rest =>
      if slashLength rest = 0 then 0 else slashLength rest + 5
    | _ => 0
  if file ≠ 0 then file
  else if slashLength cs ≠ 0 then slashLength cs
  else driveLength cs

/-- `_PATH_VALUE.sub("[PATH_REDACTED]", value)`, after `skip` characters. -/
def redactChars (skip : Nat) : List Char → List Char
  | [] => []
  | c :: cs => match skip with
    | n + 1 => redactChars n cs
    | 0 => match pathLength (c :: cs) with
      | 0 => c :: redactChars 0 cs
      | n + 1 => "[PATH_REDACTED]".toList ++ redactChars n cs

def pathFields : List String :=
  ["dataset_dir", "analytics_dir", "detection_dir", "impact_dir", "evidence_dir", "audit_dir"]

def secretMarkers : List String := ["api_key", "token", "secret", "password", "authorization"]

/-- `marker in text` -/
def contains (text marker : String) : Bool :=
  text.toList.tails.any fun rest => marker.toList.isPrefixOf rest

/-- A key whose value is left out. -/
def isPathKey (key : String) : Bool :=
  lower key ∈ pathFields || lower key = "path" || "_path".toList.isSuffixOf (lower key).toList

def isSecretKey (key : String) : Bool := secretMarkers.any (contains (lower key))

mutual
/-- `_redact` -/
def redact : Json → Json
  | .obj fields => .obj (redactFields fields)
  | .arr items => .arr (redactItems items)
  | .str s => .str (String.ofList (redactChars 0 s.toList))
  | value => value

def redactItems : List Json → List Json
  | [] => []
  | j :: rest => redact j :: redactItems rest

def redactFields : List (String × Json) → List (String × Json)
  | [] => []
  | (key, j) :: rest =>
    if isPathKey key then redactFields rest
    else if isSecretKey key then (key, .str "[REDACTED]") :: redactFields rest
    else (key, redact j) :: redactFields rest
end

end

-- ---------------------------------------------------------------------------
-- Python's equality
-- ---------------------------------------------------------------------------

/-- Puts a field among fields in the order of their keys. -/
def insertField (field : String × Json) : List (String × Json) → List (String × Json)
  | [] => [field]
  | other :: rest =>
    if field.1 ≤ other.1 then field :: other :: rest else other :: insertField field rest

mutual
/-- What `==` sees of a value: numbers and booleans by what they count, objects
without the order of their keys. -/
def plain : Json → Json
  | .bool b => .float (if b then 1 else 0)
  | .int n => .float n
  | .arr items => .arr (plainItems items)
  | .obj fields => .obj (plainFields fields)
  | value => value

def plainItems : List Json → List Json
  | [] => []
  | j :: rest => plain j :: plainItems rest

def plainFields : List (String × Json) → List (String × Json)
  | [] => []
  | (key, j) :: rest => insertField (key, plain j) (plainFields rest)
end

/-- `a == b` -/
def Equal (a b : Json) : Prop := plain a = plain b

instance (a b : Json) : Decidable (Equal a b) := by unfold Equal; infer_instance

theorem Equal.refl (a : Json) : Equal a a := rfl

theorem plainFields_eq : plainFields fields =
    (fields.map fun field => (field.1, plain field.2)).insertionSort fun a b => a.1 ≤ b.1 := by
  have hinsert : ∀ (field : String × Json) rest,
      insertField field rest = rest.orderedInsert (fun a b => a.1 ≤ b.1) field := by
    intro field rest
    induction rest with
    | nil => rfl
    | cons other rest ih => rw [insertField, List.orderedInsert, ih]
  induction fields with
  | nil => rfl
  | cons field rest ih =>
    rw [plainFields, ih, hinsert]
    rfl

/-- The order of an object's keys does not matter. -/
theorem Equal.obj_perm (h : fields.Perm fields') (hkeys : (fields.map Prod.fst).Nodup) :
    Equal (.obj fields) (.obj fields') := by
  have hperm := h.map fun field : String × Json => (field.1, plain field.2)
  have hsorted := ((List.perm_insertionSort (fun a b => a.1 ≤ b.1) _).trans hperm).trans
    (List.perm_insertionSort (fun a b : String × Json => a.1 ≤ b.1) _).symm
  rw [Equal, plain, plain, plainFields_eq, plainFields_eq]
  refine congrArg Json.obj (hsorted.eq_of_pairwise ?_ (List.pairwise_insertionSort _ _)
    (List.pairwise_insertionSort _ _))
  intro a b ha hb hab hba
  have hkeys' : ((fields.map fun field => (field.1, plain field.2)).map Prod.fst).Nodup := by
    simpa [Function.comp_def] using hkeys
  have ha := (List.perm_insertionSort _ _).mem_iff.mp ha
  have hb := hperm.mem_iff.mpr ((List.perm_insertionSort _ _).mem_iff.mp hb)
  exact List.inj_on_of_nodup_map hkeys' ha hb (String.le_antisymm hab hba)

-- ---------------------------------------------------------------------------
-- The ledger's directory
-- ---------------------------------------------------------------------------

inductive Root where
  | absent | directory | other
  deriving DecidableEq, Repr

/-- The directory of a ledger. `regular` says that `invocations.jsonl` and
`.ledger.lock` are regular files, or absent. -/
structure AuditLedger where
  root : Root
  regular : Bool
  lines : List String
  tail : String
  deriving DecidableEq, Repr

/-- `AuditLedger(directory)` -/
def openLedger (ledger : AuditLedger) : Except Error AuditLedger := do
  raiseIf (ledger.root = .other)
    (.valueError "audit ledger root must be a regular non-symlink directory")
  pure { ledger with root := .directory }

namespace AuditLedger

/-- `read_text().splitlines()` -/
def readLines (ledger : AuditLedger) : List String :=
  ledger.lines ++ if ledger.tail = "" then [] else [ledger.tail]

/-- Writes a line at the end of the file. -/
def write (ledger : AuditLedger) (line : String) : AuditLedger :=
  { ledger with lines := ledger.lines ++ [ledger.tail ++ line], tail := "" }

def ensureRegularFiles (ledger : AuditLedger) : Except Error Unit :=
  raiseIf (ledger.regular = false)
    (.valueError "audit ledger paths must be regular non-symlink files")

section
variable [Hashing] [JsonText]

/-- `record.get(key)` -/
def get (record : List (String × Json)) (key : String) : Json :=
  (record.lookup key).getD .null

/-- The record in a line. -/
def loadRecord (line : String) : Except Error (List (String × Json)) :=
  match loads line with
  | .ok (.obj fields) => .ok fields
  | .ok _ => .error (.valueError "audit ledger record must be an object")
  | .error .decodeError => .error (.valueError "audit ledger contains invalid JSON")
  | .error (.valueError m) => .error (.valueError m)

/-- The hash that a record says it has. -/
def suppliedHash (seen : List String) (record : List (String × Json)) : Except Error String :=
  let invalid := Error.valueError "audit ledger record hash is invalid or duplicated"
  match get record "record_sha256" with
  | .str supplied => if supplied ∈ seen then .error invalid else .ok supplied
  | _ => .error invalid

def receiptOf (record : List (String × Json)) : Except Error (List (String × Json)) :=
  match get record "response_receipt" with
  | .obj fields => .ok fields
  | _ => .error (.valueError "audit ledger response receipt is invalid")

/-- What the validation of the lines carries along. -/
structure Walk where
  expected : Nat
  previous : String
  seen : List String

/-- The validation of one line. -/
def checkLine (walk : Walk) (line : String) : Except Error Walk := do
  let record ← loadRecord line
  let supplied ← suppliedHash walk.seen record
  raiseIf (¬ Equal (get record "sequence") (.int walk.expected) ∨
      ¬ Equal (get record "previous_record_sha256") (.str walk.previous))
    (.valueError "audit ledger sequence or chain is invalid")
  raiseIf (¬ Equal (get record "request_sha256") (.str (digest (get record "request"))))
    (.valueError "audit ledger request hash is invalid")
  raiseIf (¬ Equal (get record "response_receipt_sha256")
      (.str (digest (get record "response_receipt"))))
    (.valueError "audit ledger response receipt hash is invalid")
  let receipt ← receiptOf record
  raiseIf (¬ Equal (get record "result_sha256") (get receipt "result_sha256"))
    (.valueError "audit ledger result hash is inconsistent with response receipt")
  raiseIf (supplied ≠ digest (.obj (record.filter (·.1 ≠ "record_sha256"))))
    (.valueError "audit ledger record hash is invalid")
  pure ⟨walk.expected + 1, supplied, walk.seen ++ [supplied]⟩

def validate (ledger : AuditLedger) : Except Error Walk := do
  ledger.ensureRegularFiles
  Checks.loop checkLine ⟨1, zeroHash, []⟩ ledger.readLines

end

end AuditLedger

-- ---------------------------------------------------------------------------
-- Appending
-- ---------------------------------------------------------------------------

/-- A record of the ledger. -/
structure AuditRecord where
  sequence : Nat
  previousRecordSha256 : String
  request : Json
  responseReceipt : Json
  resultSha256 : String
  policyOutcome : PolicyOutcome
  sourceManifestHashes : SourceHashes
  callId : String
  tool : String
  deriving DecidableEq, Repr

section
variable [Hashing]

/-- `dict(sorted(sources.items()))` -/
def sortedSources (sources : SourceHashes) : SourceHashes :=
  sources.insertionSort fun a b => a.1 ≤ b.1

/-- The record without its own hash. -/
def AuditRecord.unsigned (r : AuditRecord) : List (String × Json) :=
  [("sequence", .int r.sequence), ("previous_record_sha256", .str r.previousRecordSha256),
    ("request", r.request), ("request_sha256", .str (digest r.request)),
    ("response_receipt", r.responseReceipt),
    ("response_receipt_sha256", .str (digest r.responseReceipt)),
    ("result_sha256", .str r.resultSha256), ("policy_outcome", .str r.policyOutcome.text),
    ("source_manifest_hashes", SourceHashes.modelDump r.sourceManifestHashes),
    ("call_id", .str r.callId), ("tool", .str r.tool)]

/-- The record as it is written. -/
def AuditRecord.modelDump (r : AuditRecord) : Json :=
  .obj (r.unsigned ++ [("record_sha256", .str (digest (.obj r.unsigned)))])

variable [JsonText] [UnicodeText]

/-- `json.loads(records[-1])["record_sha256"] if records else "0" * 64` -/
def previousHash (records : List String) : Except Error String :=
  match records.getLast? with
  | none => .ok zeroHash
  | some line => match loads line with
    | .ok (.obj record) => match record.lookup "record_sha256" with
      | some (.str sha256) => .ok sha256
      | _ => .error (.other "record_sha256")
    | .ok _ => .error (.other "record is no object")
    | .error _ => .error (.valueError "audit ledger contains invalid JSON")

/-- The record that `append` writes. -/
def auditRecord (records : List String) (previous : String) (request : ToolRequest)
    (response : ToolResponse) (policy : PolicyOutcome) (sources : SourceHashes) : AuditRecord :=
  { sequence := records.length + 1
    previousRecordSha256 := previous
    request := redact request.modelDump
    responseReceipt := redact (.obj response.receipt)
    resultSha256 := response.resultSha256
    policyOutcome := policy
    sourceManifestHashes := sortedSources sources
    callId := response.callId
    tool := response.tool }

/-- `append` -/
def AuditLedger.append (ledger : AuditLedger) (request : ToolRequest) (response : ToolResponse)
    (policy : PolicyOutcome) (sources : SourceHashes) :
    Except Error (AuditRecord × AuditLedger) := do
  ledger.ensureRegularFiles
  let _ ← ledger.validate
  let records := ledger.readLines
  let previous ← previousHash records
  let record := auditRecord records previous request response policy sources
  pure (record, ledger.write (canonical record.modelDump))

end

end Paic.Tools
