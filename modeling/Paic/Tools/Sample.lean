import Paic.Platform
import Paic.Tools.Gateway

/-!
# A gateway on the computing platform

Sources that bind, tools that answer or fail, and requests to them. Texts are
ASCII here, and no text is read as JSON.
-/

namespace Paic.Tools.Sample

open Checks (raiseIf)
open Platform

theorem isDigit_ascii : ∀ c : Char, c.toNat < 128 → c.isDigit = c.isDigit := fun _ _ => rfl

instance : UnicodeText where
  lower s := s.map Char.toLower
  isDecimal := Char.isDigit
  isSpace := Char.isWhitespace
  isDecimal_ascii := isDigit_ascii

instance : JsonText where
  loads _ := .error .decodeError
  repr := canonical

instance : Pydantic where
  laxInt
    | .int n => some n
    | .bool b => some (if b then 1 else 0)
    | .float q => if q.den = 1 then some q.num else none
    | _ => none
  laxBool
    | .bool b => some b
    | _ => none
  validationText name _ := "validation error for " ++ name
  laxInt_int _ := rfl
  laxBool_bool _ := rfl

instance : Uuids where
  uuid5 s := hexText (mixText 15 s)
  parse := some
  parse_uuid5 _ := rfl

def bound : BoundSources where
  hashes := [("dataset", zeroHash)]
  kinds := List.nodup_singleton _
  hex := by simpa using zeroHash_isSha256

/-- Sources that bind, and a tool that finds one record. -/
def answering : Tooling :=
  { bind := fun _ => .ok bound
    run := fun _ _ _ => .ok (.arr [.obj [("evidence_record_id", .str "record")]], false)
    rebind := fun _ => .ok bound }

/-- Sources that bind, and a query on a table that is not there. -/
def unknownTable (name : String) : Tooling :=
  { answering with run := fun _ _ _ => .error (.sqlPolicyError ("unknown table: " ++ name)) }

def request (query : String) (auditDir : Option String) : ToolRequest :=
  { tool := "sql.query"
    toolVersion := "1.0"
    incidentId := "incident"
    role := .investigator
    arguments := [("query", .str query)]
    datasetDir := "dataset"
    analyticsDir := none
    detectionDir := none
    impactDir := none
    evidenceDir := none
    auditDir
    callId := none }

def emptyLedger : AuditLedger := ⟨.absent, true, [], ""⟩

/-- A name of that many letters. -/
def nameOf (length : Nat) : String := String.ofList (List.replicate length 'a')

theorem nameOf_length : (nameOf n).length = n := by
  rw [nameOf, String.length_ofList, List.length_replicate]

/-- The result of `answering`. -/
def found : Json := .arr [.obj [("evidence_record_id", .str "record")]]

theorem evidenceRefs_found : evidenceRefs found = .ok ["record"] := by
  have hrecord : directRefs (.obj [("evidence_record_id", .str "record")]) = .ok ["record"] := by
    have hother : "evidence_record_ids" ≠ "evidence_record_id" := by decide
    have hraw : "evidence_record_ids_json" ≠ "evidence_record_id" := by decide
    simp [directRefs, rawRefs, List.lookup, beq_false_of_ne hother, beq_false_of_ne hraw, Except.map]
  have hrefs : collectRefs [] [found] = .ok ["record"] := by
    rw [collectRefs, show directRefs found = .ok [] from rfl, Checks.ok_bind]
    change collectRefs [] [.obj [("evidence_record_id", .str "record")]] = _
    rw [collectRefs, hrecord, Checks.ok_bind]
    change collectRefs ["record"] [.str "record"] = _
    rw [collectRefs, show directRefs (.str "record") = .ok [] from rfl, Checks.ok_bind]
    change collectRefs ["record"] [] = _
    rw [collectRefs]
  rw [evidenceRefs, hrefs]
  rfl

theorem answering_executes : execute answering req arguments =
    .ok ⟨bound, found, false, ["record"]⟩ := by
  have hsame : ¬ ¬ Equal (SourceHashes.modelDump bound.hashes) (SourceHashes.modelDump bound.hashes) :=
    not_not.mpr (Equal.refl _)
  change (do
    raiseIf (¬ Equal (SourceHashes.modelDump bound.hashes) (SourceHashes.modelDump bound.hashes))
      (.gatewayError "source artifacts changed during tool invocation")
    let refs ← evidenceRefs found
    pure ⟨bound, found, false, refs⟩ : Except Error Executed) = _
  rw [Checks.raiseIf_neg hsame, evidenceRefs_found]
  rfl

end Paic.Tools.Sample
