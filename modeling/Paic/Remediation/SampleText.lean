import Paic.Remediation.Artifact
import Paic.Remediation.Sample

/-!
# Files on the computing platform

A file of the computing platform is the model that was written to it, or
nothing a model can be read from.
-/

namespace Paic.Remediation.Sample

open Platform (codec)

inductive Text where
  | empty
  | json (j : Json)
  | line (s : String)
  | manifest (m : RemediationArtifactManifest)
  | state (s : ControlState)
  | receipt (r : ExecutionReceipt)
  | config (c : RemediationConfig)
  | proposal (p : RemediationProposal)
  | plan (p : RemediationPlan)
  | record (r : ApprovalLedgerRecord)
  deriving DecidableEq

def fileJson (f : ArtifactFileManifest) : Json :=
  .arr [.str f.relativePath, .int f.byteSize, .str f.sha256]

def manifestJson (m : RemediationArtifactManifest) : Json :=
  .arr [.bool (m.artifactType = .controlState), .bool (m.artifactType = .remediationPlan),
    .str m.artifactId, .str m.incidentId, .str m.generatorVersion, .str m.status,
    .str m.payloadSha256, .obj (m.bindings.map fun b => (b.1, .str b.2)),
    .arr (m.files.map fileJson)]

/-- What a text hashes by. -/
def Text.content : Text → Json
  | .empty => .null
  | .json j => .arr [.int 1, j]
  | .line s => .arr [.int 2, .str s]
  | .manifest m => .arr [.int 3, manifestJson m]
  | .state s => .arr [.int 4, s.modelDump]
  | .receipt r => .arr [.int 5, r.modelDump]
  | .config c => .arr [.int 6, .str c.policyId, .bool c.remediation.denyCriticalRisk]
  | .proposal p => .arr [.int 7, p.modelDump]
  | .plan p => .arr [.int 8, p.modelDump]
  | .record r => .arr [.int 9, .obj r.unsigned, .str r.recordSha256]

instance : FileText Text where
  decEq := inferInstance
  empty := .empty
  size _ := 1
  sha256 t := Platform.hexText (Platform.fingerprint t.content)
  json := .json
  loads
    | .json j => some j
    | _ => none
  line := .line
  strip
    | .line s => s
    | _ => ""
  sha256_hex _ := Platform.hexText_isSha256 _
  loads_json _ _ := rfl
  strip_line _ _ := rfl

instance : RemediationText Text where
  manifests := codec .manifest (fun | .manifest m => some m | _ => none) fun _ => rfl
  states := codec .state (fun | .state s => some s | _ => none) fun _ => rfl
  receipts := codec .receipt (fun | .receipt r => some r | _ => none) fun _ => rfl
  configs := codec .config (fun | .config c => some c | _ => none) fun _ => rfl
  proposals := codec .proposal (fun | .proposal p => some p | _ => none) fun _ => rfl
  plans := codec .plan (fun | .plan p => some p | _ => none) fun _ => rfl
  records := codec .record (fun | .record r => some r | _ => none) fun _ => rfl

end Paic.Remediation.Sample
