import Paic.JsonCode
import Paic.Remediation.ApprovalChain

/-!
# Ledgers in a file

Approval records written as JSON that reads back.
-/

namespace Paic.LedgerSample

open Lines (OneLine)
open Remediation (ApprovalLedgerRecord ApprovalDecision ApprovalAttestation Decision)

def packAttestation (a : ApprovalAttestation) : Json :=
  .arr [.str a.keyId, .str a.nonce, .str a.signature]

def unpackAttestation : Json → Option ApprovalAttestation
  | .arr [.str keyId, .str nonce, .str signature] => some { keyId, nonce, signature }
  | _ => none

/-- An approval record as it is written to a file. -/
def pack (r : ApprovalLedgerRecord) : Json :=
  let d := r.decision
  .arr [.int r.sequence, .str r.previousRecordSha256, .str r.decisionSha256, .str r.recordSha256,
    .str d.planSha256, .str d.approverId, .str d.approverGroup, .bool (d.decision = .approve),
    .str d.reason, .int d.decidedAt.instant, .opt .int d.decidedAt.utcoffset,
    .opt packAttestation d.attestation]

def unpackOffset : Json → Option Int
  | .int n => some n
  | _ => none

def unpack : Json → Option ApprovalLedgerRecord
  | .arr [.int sequence, .str previousRecordSha256, .str decisionSha256, .str recordSha256,
      .str planSha256, .str approverId, .str approverGroup, .bool approve, .str reason,
      .int instant, offset, attestation] =>
    some {
      sequence := sequence.toNat
      previousRecordSha256
      decision := {
        planSha256, approverId, approverGroup, reason
        decision := if approve then .approve else .reject
        decidedAt := ⟨instant, unpackOffset offset⟩
        attestation := unpackAttestation attestation }
      decisionSha256
      recordSha256 }
  | _ => none

theorem unpack_pack (r : ApprovalLedgerRecord) : unpack (pack r) = some r := by
  obtain ⟨sequence, previous, ⟨plan, approver, group, verdict, reason, ⟨instant, offset⟩, att⟩,
    dsha, rsha⟩ := r
  have hoffset : unpackOffset (.opt .int offset) = offset := by cases offset <;> rfl
  have hattestation : unpackAttestation (.opt packAttestation att) = att := by cases att <;> rfl
  have hverdict : (if verdict = .approve then Decision.approve else .reject) = verdict := by
    cases verdict <;> rfl
  simp [unpack, pack, hoffset, hattestation, hverdict]

@[reducible] def recordCodec : TextCodec String ApprovalLedgerRecord :=
  Platform.codec (fun r => JsonCode.writes (pack r)) (fun s => (JsonCode.reads s).bind unpack)
    fun r => by rw [JsonCode.reads_writes]; exact unpack_pack r

attribute [local instance] recordCodec

theorem recordCodec_line (r : ApprovalLedgerRecord) :
    OneLine (TextCodec.dump (T := String) r).toList := JsonCode.numeral_line

end Paic.LedgerSample
