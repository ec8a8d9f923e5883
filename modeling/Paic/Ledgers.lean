import Paic.LedgerSample

/-!
# Appending to the two ledgers

Both ledgers write a line behind whatever ends the file, and validate lines.
What an append leaves behind is valid when the file ended its last line; a
write that was cut off before the line break validates, and the next append
then lengthens its line.
-/

namespace Paic.Ledgers

open Lines (Ended OneLine)
open Remediation (ApprovalLedger ApprovalLedgerRecord ApprovalDecision ApprovalAttestation Decision)
open Tools (JsonText JsonLaws UnicodeText UnicodeLaws AuditLedger SourceHashes Equal)
open Tools.AuditLedger (Record unsigned appendDicts)

/-- After an append the audit ledger holds the old records and the new one
exactly when the file ended its last line and redaction left the hash of the
result alone; the approval ledger does, with no approver twice, exactly when
the file ended its last line and no approver was in it twice. -/
theorem append_valid_iff [Hashing] [JsonText] [UnicodeText] [JsonLaws] [UnicodeLaws]
    [TextCodec String ApprovalLedgerRecord]
    (hdump : ∀ r : ApprovalLedgerRecord, OneLine (TextCodec.dump (T := String) r).toList) :
    (∀ text records request response policy sources record ledger',
      AuditLedger.Valid (.ofText text) records →
      appendDicts (.ofText text) request response policy sources = .ok (record, ledger') →
      request.unique = true → (Json.obj response).unique = true →
      (sources.map Prod.fst).Nodup →
      CollisionFree (unsigned record :: records.map unsigned) →
      (AuditLedger.Valid ledger' (records ++ [Json.sortedFields record]) ↔
        Ended text.toList ∧ ∀ result, response.lookup "result_sha256" = some result →
          Equal result (Tools.redact result))) ∧
    (∀ text records decision record text',
      (ApprovalLedger.ofText text).validate = .ok records →
      ApprovalLedger.appendText text decision = .ok (record, text') →
      CollisionFree ((records ++ [record]).map fun r => .obj r.unsigned) →
      (((ApprovalLedger.ofText text').validate = .ok (records ++ [record]) ∧
        (records ++ [record]).map ApprovalLedgerRecord.sequence =
          List.range' 1 (records.length + 1) ∧
        ((records ++ [record]).map (·.decision.approverId)).Nodup) ↔
      Ended text.toList ∧ (records.map (·.decision.approverId)).Nodup)) := by
  constructor
  · intro text records request response policy sources record ledger' h happend hrequest hresponse
      hsources hfree
    exact (AuditLedger.appendDicts_valid_iff h happend hrequest hresponse hsources hfree).2
  · intro text records decision record text' h happend hfree
    exact ApprovalLedger.appendText_valid_iff h happend (hdump record) hfree

-- ---------------------------------------------------------------------------
-- Ledgers in a file
-- ---------------------------------------------------------------------------

attribute [local instance] JsonCode.hashing JsonCode.jsonText JsonCode.jsonLaws
  LedgerSample.recordCodec JsonCode.asciiText JsonCode.asciiLaws

/-- A receipt of a call, with a hash in which there is no path. -/
def receipt : Record :=
  [("result_sha256", .str zeroHash), ("call_id", .str "call"), ("tool", .str "tool")]

def firstRecord : Record :=
  let fields := AuditLedger.unsignedFields 1 zeroHash (Tools.redact (.obj []))
    (Tools.redact (.obj receipt)) (.str zeroHash) (.str "call") (.str "tool") "allow" []
  fields ++ [("record_sha256", .str (digest (.obj fields)))]

theorem empty_valid : AuditLedger.Valid (.ofText "") [] :=
  ⟨rfl, .nil, nofun, trivial, List.nodup_nil⟩

theorem append_firstRecord : appendDicts (.ofText "") (.obj []) receipt "allow" [] =
    .ok (firstRecord, .ofText (canonical (.obj firstRecord) ++ "\n")) := by
  have happend : appendDicts (.ofText "") (.obj []) receipt "allow" [] =
      .ok (firstRecord, (AuditLedger.ofText "").write (canonical (.obj firstRecord))) :=
    (AuditLedger.appendDicts_ok empty_valid).mpr ⟨_, _, _, rfl, rfl, rfl, rfl, rfl⟩
  rwa [AuditLedger.write_ofText (JsonLaws.canonical_line _), String.empty_append] at happend

theorem receipt_stays : ∀ result, receipt.lookup "result_sha256" = some result →
    Equal result (Tools.redact result) := by
  intro result h
  obtain rfl := Option.some.inj h
  rfl

theorem collisionFree_singleton (j : Json) : CollisionFree [j] := by
  intro a ha b hb _
  rw [List.mem_singleton.mp ha, List.mem_singleton.mp hb]
  rfl

theorem first_valid : AuditLedger.Valid (.ofText (canonical (.obj firstRecord) ++ "\n"))
    [Json.sortedFields firstRecord] :=
  (AuditLedger.appendDicts_valid_iff empty_valid append_firstRecord rfl (by decide)
    List.nodup_nil (collisionFree_singleton _)).2.mpr ⟨nofun, receipt_stays⟩

/-- The first append, cut off before the line break, leaves a valid file; the
next append is lost in the line it finds. -/
theorem append_behind_torn_line :
    let torn := canonical (.obj firstRecord)
    appendDicts (.ofText "") (.obj []) receipt "allow" [] =
      .ok (firstRecord, .ofText (torn ++ "\n")) ∧
    AuditLedger.Valid (.ofText torn) [Json.sortedFields firstRecord] ∧
    ∃ record ledger', appendDicts (.ofText torn) (.obj []) receipt "allow" [] =
        .ok (record, ledger') ∧
      ¬ AuditLedger.Valid ledger' ([Json.sortedFields firstRecord] ++ [Json.sortedFields record]) := by
  intro torn
  have hline : OneLine torn.toList := JsonLaws.canonical_line _
  have htorn : AuditLedger.Valid (.ofText torn) [Json.sortedFields firstRecord] := by
    refine ⟨?_, ?_, first_valid.sound, first_valid.chained, first_valid.distinct⟩
    · rw [AuditLedger.ofText, if_neg hline.not_ended]
    · have hparsed := first_valid.parsed
      have hlines : Lines.textLines ("" ++ (torn ++ "\n")) = Lines.textLines "" ++ [torn] :=
        Lines.textLines_append (by rintro _ ⟨⟩) hline
      rw [String.empty_append] at hlines
      rw [AuditLedger.readLines_ofText, hlines] at hparsed
      rwa [AuditLedger.readLines_ofText, Lines.textLines_oneLine hline]
  have happend : ∀ record ledger', appendDicts (.ofText torn) (.obj []) receipt "allow" [] =
      .ok (record, ledger') ↔ _ := fun record ledger' => AuditLedger.appendDicts_ok htorn
  refine ⟨append_firstRecord, htorn, _, _, (happend _ _).mpr ⟨_, _, _, rfl, rfl, rfl, rfl, rfl⟩,
    fun h => ?_⟩
  exact absurd (AuditLedger.appendDicts_unended hline.not_ended htorn
    ((happend _ _).mpr ⟨_, _, _, rfl, rfl, rfl, rfl, rfl⟩) h) (by decide)

/-- The first decision of a ledger. -/
def decision : ApprovalDecision where
  planSha256 := zeroHash
  approverId := "alice"
  approverGroup := "sre"
  decision := .approve
  reason := "Reviewed."
  decidedAt := ⟨0, some 0⟩
  attestation := none

theorem append_valid_first :
    AuditLedger.Valid (.ofText (canonical (.obj firstRecord) ++ "\n"))
      ([] ++ [Json.sortedFields firstRecord]) ∧
    ∃ record text', ApprovalLedger.appendText "" decision = .ok (record, text') ∧
      (ApprovalLedger.ofText text').validate = .ok ([] ++ [record]) := by
  obtain ⟨haudit, happroval⟩ := append_valid_iff LedgerSample.recordCodec_line
  have hempty : (ApprovalLedger.ofText "").validate = .ok [] := rfl
  have hdecision : decision.Valid := by decide
  obtain ⟨record, happend⟩ := ApprovalLedger.appendText_of_new hempty nofun hdecision
  refine ⟨?_, record, _, happend, ?_⟩
  · exact (haudit "" [] _ _ _ _ _ _ empty_valid append_firstRecord rfl (by decide) List.nodup_nil
      (collisionFree_singleton _)).mpr ⟨nofun, receipt_stays⟩
  · exact ((happroval "" [] _ _ _ hempty happend (collisionFree_singleton _)).mpr
      ⟨nofun, List.nodup_nil⟩).1

end Paic.Ledgers
