import Paic.JsonObjects
import Paic.Lib.Chain
import Paic.Lib.Lines
import Paic.Remediation.ApprovalLaws

/-!
# The approval ledger as a chain

A ledger that `validate` accepts is a chain of sound records without a hash
that comes twice. The file is a text of which empty lines are not read, and
`append` writes a line behind whatever ends it.
-/

namespace Paic.Remediation

open Checks
open Chain (Chained head chained_snoc)
open Lines (Ended OneLine textLines textLines_append textLines_append_unended)

namespace ApprovalLedgerRecord

/-- The record fits in its place. -/
def Link (n : Nat) (previous : String) (r : ApprovalLedgerRecord) : Prop :=
  r.sequence = n ∧ r.previousRecordSha256 = previous

/-- The record's hashes are those of what it says. -/
structure Sound [Hashing] (r : ApprovalLedgerRecord) : Prop where
  decision : r.decisionSha256 = digest r.decision.modelDump
  hashed : digest (.obj r.unsigned) = r.recordSha256

end ApprovalLedgerRecord

open ApprovalLedgerRecord (Link Sound)

section
variable [Hashing]

theorem checkChain_ok {records : List ApprovalLedgerRecord} {u : Unit} :
    checkChain n previous seen records = .ok u ↔
      Chained Link ApprovalLedgerRecord.recordSha256 n previous records ∧ (∀ r ∈ records, Sound r) ∧
      (∀ r ∈ records, r.recordSha256 ∉ seen) ∧
      (records.map ApprovalLedgerRecord.recordSha256).Nodup := by
  induction records generalizing n previous seen with
  | nil => simp [checkChain, Chained]
  | cons r rest ih =>
    simp only [checkChain, bind_eq_ok, raiseIf_ok, exists_const, ih, not_or, Decidable.not_not,
      ne_eq, List.forall_mem_cons, List.map_cons, List.nodup_cons, Chained]
    constructor
    · rintro ⟨⟨hsequence, hprevious⟩, hnot, hdecision, hhash, hchained, hsound, hseen, hnodup⟩
      refine ⟨⟨⟨hsequence, hprevious⟩, hchained⟩, ⟨⟨hdecision, hhash⟩, hsound⟩,
        ⟨hnot, fun s hs hmem => hseen s hs (List.mem_cons_of_mem _ hmem)⟩, ?_, hnodup⟩
      intro hmem
      obtain ⟨s, hs, heq⟩ := List.mem_map.mp hmem
      exact hseen s hs (heq ▸ List.mem_cons_self)
    · rintro ⟨⟨⟨hsequence, hprevious⟩, hchained⟩, ⟨hr, hsound⟩, ⟨hnot, hseen⟩, hfresh, hnodup⟩
      refine ⟨⟨hsequence, hprevious⟩, hnot, hr.decision, hr.hashed, hchained, hsound, ?_, hnodup⟩
      intro s hs hmem
      rcases List.mem_cons.mp hmem with heq | hmem
      · exact hfresh (List.mem_map.mpr ⟨s, hs, heq⟩)
      · exact hseen s hs hmem

theorem ApprovalLedgerRecord.unsigned_keys (r : ApprovalLedgerRecord) :
    (r.unsigned.map Prod.fst).Nodup := by
  change ["sequence", "previous_record_sha256", "decision", "decision_sha256"].Nodup
  decide

/-- Records that are hashed alike say the same. -/
theorem ApprovalLedgerRecord.unsigned_same {r r' : ApprovalLedgerRecord}
    (h : (Json.obj r.unsigned).Same (.obj r'.unsigned)) :
    r.sequence = r'.sequence ∧ r.previousRecordSha256 = r'.previousRecordSha256 ∧
      r.decision.modelDump.Same r'.decision.modelDump ∧ r.decisionSha256 = r'.decisionSha256 := by
  have hlookup := h.lookup r.unsigned_keys r'.unsigned_keys
  have hsequence := hlookup "sequence"
  have hprevious := hlookup "previous_record_sha256"
  have hdecision := hlookup "decision"
  have hsha := hlookup "decision_sha256"
  simp [ApprovalLedgerRecord.unsigned, List.lookup, Json.sorted]
    at hsequence hprevious hdecision hsha
  exact ⟨by omega, hprevious, hdecision, hsha⟩

omit [Hashing] in
theorem sequences_of_chained {records : List ApprovalLedgerRecord}
    (h : Chained Link ApprovalLedgerRecord.recordSha256 n previous records) :
    records.map ApprovalLedgerRecord.sequence = List.range' n records.length := by
  induction records generalizing n previous with
  | nil => rfl
  | cons r rest ih =>
    rw [List.map_cons, h.1.1, ih h.2]
    rfl

end

namespace ApprovalLedger

variable {T : Type} [TextCodec T ApprovalLedgerRecord]

/-- The records of the lines. -/
def Parsed (lines : List T) (records : List ApprovalLedgerRecord) : Prop :=
  List.Forall₂ (fun line r => TextCodec.load line = some r) lines records

theorem records_ok {ledger : ApprovalLedger T} {records : List ApprovalLedgerRecord} :
    ledger.records = .ok records ↔ Parsed ledger.lines records := by
  simp only [ApprovalLedger.records, Checks.mapM_ok, need_ok, Parsed]

variable [Hashing]

/-- The ledger holds these records, and they are in order. -/
structure Valid (ledger : ApprovalLedger T) (records : List ApprovalLedgerRecord) : Prop where
  parsed : Parsed ledger.lines records
  sound : ∀ r ∈ records, Sound r
  chained : Chained Link ApprovalLedgerRecord.recordSha256 1 zeroHash records
  distinct : (records.map ApprovalLedgerRecord.recordSha256).Nodup

/-- `validate` accepts exactly the valid ledgers. -/
theorem validate_ok {ledger : ApprovalLedger T} {records : List ApprovalLedgerRecord} :
    ledger.validate = .ok records ↔ Valid ledger records := by
  simp only [validate, bind_eq_ok, records_ok, checkChain_ok, exists_const, pure_eq_ok]
  constructor
  · rintro ⟨_, hparsed, ⟨hchained, hsound, -, hdistinct⟩, rfl⟩
    exact ⟨hparsed, hsound, hchained, hdistinct⟩
  · intro h
    exact ⟨records, h.parsed, ⟨h.chained, h.sound, fun _ _ => List.not_mem_nil, h.distinct⟩, rfl⟩

end ApprovalLedger

-- ---------------------------------------------------------------------------
-- The text
-- ---------------------------------------------------------------------------

namespace ApprovalLedger

/-- The ledger whose file holds the text. -/
def ofText (text : String) : ApprovalLedger String where
  lines := (textLines text).filter (· ≠ "")

variable [Hashing] [TextCodec String ApprovalLedgerRecord]

/-- `append`, of which the text of the file is what comes after. Where it
raises, nothing is written. -/
def appendText (text : String) (decision : ApprovalDecision) :
    Except Error (ApprovalLedgerRecord × String) := do
  let records ← (ofText text).validate
  let record ← nextRecord records decision
  pure (record, text ++ (TextCodec.dump record ++ "\n"))

omit [Hashing] [TextCodec String ApprovalLedgerRecord] in
theorem ofText_append (h : Ended text.toList) (hline : OneLine line.toList) :
    ofText (text ++ (line ++ "\n")) = ⟨(ofText text).lines ++ [line]⟩ := by
  have hne : line ≠ "" := fun heq => hline.1 (by rw [heq]; rfl)
  simp [ofText, textLines_append h hline, hne]

omit [Hashing] [TextCodec String ApprovalLedgerRecord] in
/-- Behind a line that is not ended, no line is added. -/
theorem ofText_append_unended (h : ¬ Ended text.toList) (hline : OneLine line.toList) :
    (ofText (text ++ (line ++ "\n"))).lines.length = (ofText text).lines.length := by
  obtain ⟨init, last, hlines, hlast, happend⟩ := textLines_append_unended h hline
  have hne : last ++ line ≠ "" := by
    intro heq
    exact hline.1 (List.append_eq_nil_iff.mp (String.toList_append ▸ congrArg String.toList heq)).2
  have hkeep : ∀ s : String, s ≠ "" → [s].filter (· ≠ "") = [s] := fun s hs => by simp [hs]
  simp only [ofText, hlines, happend, List.filter_append, hkeep _ hne, hkeep _ hlast,
    List.length_append, List.length_singleton]

/-- On a text that ended its last line the two appends are one. -/
theorem append_ofText {record : ApprovalLedgerRecord} (h : Ended text.toList)
    (hline : OneLine (TextCodec.dump (T := String) record).toList)
    (happend : appendText text decision = .ok (record, text')) :
    (ofText text).append decision = .ok (record, ofText text') := by
  simp only [appendText, append, bind_eq_ok, pure_eq_ok, Prod.mk.injEq] at happend ⊢
  obtain ⟨records, hrecords, next, hnext, rfl, rfl⟩ := happend
  exact ⟨records, hrecords, next, hnext, rfl, (ofText_append h hline).symm⟩

omit [TextCodec String ApprovalLedgerRecord] in
/-- What the next record is, when it is built. -/
theorem nextRecord_ok {records : List ApprovalLedgerRecord}
    (h : nextRecord records decision = .ok record) :
    (∀ r ∈ records, r.decision.approverId ≠ decision.approverId) ∧ record.Valid ∧
      record.decision = decision ∧ Sound record ∧ Link (1 + records.length)
        (head ApprovalLedgerRecord.recordSha256 zeroHash records) record := by
  simp only [nextRecord, bind_eq_ok, raiseIf_ok, exists_const, modelValidate_ok] at h
  obtain ⟨hnew, unsigned, ⟨-, rfl⟩, hvalid, rfl⟩ := h
  refine ⟨by simpa using hnew, hvalid, rfl, ⟨rfl, rfl⟩, Nat.add_comm _ _, ?_⟩
  unfold head
  cases records.getLast? <;> rfl

omit [TextCodec String ApprovalLedgerRecord] in
/-- A valid decision of a new approver has a next record. -/
theorem nextRecord_of_new {records : List ApprovalLedgerRecord} (hvalid : ∀ r ∈ records, r.Valid)
    (hnew : ∀ r ∈ records, r.decision.approverId ≠ decision.approverId) (hd : decision.Valid) :
    ∃ record, nextRecord records decision = .ok record := by
  have hunseen : ¬ ∃ r ∈ records, r.decision.approverId = decision.approverId := by
    rintro ⟨r, hr, heq⟩
    exact hnew r hr heq
  have hsequence : 1 ≤ records.length + 1 := Nat.succ_le_succ (Nat.zero_le _)
  simp only [nextRecord, bind_eq_ok, raiseIf_ok, exists_const, modelValidate_ok]
  cases hlast : records.getLast? with
  | none =>
    exact ⟨_, hunseen, _, ⟨⟨hsequence, zeroHash_isSha256, hd, digest_hex _, zeroHash_isSha256⟩, rfl⟩,
      ⟨hsequence, zeroHash_isSha256, hd, digest_hex _, digest_hex _⟩, rfl⟩
  | some last =>
    have hprevious := (hvalid last (List.mem_of_getLast? hlast)).recordSha256
    exact ⟨_, hunseen, _, ⟨⟨hsequence, hprevious, hd, digest_hex _, zeroHash_isSha256⟩, rfl⟩,
      ⟨hsequence, hprevious, hd, digest_hex _, digest_hex _⟩, rfl⟩

theorem appendText_of_new {records : List ApprovalLedgerRecord}
    (h : (ofText text).validate = .ok records)
    (hnew : ∀ r ∈ records, r.decision.approverId ≠ decision.approverId) (hd : decision.Valid) :
    ∃ record, appendText text decision =
      .ok (record, text ++ (TextCodec.dump record ++ "\n")) := by
  have hvalid : ∀ r ∈ records, r.Valid := by
    intro r hr
    obtain ⟨i, hi, rfl⟩ := List.mem_iff_getElem.mp hr
    have hparsed := (validate_ok.mp h).parsed
    exact TextCodec.load_valid ((List.forall₂_iff_get.mp hparsed).2 i (hparsed.length_eq ▸ hi) hi)
  obtain ⟨record, hrecord⟩ := nextRecord_of_new hvalid hnew hd
  exact ⟨record, by rw [appendText, h, ok_bind, hrecord]; rfl⟩

/-- Appending to a valid file keeps it valid, with the new record behind the
old ones, exactly when the file ended its last line; and no approver is in it
twice when none was before. -/
theorem appendText_valid_iff {records : List ApprovalLedgerRecord}
    (h : (ofText text).validate = .ok records)
    (happend : appendText text decision = .ok (record, text'))
    (hline : OneLine (TextCodec.dump (T := String) record).toList)
    (hfree : CollisionFree ((records ++ [record]).map fun r => .obj r.unsigned)) :
    ((ofText text').validate = .ok (records ++ [record]) ∧
      (records ++ [record]).map ApprovalLedgerRecord.sequence =
        List.range' 1 (records.length + 1) ∧
      ((records ++ [record]).map (·.decision.approverId)).Nodup) ↔
    Ended text.toList ∧ (records.map (·.decision.approverId)).Nodup := by
  simp only [appendText, h, ok_bind, bind_eq_ok, pure_eq_ok, Prod.mk.injEq] at happend
  obtain ⟨next, hnext, rfl, rfl⟩ := happend
  obtain ⟨hnew, hvalid, hdecision, hsound, hlink⟩ := nextRecord_ok hnext
  have hold := validate_ok.mp h
  rw [List.map_append, List.map_append, List.map_singleton, List.map_singleton, hdecision]
  constructor
  · rintro ⟨hvalidate, -, hids⟩
    refine ⟨Decidable.not_not.mp fun hended => ?_, (List.nodup_append.mp hids).1⟩
    have hlength := (validate_ok.mp hvalidate).parsed.length_eq
    rw [ofText_append_unended hended hline, hold.parsed.length_eq, List.length_append,
      List.length_singleton] at hlength
    omega
  · rintro ⟨hended, hids⟩
    have hchained : Chained Link ApprovalLedgerRecord.recordSha256 1 zeroHash
        (records ++ [next]) := chained_snoc.mpr ⟨hold.chained, hlink⟩
    refine ⟨validate_ok.mpr ⟨?_, ?_, hchained, ?_⟩, ?_, ?_⟩
    · rw [ofText_append hended hline]
      exact List.rel_append hold.parsed (.cons (TextCodec.load_dump hvalid) .nil)
    · intro r hr
      rcases List.mem_append.mp hr with hr | hr
      · exact hold.sound r hr
      · exact List.mem_singleton.mp hr ▸ hsound
    · rw [List.map_append, List.map_singleton]
      refine hold.distinct.append (List.nodup_singleton _) (List.disjoint_singleton.mpr ?_)
      intro hmem
      obtain ⟨r, hr, hhash⟩ := List.mem_map.mp hmem
      rw [← (hold.sound r hr).hashed, ← hsound.hashed] at hhash
      have hsame := hfree _ (List.mem_map.mpr ⟨r, List.mem_append_left _ hr, rfl⟩) _
        (List.mem_map.mpr ⟨next, by simp, rfl⟩) hhash
      -- the new record has a number that no record had
      obtain ⟨i, hi, rfl⟩ := List.mem_iff_getElem.mp hr
      obtain ⟨previous, hsequence, -⟩ := Chain.chained_get hold.chained i hi
      have hequal := (ApprovalLedgerRecord.unsigned_same hsame).1
      rw [hsequence, hlink.1] at hequal
      omega
    · rw [← List.map_singleton, ← List.map_append, sequences_of_chained hchained]
      simp
    · refine hids.append (List.nodup_singleton _) (List.disjoint_singleton.mpr ?_)
      intro hmem
      obtain ⟨r, hr, heq⟩ := List.mem_map.mp hmem
      exact hnew r hr heq

end ApprovalLedger

end Paic.Remediation
