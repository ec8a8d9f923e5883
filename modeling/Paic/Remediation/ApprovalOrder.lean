import Paic.Ledgers
import Paic.Tools.AuditChain

/-!
# The order of the decisions

Two ledgers that were appended the same decisions in different orders differ
in every record, but `evaluate_approval` reads them alike: what its loop
checks of a decision beyond the decision itself is that no nonce comes twice,
and the snapshot is of the decisions in the order of their texts.
-/

namespace Paic.Remediation

open Checks
open Chain (Chained chained_snoc)
open Tools (JsonText JsonLaws)

-- ---------------------------------------------------------------------------
-- The loop over the decisions
-- ---------------------------------------------------------------------------

section
variable [Hashing]

/-- What the loop of `evaluate_approval` checks of a decision by itself. -/
def Passes (environ : Environ) (plan : RemediationPlan) (config : RemediationConfig)
    (at_ : Datetime) (decision : ApprovalDecision) : Prop :=
  (∃ identity attestation, AttestedBy environ config identity decision attestation) ∧
    WithinPlan plan config at_ decision

omit [Hashing] in
theorem noncesOf_perm {decisions decisions' : List ApprovalDecision}
    (h : decisions.Perm decisions') : (noncesOf decisions).Perm (noncesOf decisions') :=
  (((List.reverse_perm _).trans h).trans (List.reverse_perm _).symm).filterMap _

omit [Hashing] in
theorem noncesOf_snoc {decision : ApprovalDecision} (h : decision.attestation = some attestation) :
    noncesOf (decisions ++ [decision]) = attestation.nonce :: noncesOf decisions := by
  simp [noncesOf, h]

theorem decisionsPass_snoc : DecisionsPass environ plan config at_ (decisions ++ [decision]) ↔
    DecisionsPass environ plan config at_ decisions ∧
      (∃ identity attestation, AttestedBy environ config identity decision attestation ∧
        attestation.nonce ∉ noncesOf decisions) ∧ WithinPlan plan config at_ decision := by
  constructor
  · intro h
    refine ⟨fun earlier d later hsplit => ?_, h decisions decision [] rfl⟩
    exact h earlier d (later ++ [decision]) (by rw [hsplit, List.append_assoc, List.cons_append])
  · rintro ⟨hpass, hlast⟩ earlier d later hsplit
    rcases List.eq_nil_or_concat later with rfl | ⟨later, last, rfl⟩
    · obtain ⟨rfl, hd⟩ := List.append_inj' hsplit rfl
      obtain ⟨rfl, -⟩ := List.cons.inj hd
      exact hlast
    · rw [List.concat_eq_append, ← List.cons_append, ← List.append_assoc] at hsplit
      exact hpass earlier d later (List.append_inj' hsplit rfl).1

/-- The loop passes when each decision does and no nonce comes twice. -/
theorem decisionsPass_iff : DecisionsPass environ plan config at_ decisions ↔
    (∀ d ∈ decisions, Passes environ plan config at_ d) ∧ (noncesOf decisions).Nodup := by
  induction decisions using List.reverseRecOn with
  | nil => simp [DecisionsPass, noncesOf]
  | append_singleton decisions decision ih =>
    rw [decisionsPass_snoc, ih]
    constructor
    · rintro ⟨⟨hall, hnodup⟩, ⟨identity, attestation, hatt, hnonce⟩, hwithin⟩
      rw [noncesOf_snoc hatt.attested]
      refine ⟨fun d hd => ?_, List.nodup_cons.mpr ⟨hnonce, hnodup⟩⟩
      rcases List.mem_append.mp hd with hd | hd
      · exact hall d hd
      · exact List.mem_singleton.mp hd ▸ ⟨⟨identity, attestation, hatt⟩, hwithin⟩
    · rintro ⟨hall, hnodup⟩
      obtain ⟨⟨identity, attestation, hatt⟩, hwithin⟩ := hall decision (by simp)
      rw [noncesOf_snoc hatt.attested, List.nodup_cons] at hnodup
      exact ⟨⟨fun d hd => hall d (List.mem_append_left _ hd), hnodup.2⟩,
        ⟨identity, attestation, hatt, hnodup.1⟩, hwithin⟩

theorem decisionsPass_perm {decisions decisions' : List ApprovalDecision}
    (h : decisions.Perm decisions') : DecisionsPass environ plan config at_ decisions ↔
      DecisionsPass environ plan config at_ decisions' := by
  rw [decisionsPass_iff, decisionsPass_iff, (noncesOf_perm h).nodup_iff]
  simp only [h.mem_iff]

end

-- ---------------------------------------------------------------------------
-- What is counted
-- ---------------------------------------------------------------------------

section
variable {decisions decisions' : List ApprovalDecision}

theorem approvals_perm (h : decisions.Perm decisions') :
    (approvals decisions).Perm (approvals decisions') := h.filter _

theorem rejections_perm (h : decisions.Perm decisions') :
    (rejections decisions).Perm (rejections decisions') := h.filter _

theorem approvalGroupCount_perm (h : decisions.Perm decisions') :
    approvalGroupCount decisions = approvalGroupCount decisions' :=
  (((approvals_perm h).map _).dedup).length_eq

theorem approvalState_perm (h : decisions.Perm decisions') :
    approvalState plan at_ decisions = approvalState plan at_ decisions' := by
  have hnone : rejections decisions ≠ [] ↔ rejections decisions' ≠ [] := by
    rw [← List.length_pos_iff, ← List.length_pos_iff, (rejections_perm h).length_eq]
  simp only [approvalState, hnone, (approvals_perm h).length_eq]

/-- Texts in order are fixed by which texts they are. -/
theorem insertionSort_perm {texts texts' : List String} (h : texts.Perm texts') :
    texts.insertionSort (· ≤ ·) = texts'.insertionSort (· ≤ ·) := by
  refine List.Perm.eq_of_pairwise ?_ (List.pairwise_insertionSort _ _)
    (List.pairwise_insertionSort _ _)
    ((List.perm_insertionSort _ _).trans (h.trans (List.perm_insertionSort _ _).symm))
  intro a b _ _ hab hba
  exact String.le_antisymm hab hba

end

-- ---------------------------------------------------------------------------
-- The snapshot
-- ---------------------------------------------------------------------------

section
variable [Hashing] [JsonText] [JsonLaws] {decisions decisions' : List ApprovalDecision}

omit [JsonText] [JsonLaws] in
theorem decision_unique (d : ApprovalDecision) : d.modelDump.unique = true := by
  have hatt : (Json.opt ApprovalAttestation.modelDump d.attestation).unique = true := by
    cases d.attestation <;> rfl
  simp [ApprovalDecision.modelDump, Json.unique, Json.uniqueFields, hatt, Json.datetime]

/-- Decisions with one text are by one approver. -/
theorem approverId_of_canonical {d d' : ApprovalDecision}
    (h : canonical d.modelDump = canonical d'.modelDump) : d.approverId = d'.approverId := by
  have hload := JsonLaws.loads_canonical (decision_unique d)
  rw [h, JsonLaws.loads_canonical (decision_unique d')] at hload
  have hsame : d'.modelDump.Same d.modelDump := Except.ok.inj hload
  have hkeys : ∀ d : ApprovalDecision, ∀ fields, d.modelDump = .obj fields →
      (fields.map Prod.fst).Nodup := by
    intro d fields hfields
    obtain rfl := Json.obj.inj hfields
    change ["schema_version", "plan_sha256", "approver_id", "approver_role", "approver_group",
      "decision", "reason", "decided_at", "attestation"].Nodup
    decide
  have hlookup := Json.Same.lookup hsame (hkeys d' _ rfl) (hkeys d _ rfl) "approver_id"
  simpa [List.lookup, Json.sorted] using hlookup.symm

/-- The snapshot is of the decisions, not of their order. -/
theorem approvalSnapshot_perm (h : decisions.Perm decisions')
    (hids : (decisions.map ApprovalDecision.approverId).Nodup) :
    approvalSnapshot decisions = approvalSnapshot decisions' := by
  have htrans : ∀ a b c : Json, canonical a ≤ canonical b → canonical b ≤ canonical c →
      canonical a ≤ canonical c := fun _ _ _ => String.le_trans
  have htotal : ∀ a b : Json, canonical a ≤ canonical b ∨ canonical b ≤ canonical a :=
    fun _ _ => String.le_total _ _
  let := IsTrans.mk htrans
  let := Std.Total.mk htotal
  have hsorted := List.perm_insertionSort fun a b : Json => canonical a ≤ canonical b
  rw [approvalSnapshot, approvalSnapshot]
  congr 2
  refine List.Perm.eq_of_pairwise ?_ (List.pairwise_insertionSort _ _)
    (List.pairwise_insertionSort _ _) ((hsorted _).trans ((h.map _).trans (hsorted _).symm))
  intro a b ha hb hab hba
  obtain ⟨d, hd, rfl⟩ := List.mem_map.mp ((hsorted _).mem_iff.mp ha)
  obtain ⟨d', hd', rfl⟩ := List.mem_map.mp ((hsorted _).mem_iff.mp hb)
  have hid := approverId_of_canonical (String.le_antisymm hab hba)
  rw [List.inj_on_of_nodup_map hids hd (h.mem_iff.mpr hd') hid]

end

-- ---------------------------------------------------------------------------
-- Ledgers that were appended to
-- ---------------------------------------------------------------------------

section
variable [Hashing] {T : Type} [TextCodec T ApprovalLedgerRecord]

/-- The ledger after `append` of each decision in turn, from an empty one. -/
inductive Appended : List ApprovalDecision → List ApprovalLedgerRecord → ApprovalLedger T → Prop
  | empty : Appended [] [] ⟨[]⟩
  | append : Appended decisions records ledger → ledger.append decision = .ok (record, ledger') →
    Appended (decisions ++ [decision]) (records ++ [record]) ledger'

omit [Hashing] in
theorem parsed_unique {lines : List T} (h : ApprovalLedger.Parsed lines records)
    (h' : ApprovalLedger.Parsed lines records') : records = records' := by
  induction h generalizing records' with
  | nil => cases h'; rfl
  | cons hr _ ih =>
    cases h' with
    | cons hr' hrest' =>
      rw [Option.some.inj (hr.symm.trans hr'), ih hrest']

/-- What an append adds, when the ledger before it held these records. -/
theorem append_parsed {ledger ledger' : ApprovalLedger T}
    (hparsed : ApprovalLedger.Parsed ledger.lines records)
    (h : ledger.append decision = .ok (record, ledger')) :
    ApprovalLedger.Valid ledger records ∧ nextRecord records decision = .ok record ∧
      ApprovalLedger.Parsed ledger'.lines (records ++ [record]) := by
  simp only [ApprovalLedger.append, bind_eq_ok, pure_eq_ok, Prod.mk.injEq] at h
  obtain ⟨read, hvalidate, next, hnext, rfl, rfl⟩ := h
  have hold := ApprovalLedger.validate_ok.mp hvalidate
  obtain rfl := parsed_unique hold.parsed hparsed
  obtain ⟨-, hvalid, -⟩ := ApprovalLedger.nextRecord_ok hnext
  exact ⟨hold, hnext, List.rel_append hparsed (.cons (TextCodec.load_dump hvalid) .nil)⟩

/-- What holds of a ledger after any number of appends. -/
structure Built (decisions : List ApprovalDecision) (records : List ApprovalLedgerRecord)
    (ledger : ApprovalLedger T) : Prop where
  parsed : ApprovalLedger.Parsed ledger.lines records
  appended : records.map ApprovalLedgerRecord.decision = decisions
  approvers : (decisions.map ApprovalDecision.approverId).Nodup
  sound : ∀ r ∈ records, r.Sound
  chained : Chained ApprovalLedgerRecord.Link ApprovalLedgerRecord.recordSha256 1 zeroHash records

theorem Appended.built {ledger : ApprovalLedger T} (h : Appended decisions records ledger) :
    Built decisions records ledger := by
  induction h with
  | empty => exact ⟨.nil, rfl, List.nodup_nil, nofun, trivial⟩
  | @append decisions records ledger decision record ledger' _ happend ih =>
    obtain ⟨hold, hnext, hparsed⟩ := append_parsed ih.parsed happend
    obtain ⟨hnew, -, hdecision, hsound, hlink⟩ := ApprovalLedger.nextRecord_ok hnext
    refine ⟨hparsed, ?_, ?_, ?_, chained_snoc.mpr ⟨hold.chained, hlink⟩⟩
    · rw [List.map_append, ih.appended, List.map_singleton, hdecision]
    · rw [List.map_append, List.map_singleton]
      refine ih.approvers.append (List.nodup_singleton _) (List.disjoint_singleton.mpr ?_)
      intro hmem
      obtain ⟨d, hd, heq⟩ := List.mem_map.mp hmem
      rw [← ih.appended] at hd
      obtain ⟨r, hr, rfl⟩ := List.mem_map.mp hd
      exact hnew r hr heq
    · intro r hr
      rcases List.mem_append.mp hr with hr | hr
      · exact hold.sound r hr
      · exact List.mem_singleton.mp hr ▸ hsound

/-- Records in a chain have different numbers, so that their hashes differ. -/
theorem Built.distinct {ledger : ApprovalLedger T} (h : Built decisions records ledger)
    (hfree : CollisionFree (records.map fun r => .obj r.unsigned)) :
    (records.map ApprovalLedgerRecord.recordSha256).Nodup := by
  have hnumbers : (records.map ApprovalLedgerRecord.sequence).Nodup := by
    rw [sequences_of_chained h.chained]
    exact List.nodup_range'
  refine hnumbers.of_map _ |>.map_on fun r hr r' hr' hhash => ?_
  rw [← (h.sound r hr).hashed, ← (h.sound r' hr').hashed] at hhash
  have hsame := hfree _ (List.mem_map_of_mem hr) _ (List.mem_map_of_mem hr') hhash
  exact List.inj_on_of_nodup_map hnumbers hr hr' (ApprovalLedgerRecord.unsigned_same hsame).1

theorem Built.validate {ledger : ApprovalLedger T} (h : Built decisions records ledger)
    (hfree : CollisionFree (records.map fun r => .obj r.unsigned)) :
    ledger.validate = .ok records :=
  ApprovalLedger.validate_ok.mpr ⟨h.parsed, h.sound, h.chained, h.distinct hfree⟩

variable [JsonText] [JsonLaws]

/-- One of two ledgers with the same decisions is evaluated like the other. -/
theorem Built.evaluate {ledger ledger' : ApprovalLedger T} (h : Built decisions records ledger)
    (h' : Built decisions' records' ledger') (hperm : decisions.Perm decisions')
    (hfree : CollisionFree (records.map fun r => .obj r.unsigned))
    (hfree' : CollisionFree (records'.map fun r => .obj r.unsigned))
    (hok : evaluateApproval environ plan ledger config at_ = .ok status) :
    evaluateApproval environ plan ledger' config at_ = .ok status := by
  have hat : at_.Aware := by
    by_contra hnot
    simp [evaluateApproval, raiseIf_pos hnot] at hok
  have happrovers := (approvals_perm hperm).map ApprovalDecision.approverId
  have hgroups := (approvals_perm hperm).map ApprovalDecision.approverGroup
  rw [evaluateApproval_ok (h.validate hfree) hat] at hok
  rw [evaluateApproval_ok (h'.validate hfree') hat]
  simp only [h.appended, h'.appended] at hok ⊢
  obtain ⟨hpass, hids, hdistinct, rfl⟩ := hok
  refine ⟨(decisionsPass_perm hperm).mp hpass, happrovers.nodup_iff.mp hids, ?_, ?_⟩
  · rwa [← approvalGroupCount_perm hperm, ← (approvals_perm hperm).length_eq]
  · rw [approvalState_perm hperm, (approvals_perm hperm).length_eq,
      (rejections_perm hperm).length_eq, insertionSort_perm happrovers, insertionSort_perm hgroups,
      approvalSnapshot_perm hperm h.approvers]

/-- Ledgers that were appended the same decisions in any two orders are both
refused, or both accepted with one status. -/
theorem approval_order_independent {ledger ledger' : ApprovalLedger T}
    (h : Appended decisions records ledger) (h' : Appended decisions' records' ledger')
    (hperm : decisions.Perm decisions')
    (hfree : CollisionFree (records.map fun r => .obj r.unsigned))
    (hfree' : CollisionFree (records'.map fun r => .obj r.unsigned)) :
    ((∃ e, evaluateApproval environ plan ledger config at_ = .error e) ↔
      ∃ e, evaluateApproval environ plan ledger' config at_ = .error e) ∧
    ∀ status, evaluateApproval environ plan ledger config at_ = .ok status ↔
      evaluateApproval environ plan ledger' config at_ = .ok status := by
  have hstatus : ∀ status, evaluateApproval environ plan ledger config at_ = .ok status ↔
      evaluateApproval environ plan ledger' config at_ = .ok status := fun status =>
    ⟨h.built.evaluate h'.built hperm hfree hfree', h'.built.evaluate h.built hperm.symm hfree' hfree⟩
  have hraises : ∀ x : Except Error ApprovalStatus, (∃ e, x = .error e) ↔ ¬ ∃ status, x = .ok status := by
    intro x
    cases x <;> simp
  refine ⟨?_, hstatus⟩
  rw [hraises, hraises]
  simp only [hstatus]

end

-- ---------------------------------------------------------------------------
-- Two decisions in both orders
-- ---------------------------------------------------------------------------

namespace Sample

/-- The number of a record. -/
def numberOf : Json → Nat
  | .obj fields => match fields.lookup "sequence" with
    | some (.int n) => n.toNat
    | _ => 0
  | _ => 0

/-- Texts hash by the number of the record they are of. -/
@[reducible] def numberedHashing : Hashing :=
  { JsonCode.hashing with
    sha256 := fun s => Platform.hexText (((JsonCode.reads s).map numberOf).getD 0)
    sha256_hex := fun _ => Platform.hexText_isSha256 _ }

section
attribute [local instance] numberedHashing JsonCode.jsonText LedgerSample.recordCodec

theorem numberedLaws : JsonLaws :=
  { loads_unique := JsonCode.jsonLaws.loads_unique
    loads_canonical := JsonCode.jsonLaws.loads_canonical
    canonical_sorted := JsonCode.jsonLaws.canonical_sorted
    canonical_line := JsonCode.jsonLaws.canonical_line }

theorem digest_record (r : ApprovalLedgerRecord) :
    digest (.obj r.unsigned) = Platform.hexText r.sequence := by
  have hreads : JsonCode.reads (canonical (.obj r.unsigned)) = some (Json.obj r.unsigned).sorted :=
    JsonCode.reads_writes _
  have hnumber : numberOf (Json.obj r.unsigned).sorted = r.sequence := by
    have hlookup := Json.lookup_sortedFields r.unsigned_keys "sequence"
    rw [Json.sorted, numberOf, hlookup]
    rfl
  show Platform.hexText (((JsonCode.reads (canonical (.obj r.unsigned))).map numberOf).getD 0) = _
  rw [hreads, Option.map_some, Option.getD_some, hnumber]

def bobDecision : ApprovalDecision := { Ledgers.decision with approverId := "bob" }

/-- Decisions of two approvers are appended in turn. -/
theorem appended_pair {a b : ApprovalDecision} (ha : a.Valid) (hb : b.Valid)
    (hne : a.approverId ≠ b.approverId) : ∃ records, ∃ ledger : ApprovalLedger String,
    Appended [a, b] records ledger ∧ CollisionFree (records.map fun r => .obj r.unsigned) := by
  have hempty : ApprovalLedger.validate (⟨[]⟩ : ApprovalLedger String) = .ok [] := rfl
  obtain ⟨r, hr⟩ : ∃ r, nextRecord [] a = .ok r := ApprovalLedger.nextRecord_of_new nofun nofun ha
  have hfirst : Appended ([] ++ [a]) ([] ++ [r]) (⟨[TextCodec.dump r]⟩ : ApprovalLedger String) :=
    .append .empty (by rw [ApprovalLedger.append, hempty, ok_bind, hr]; rfl)
  obtain ⟨-, hvalid, hdecision, -, hlink⟩ := ApprovalLedger.nextRecord_ok hr
  have hsingle : CollisionFree [Json.obj r.unsigned] := by
    intro x hx y hy _
    rw [List.mem_singleton.mp hx, List.mem_singleton.mp hy]
    rfl
  have hvalidate := hfirst.built.validate hsingle
  obtain ⟨s, hs⟩ : ∃ s, nextRecord ([] ++ [r]) b = .ok s :=
    ApprovalLedger.nextRecord_of_new (by simpa using hvalid) (by simpa [hdecision] using hne) hb
  obtain ⟨-, -, -, -, hlink'⟩ := ApprovalLedger.nextRecord_ok hs
  refine ⟨_, _, .append hfirst (by rw [ApprovalLedger.append, hvalidate, ok_bind, hs]; rfl), ?_⟩
  have hdigests : digest (.obj r.unsigned) ≠ digest (.obj s.unsigned) := by
    rw [digest_record, digest_record, hlink.1, hlink'.1]
    exact (by decide +kernel : Platform.hexText 1 ≠ Platform.hexText 2)
  intro x hx y hy hdigest
  simp only [List.nil_append, List.cons_append, List.map_cons, List.map_nil, List.mem_cons,
    List.not_mem_nil, or_false] at hx hy
  rcases hx with rfl | rfl <;> rcases hy with rfl | rfl
  · rfl
  · exact absurd hdigest hdigests
  · exact absurd hdigest.symm hdigests
  · rfl

end

end Sample

section
attribute [local instance] Sample.numberedHashing JsonCode.jsonText Sample.numberedLaws
  LedgerSample.recordCodec

/-- The two orders of two decisions. -/
theorem approval_order_independent_sample : ∃ ledger ledger' : ApprovalLedger String,
    (∃ records, Appended [Ledgers.decision, Sample.bobDecision] records ledger) ∧
    (∃ records, Appended [Sample.bobDecision, Ledgers.decision] records ledger') ∧
    ∀ status, evaluateApproval Sample.environ Sample.criticalPlan ledger Sample.config
        (Sample.at_ 10) = .ok status ↔
      evaluateApproval Sample.environ Sample.criticalPlan ledger' Sample.config
        (Sample.at_ 10) = .ok status := by
  have hvalid : Ledgers.decision.Valid ∧ Sample.bobDecision.Valid := by decide
  obtain ⟨records, ledger, h, hfree⟩ := Sample.appended_pair hvalid.1 hvalid.2 (by decide)
  obtain ⟨records', ledger', h', hfree'⟩ := Sample.appended_pair hvalid.2 hvalid.1 (by decide)
  exact ⟨ledger, ledger', ⟨_, h⟩, ⟨_, h'⟩,
    (approval_order_independent h h' (.swap _ _ _) hfree hfree').2⟩

end

end Paic.Remediation
