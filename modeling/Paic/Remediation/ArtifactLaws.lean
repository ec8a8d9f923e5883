import Paic.Remediation.Artifact
import Paic.Remediation.ExecutorLaws

/-!
# What an artifact that loads contains

An exported artifact loads back to the model it was written from, and one that
loads binds that model to its manifest. Both are read off one lemma about
`_load_manifest` on a written directory.
-/

namespace Paic.Remediation

open Checks

-- ---------------------------------------------------------------------------
-- Reading a directory
-- ---------------------------------------------------------------------------

theorem lookup_of_mem [BEq κ] [LawfulBEq κ] {l : List (κ × β)} (hn : (l.map Prod.fst).Nodup)
    (h : (k, v) ∈ l) : l.lookup k = some v := by
  induction l with
  | nil => exact absurd h List.not_mem_nil
  | cons e rest ih =>
    obtain ⟨hnew, hn⟩ := List.nodup_cons.mp hn
    rcases List.mem_cons.mp h with rfl | h
    · exact List.lookup_cons_self
    · have hne : (k == e.1) = false := by
        rw [beq_eq_false_iff_ne]
        intro he
        have hmem := List.mem_map_of_mem (f := Prod.fst) h
        exact hnew (he ▸ hmem)
      rw [List.lookup_cons, hne]
      exact ih hn h

theorem Directory.read_of_mem {d : Directory T} (h : (name, .file text) ∈ d.entries) :
    d.read name = some text := by
  rw [Directory.read, lookup_of_mem d.unique h]

section
variable {T : Type} [RemediationText T] {payloads : List (String × T)}
  {h : (payloads.map Prod.fst ++ ["manifest.json", "_SUCCESS"]).Nodup}

theorem payloadDirectory_read (hp : (name, text) ∈ payloads) :
    (payloadDirectory manifest payloads h).read name = some text := by
  refine Directory.read_of_mem (List.mem_append_left _ ?_)
  exact List.mem_map_of_mem (f := fun p : String × T => (p.1, Node.file p.2)) hp

theorem payloadDirectory_manifest : (payloadDirectory manifest payloads h).read "manifest.json" =
    some (TextCodec.dump manifest) :=
  Directory.read_of_mem (List.mem_append_right _ (by simp))

theorem payloadDirectory_marker : (payloadDirectory manifest payloads h).read "_SUCCESS" =
    some (FileText.line (FileText.sha256 (TextCodec.dump manifest : T))) :=
  Directory.read_of_mem (List.mem_append_right _ (by simp))

theorem payloadDirectory_layout : layoutIssues (payloadDirectory manifest payloads h)
    (payloads.map Prod.fst ++ ["manifest.json", "_SUCCESS"]) = [] := by
  have hnames : (payloadDirectory manifest payloads h).entries.map Prod.fst =
      payloads.map Prod.fst ++ ["manifest.json", "_SUCCESS"] := by
    simp [payloadDirectory, Function.comp_def]
  rw [layoutIssues, hnames, (reasonIf_nil).mpr (by simp [sameNames]), List.nil_append,
    List.flatMap_eq_nil_iff]
  intro e he
  simp only [payloadDirectory, List.mem_append, List.mem_map, List.mem_cons, List.not_mem_nil,
    or_false] at he
  rcases he with ⟨p, -, rfl⟩ | rfl | rfl <;> rfl

theorem manifestSha256_payloadDirectory :
    manifestSha256 (some (payloadDirectory manifest payloads h)) =
      .ok (FileText.sha256 (TextCodec.dump manifest : T)) := by
  simp [manifestSha256, payloadDirectory_manifest, need]

theorem loadManifest_ok : loadManifest root expected = .ok (d, manifest) ↔
    root = some d ∧ layoutIssues d (expected ++ ["manifest.json", "_SUCCESS"]) = [] ∧
      ∃ text : T, d.read "manifest.json" = some text ∧ TextCodec.load text = some manifest ∧
      (manifest.files.map ArtifactFileManifest.relativePath).Nodup ∧
      sameNames (manifest.files.map ArtifactFileManifest.relativePath) expected ∧
      (∀ item ∈ manifest.files, checkFile d item = .ok ()) ∧
      ∃ marker, d.read "_SUCCESS" = some marker ∧ FileText.strip marker = FileText.sha256 text := by
  simp only [loadManifest, bind_eq_ok, need_ok, raiseIf_ok, ne_eq, Decidable.not_not,
    not_or, readModel, Option.bind_eq_some_iff, exists_and_left, exists_const, pure_eq_ok,
    Prod.mk.injEq, manifestSha256, Option.map_eq_some_iff]
  constructor
  · rintro ⟨d, rfl, hlayout, m, ⟨text, hread, hload⟩, ⟨hnodup, hsame⟩, _, hfiles, sha,
      ⟨text', ⟨d', hd', hread'⟩, rfl⟩, marker, hmarker, hstrip, rfl, rfl⟩
    obtain rfl := Option.some.inj hd'
    obtain rfl := Option.some.inj (hread.symm.trans hread')
    exact ⟨rfl, hlayout, text, hread, hload, hnodup, hsame, loop_unit_ok.mp hfiles, marker,
      hmarker, hstrip⟩
  · rintro ⟨rfl, hlayout, text, hread, hload, hnodup, hsame, hfiles, marker, hmarker, hstrip⟩
    exact ⟨d, rfl, hlayout, manifest, ⟨text, hread, hload⟩, ⟨hnodup, hsame⟩, (),
      loop_unit_ok.mpr hfiles, _, ⟨text, ⟨d, rfl, hread⟩, rfl⟩, marker, hmarker, hstrip, rfl, rfl⟩

/-- The manifest of a written directory loads. -/
theorem loadManifest_payloadDirectory (hm : manifest.Valid)
    (hf : manifest.files =
      (payloads.map payloadFile).insertionSort (·.relativePath ≤ ·.relativePath))
    (hflat : ∀ p ∈ payloads, isFlatName p.1 = true) :
    loadManifest (some (payloadDirectory manifest payloads h)) (payloads.map Prod.fst) =
      .ok (payloadDirectory manifest payloads h, manifest) := by
  have hperm : manifest.files.Perm (payloads.map payloadFile) := by
    rw [hf]
    exact List.perm_insertionSort _ _
  have hdeclared : (manifest.files.map ArtifactFileManifest.relativePath).Perm
      (payloads.map Prod.fst) := by
    have := hperm.map ArtifactFileManifest.relativePath
    simpa [Function.comp_def, payloadFile] using this
  refine loadManifest_ok.mpr ⟨rfl, payloadDirectory_layout, _, payloadDirectory_manifest,
    TextCodec.load_dump hm, hm.uniqueFiles, ⟨hdeclared.subset, hdeclared.symm.subset⟩, ?_,
    _, payloadDirectory_marker, FileText.strip_line _ (FileText.sha256_hex _)⟩
  intro item hitem
  obtain ⟨p, hp, rfl⟩ := List.mem_map.mp (hperm.mem_iff.mp hitem)
  have hread : (payloadDirectory manifest payloads h).read p.1 = some p.2 :=
    payloadDirectory_read hp
  simp [checkFile, payloadFile, hflat p hp, hread, need, raiseIf]

/-- A manifest as written validates when its texts are short enough. -/
theorem newManifest_valid (hid : textIn artifactId 1 200) (hinc : textIn incidentId 1 200)
    (hstatus : textIn status 1 100) (hsha : isSha256 payloadSha256 = true)
    (hb : ∀ b ∈ bindings, isSha256 b.2 = true) (hflat : ∀ p ∈ payloads, isFlatName p.1 = true)
    (hn : (payloads.map Prod.fst).Nodup) :
    (newManifest artifactType artifactId incidentId status payloadSha256 bindings
      payloads).Valid := by
  have hperm : ((payloads.map payloadFile).insertionSort
      (fun f g => f.relativePath ≤ g.relativePath)).Perm (payloads.map payloadFile) :=
    List.perm_insertionSort _ _
  refine ⟨hid, hinc, (by decide : isVersion version = true), hstatus, hsha, hb, ?_, ?_⟩
  · intro f hf
    obtain ⟨p, hp, rfl⟩ := List.mem_map.mp (hperm.mem_iff.mp hf)
    exact ⟨hflat p hp, FileText.sha256_hex _⟩
  · refine (hperm.map _).nodup_iff.mpr ?_
    simpa [Function.comp_def, payloadFile] using hn

theorem writeManifest_ok : writeManifest artifactType artifactId incidentId status payloadSha256
      bindings payloads h = .ok d ↔
    (newManifest artifactType artifactId incidentId status payloadSha256 bindings
      payloads).Valid ∧
    d = payloadDirectory (newManifest artifactType artifactId incidentId status payloadSha256
      bindings payloads) payloads h := by
  simp only [writeManifest, bind_eq_ok, modelValidate_ok, pure_eq_ok, @eq_comm _ _ d]
  constructor
  · rintro ⟨m, ⟨hv, rfl⟩, rfl⟩
    exact ⟨hv, rfl⟩
  · rintro ⟨hv, rfl⟩
    exact ⟨_, ⟨hv, rfl⟩, rfl⟩

-- ---------------------------------------------------------------------------
-- Control states
-- ---------------------------------------------------------------------------

theorem stateNames_nodup : ["state.json", "manifest.json", "_SUCCESS"].Nodup := by decide

theorem receiptNames_nodup : ["receipt.json", "manifest.json", "_SUCCESS"].Nodup := by decide

variable [Hashing]

/-- A control state's artifact. -/
def controlStateManifest (T : Type) [RemediationText T] (s : ControlState) :
    RemediationArtifactManifest :=
  newManifest .controlState s.stateId s.incidentId "ready" (digest s.modelDump) []
    [("state.json", (TextCodec.dump s : T))]

def controlStateDirectory (s : ControlState) : Directory T :=
  payloadDirectory (controlStateManifest T s) [("state.json", TextCodec.dump s)] stateNames_nodup

theorem manifestSha256_controlStateDirectory (s : ControlState) :
    manifestSha256 (some (controlStateDirectory s : Directory T)) =
      .ok (FileText.sha256 (TextCodec.dump (controlStateManifest T s) : T)) :=
  manifestSha256_payloadDirectory

/-- What holds of a control state that an artifact can hold. -/
structure Storable (s : ControlState) : Prop where
  valid : s.Valid
  stateId : s.stateId.length ≤ 200
  incidentId : s.incidentId.length ≤ 200

theorem loadControlState_ok {root : Option (Directory T)} :
    loadControlState root = .ok loaded ↔
      ∃ d, loadManifest root ["state.json"] = .ok (d, loaded.manifest) ∧
        loaded.manifest.artifactType = .controlState ∧
        (d.read "state.json").bind TextCodec.load = some loaded.state ∧
        loaded.manifest.payloadSha256 = digest loaded.state.modelDump ∧
        loaded.manifest.artifactId = loaded.state.stateId ∧
        loaded.manifest.incidentId = loaded.state.incidentId ∧
        loaded.manifest.status = "ready" ∧ loaded.manifest.bindings = [] := by
  simp only [loadControlState, bind_eq_ok, raiseIf_ok, ne_eq, Decidable.not_not, not_or,
    readModel, need_ok, exists_and_left, exists_const, pure_eq_ok, Prod.exists]
  constructor
  · rintro ⟨d, m, hm, htype, s, hs, hsha, ⟨hid, hinc⟩, ⟨hstatus, hb⟩, rfl⟩
    exact ⟨d, hm, htype, hs, hsha, hid, hinc, hstatus, hb⟩
  · rintro ⟨d, hm, htype, hs, hsha, hid, hinc, hstatus, hb⟩
    exact ⟨d, _, hm, htype, _, hs, hsha, ⟨hid, hinc⟩, ⟨hstatus, hb⟩, rfl⟩

/-- A control state that loads can be stored again. -/
theorem loadControlState_storable {root : Option (Directory T)}
    (h : loadControlState root = .ok loaded) : Storable loaded.state := by
  obtain ⟨d, hm, -, hs, -, hid, hinc, -, -⟩ := loadControlState_ok.mp h
  obtain ⟨t, -, hload⟩ := Option.bind_eq_some_iff.mp hs
  obtain ⟨-, -, text, -, hmload, -⟩ := loadManifest_ok.mp hm
  have hmv : loaded.manifest.Valid := TextCodec.load_valid hmload
  exact ⟨TextCodec.load_valid hload, hid ▸ hmv.artifactId.2, hinc ▸ hmv.incidentId.2⟩

/-- The manifest that was loaded is there to be hashed. -/
theorem loadControlState_manifestSha256 {root : Option (Directory T)}
    (h : loadControlState root = .ok loaded) :
    ∃ sha, manifestSha256 root = .ok sha ∧ isSha256 sha = true := by
  obtain ⟨d, hm, -⟩ := loadControlState_ok.mp h
  obtain ⟨hroot, -, text, hread, -⟩ := loadManifest_ok.mp hm
  exact ⟨FileText.sha256 text, by simp [manifestSha256, hroot, hread, need],
    FileText.sha256_hex text⟩

theorem controlStateManifest_valid (h : Storable s) : (controlStateManifest T s).Valid :=
  newManifest_valid ⟨isIdentifier_length h.valid.stateId, h.stateId⟩
    ⟨isIdentifier_length h.valid.incidentId, h.incidentId⟩ (by decide) (digest_hex _) (by simp)
    (by simp; decide) (by simp)

theorem loadControlState_directory (h : Storable s) :
    loadControlState (some (controlStateDirectory s : Directory T)) =
      .ok ⟨controlStateManifest T s, s⟩ := by
  have hm := loadManifest_payloadDirectory (h := by simp) (controlStateManifest_valid (T := T) h)
    rfl (by simp; decide)
  have hread : (controlStateDirectory s : Directory T).read "state.json" =
      some (TextCodec.dump s) := payloadDirectory_read (by simp)
  have hload : ((controlStateDirectory s : Directory T).read "state.json").bind TextCodec.load =
      some s := by
    rw [hread]
    exact TextCodec.load_dump h.valid
  exact loadControlState_ok.mpr ⟨_, hm, rfl, hload, rfl, rfl, rfl, rfl, rfl⟩

/-- Exporting succeeds for the states an artifact can hold. -/
theorem exportControlState_ok : (exportControlState s : Except Error (Directory T)) = .ok d ↔
    Storable s ∧ d = controlStateDirectory s := by
  simp only [exportControlState, bind_eq_ok, writeManifest_ok, pure_eq_ok]
  constructor
  · rintro ⟨d', ⟨-, rfl⟩, loaded, hload, rfl⟩
    have hstorable := loadControlState_storable hload
    obtain ⟨d, hm, -, hs, -⟩ := loadControlState_ok.mp hload
    obtain ⟨hd, -⟩ := loadManifest_ok.mp hm
    obtain rfl := Option.some.inj hd
    rw [payloadDirectory_read (@List.mem_singleton_self _ _)] at hs
    have hsame : loaded.state = s := TextCodec.eq_of_load_dump hs
    exact ⟨hsame ▸ hstorable, rfl⟩
  · rintro ⟨h, rfl⟩
    exact ⟨_, ⟨controlStateManifest_valid h, rfl⟩, _, loadControlState_directory h, rfl⟩

-- ---------------------------------------------------------------------------
-- Receipts
-- ---------------------------------------------------------------------------

def executionManifest (T : Type) [RemediationText T] (r : ExecutionReceipt) :
    RemediationArtifactManifest :=
  newManifest .executionReceipt r.executionId r.incidentId "executed" (digest r.modelDump)
    (executionBindings r) [("receipt.json", (TextCodec.dump r : T))]

/-- A receipt's artifact. -/
def executionDirectory (r : ExecutionReceipt) : Directory T :=
  payloadDirectory (executionManifest T r) [("receipt.json", TextCodec.dump r)] receiptNames_nodup

/-- What holds of a receipt that an artifact can hold. -/
structure StorableReceipt (r : ExecutionReceipt) : Prop where
  valid : r.Valid
  hash : digest (.obj r.unsigned) = r.receiptSha256
  executionId : r.executionId.length ≤ 200
  incidentId : r.incidentId.length ≤ 200

theorem loadExecution_ok {root : Option (Directory T)} :
    loadExecution root = .ok loaded ↔
      ∃ d, loadManifest root ["receipt.json"] = .ok (d, loaded.manifest) ∧
        loaded.manifest.artifactType = .executionReceipt ∧
        (d.read "receipt.json").bind TextCodec.load = some loaded.receipt ∧
        digest (.obj loaded.receipt.unsigned) = loaded.receipt.receiptSha256 ∧
        loaded.manifest.payloadSha256 = digest loaded.receipt.modelDump ∧
        loaded.manifest.artifactId = loaded.receipt.executionId ∧
        loaded.manifest.incidentId = loaded.receipt.incidentId ∧
        loaded.manifest.status = "executed" ∧
        loaded.manifest.bindings.Perm (executionBindings loaded.receipt) := by
  simp only [loadExecution, bind_eq_ok, raiseIf_ok, ne_eq, Decidable.not_not, not_or,
    readModel, need_ok, exists_and_left, exists_const, pure_eq_ok, Prod.exists]
  constructor
  · rintro ⟨d, m, hm, htype, r, hr, hhash, hsha, ⟨hid, hinc⟩, hstatus, hb, rfl⟩
    exact ⟨d, hm, htype, hr, hhash, hsha, hid, hinc, hstatus, hb⟩
  · rintro ⟨d, hm, htype, hr, hhash, hsha, hid, hinc, hstatus, hb⟩
    exact ⟨d, _, hm, htype, _, hr, hhash, hsha, ⟨hid, hinc⟩, hstatus, hb, rfl⟩

theorem loadExecution_storable {root : Option (Directory T)}
    (h : loadExecution root = .ok loaded) : StorableReceipt loaded.receipt := by
  obtain ⟨d, hm, -, hr, hhash, -, hid, hinc, -, -⟩ := loadExecution_ok.mp h
  obtain ⟨t, -, hload⟩ := Option.bind_eq_some_iff.mp hr
  obtain ⟨-, -, text, -, hmload, -⟩ := loadManifest_ok.mp hm
  have hmv : loaded.manifest.Valid := TextCodec.load_valid hmload
  exact ⟨TextCodec.load_valid hload, hhash, hid ▸ hmv.artifactId.2, hinc ▸ hmv.incidentId.2⟩

theorem executionManifest_valid (h : StorableReceipt r) : (executionManifest T r).Valid := by
  refine newManifest_valid ⟨isIdentifier_length h.valid.executionId, h.executionId⟩
    ⟨isIdentifier_length h.valid.incidentId, h.incidentId⟩ (by decide) (digest_hex _) ?_
    (by simp; decide) (by simp)
  intro b hb
  simp only [executionBindings, List.mem_cons, List.not_mem_nil, or_false] at hb
  rcases hb with rfl | rfl | rfl | rfl
  · exact h.valid.afterStatePayloadSha256
  · exact h.valid.approvalSnapshotSha256
  · exact h.valid.beforeStateManifestSha256
  · exact h.valid.planSha256

theorem loadExecution_directory (h : StorableReceipt r) :
    loadExecution (some (executionDirectory r : Directory T)) = .ok ⟨executionManifest T r, r⟩ := by
  have hm := loadManifest_payloadDirectory (h := by simp) (executionManifest_valid (T := T) h)
    rfl (by simp; decide)
  have hread : (executionDirectory r : Directory T).read "receipt.json" =
      some (TextCodec.dump r) := payloadDirectory_read (by simp)
  have hload : ((executionDirectory r : Directory T).read "receipt.json").bind TextCodec.load =
      some r := by
    rw [hread]
    exact TextCodec.load_dump h.valid
  exact loadExecution_ok.mpr
    ⟨_, hm, rfl, hload, h.hash, rfl, rfl, rfl, rfl, List.Perm.refl _⟩

/-- Exporting succeeds for the receipts an artifact can hold. -/
theorem exportExecution_ok : (exportExecution r : Except Error (Directory T)) = .ok d ↔
    StorableReceipt r ∧ d = executionDirectory r := by
  simp only [exportExecution, bind_eq_ok, writeManifest_ok, pure_eq_ok]
  constructor
  · rintro ⟨d', ⟨-, rfl⟩, loaded, hload, rfl⟩
    have hstorable := loadExecution_storable hload
    obtain ⟨d, hm, -, hr, -⟩ := loadExecution_ok.mp hload
    obtain ⟨hd, -⟩ := loadManifest_ok.mp hm
    obtain rfl := Option.some.inj hd
    rw [payloadDirectory_read (@List.mem_singleton_self _ _)] at hr
    have hsame : loaded.receipt = r := TextCodec.eq_of_load_dump hr
    exact ⟨hsame ▸ hstorable, rfl⟩
  · rintro ⟨h, rfl⟩
    exact ⟨_, ⟨executionManifest_valid h, rfl⟩, _, loadExecution_directory h, rfl⟩

-- ---------------------------------------------------------------------------
-- Plans
-- ---------------------------------------------------------------------------

def planPayloads (T : Type) [RemediationText T] (config : RemediationConfig)
    (proposal : RemediationProposal) (plan : RemediationPlan) : List (String × T) :=
  [("remediation.config.resolved.json", TextCodec.dump config),
    ("proposal.json", TextCodec.dump proposal), ("plan.json", TextCodec.dump plan)]

def planManifest (T : Type) [RemediationText T] (config : RemediationConfig)
    (proposal : RemediationProposal) (plan : RemediationPlan) : RemediationArtifactManifest :=
  newManifest .remediationPlan plan.remediationId plan.incidentId plan.status.text
    (digest plan.modelDump) (planBindings plan) (planPayloads T config proposal plan)

/-- A plan's artifact. -/
def planDirectory (config : RemediationConfig) (proposal : RemediationProposal)
    (plan : RemediationPlan) : Directory T :=
  payloadDirectory (planManifest T config proposal plan) (planPayloads T config proposal plan)
    (by simp [planPayloads])

theorem loadPlan_valid {root : Option (Directory T)} (h : loadPlan root = .ok loaded) :
    loaded.plan.Valid ∧ verifyPlan loaded.plan = .ok () := by
  simp only [loadPlan, bind_eq_ok, raiseIf_ok, reraise_ok, readModel, need_ok, exists_and_left,
    exists_const, pure_eq_ok, Prod.exists] at h
  obtain ⟨d, m, -, -, config, -, proposal, -, plan, hp, _, hverify, -, -, -, -, -, rfl⟩ := h
  obtain ⟨t, -, hload⟩ := Option.bind_eq_some_iff.mp hp
  exact ⟨TextCodec.load_valid hload, hverify⟩

/-- A plan's artifact loads when the plan goes with the proposal. -/
theorem loadPlan_directory (hplan : plan.Valid) (hverify : verifyPlan plan = .ok ())
    (hproposal : proposal.Valid) (hsha : plan.proposalSha256 = digest proposal.modelDump)
    (hid : plan.remediationId.length ≤ 200) (hinc : plan.incidentId.length ≤ 200) :
    loadPlan (some (planDirectory config proposal plan : Directory T)) =
      .ok ⟨planManifest T config proposal plan, config, proposal, plan⟩ := by
  have hm : (planManifest T config proposal plan).Valid := by
    refine newManifest_valid ⟨isIdentifier_length hplan.remediationId, hid⟩
      ⟨isIdentifier_length hplan.incidentId, hinc⟩ ?_ (digest_hex _) ?_
      (by simp [planPayloads]; decide) (by simp [planPayloads])
    · cases plan.status <;> decide
    · intro b hb
      simp only [planBindings, List.mem_cons, List.not_mem_nil, or_false] at hb
      rcases hb with rfl | rfl | rfl
      · exact hplan.controlStateManifestSha256
      · exact hplan.investigationManifestSha256
      · exact hplan.investigationReportSha256
  have hload := loadManifest_payloadDirectory (h := by simp [planPayloads]) hm rfl
    (by simp [planPayloads]; decide)
  have hread : ∀ name text, (name, text) ∈ planPayloads T config proposal plan →
      (planDirectory config proposal plan : Directory T).read name = some text :=
    fun name text h => payloadDirectory_read h
  have hconfig : ((planDirectory config proposal plan : Directory T).read
      "remediation.config.resolved.json").bind TextCodec.load = some config := by
    rw [hread _ _ (by simp [planPayloads]; rfl)]
    exact TextCodec.load_dump trivial
  have hprop : ((planDirectory config proposal plan : Directory T).read
      "proposal.json").bind TextCodec.load = some proposal := by
    rw [hread _ _ (by simp [planPayloads]; rfl)]
    exact TextCodec.load_dump hproposal
  have hpl : ((planDirectory config proposal plan : Directory T).read
      "plan.json").bind TextCodec.load = some plan := by
    rw [hread _ _ (by simp [planPayloads]; rfl)]
    exact TextCodec.load_dump hplan
  simp only [loadPlan, bind_eq_ok, raiseIf_ok, reraise_ok, readModel, need_ok, exists_and_left,
    exists_const, pure_eq_ok, Prod.exists, ne_eq, Decidable.not_not, not_or]
  exact ⟨_, _, hload, rfl, config, hconfig, proposal, hprop, plan, hpl, (), hverify, rfl,
    ⟨rfl, rfl⟩, rfl, hsha, List.Perm.refl _, rfl⟩

end

end Paic.Remediation
