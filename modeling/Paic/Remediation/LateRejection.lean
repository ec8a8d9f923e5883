import Paic.Remediation.Veto

/-!
# A rejection that comes too late

The approval lock is free again while an execution stages its transaction. An
append that takes it then returns before `current.json` is replaced, and the
execution commits nevertheless.
-/

namespace Paic.Remediation

open Checks (bind_eq_ok)
open Prog (run_bind_returned run_read_bind run_ofExcept_bind run_touch)
open Relation (ReflTransGen)

section
variable {T : Type}

/-- A run comes to this world and these programs, and has not replaced `current.json`. -/
def Reached (start : System T) (w : World T)
    (execution : Prog Error (World T) (String × ExecutionReceipt))
    (appends : List (ApprovalDecision × Prog Error (World T) ApprovalLedgerRecord)) : Prop :=
  ∃ s, ReflTransGen System.Step start s ∧ s.world = w ∧ s.execution = execution ∧
    s.appends = appends ∧ ¬ s.replaced

variable {start : System T} {w w' : World T} {q q' : Prog Error (World T) ApprovalLedgerRecord}
  {p p' : Prog Error (World T) (String × ExecutionReceipt)}

theorem Reached.execution (h : Reached start w p appends) (hstep : p.Step w p' w')
    (hfile : w'.store.currentJson.file = w.store.currentJson.file) :
    Reached start w' p' appends := by
  obtain ⟨s, hrun, rfl, rfl, rfl, hnot⟩ := h
  refine ⟨_, hrun.tail (.execution hstep), rfl, rfl, rfl, ?_⟩
  rintro (hreplaced | hreplaces)
  · exact hnot hreplaced
  · exact hreplaces hfile

/-- An append that is not disturbed. -/
theorem Reached.append (h : Reached start w p (front ++ (decision, q) :: back))
    (hreaches : q.Reaches w q' w') : Reached start w' p (front ++ (decision, q') :: back) := by
  induction hreaches with
  | refl => exact h
  | step hready _ ih =>
    obtain ⟨s, hrun, rfl, rfl, happends, hnot⟩ := h
    exact ih ⟨_, hrun.tail (.append happends (.next hready)), rfl, rfl, rfl, hnot⟩

/-- So does one before the execution has evaluated the approvals. -/
theorem System.append_quiet (hreaches : q.Reaches w q' w') : ∀ s : System T, s.world = w →
    s.appends = front ++ (decision, q) :: back → ¬ s.evaluated →
    ReflTransGen (System.QuietStep plan) s
      { s with world := w', appends := front ++ (decision, q') :: back } := by
  induction hreaches with
  | refl =>
    rintro s rfl happends -
    rw [← happends]
  | step hready _ ih =>
    rintro s rfl happends hnot
    have hstep := System.Step.append happends (.next hready)
    exact .head ⟨hstep, fun hdeciding => absurd hdeciding.1 hnot⟩ (ih _ rfl rfl hnot)

/-- An execution that is not disturbed replaces `current.json`, or leaves it as it is. -/
theorem System.replaces_or (hreaches : p.Reaches w p' w') : ∀ s : System T, s.execution = p →
    s.world = w → ∃ s', ReflTransGen System.Step s s' ∧ (s.replaced → s'.replaced) ∧
      (s'.replaced ∨ w'.store.currentJson.file = w.store.currentJson.file) := by
  induction hreaches with
  | refl => exact fun s _ _ => ⟨s, .refl, id, .inr rfl⟩
  | @step ready next act _ _ raised w hready _ ih =>
    rintro s hexecution rfl
    let s₁ : System T :=
      { s with
        world := act s.world
        execution := next s.world
        evaluated := s.evaluated ∨ TakesLock s.world (act s.world)
        replaced := s.replaced ∨ Replaces s.world (act s.world) }
    have hstep : s.Step s₁ := .execution (hexecution ▸ .next hready)
    obtain ⟨s', hrun, hmono, hend⟩ := ih s₁ rfl rfl
    refine ⟨s', .head hstep hrun, fun h => hmono (.inl h), ?_⟩
    by_cases hreplaces : Replaces s.world (act s.world)
    · exact .inl (hmono (.inr hreplaces))
    · exact hend.imp_right fun hfile => hfile.trans (not_not.mp hreplaces)

end

section
variable {T : Type} [RemediationText T] [Hashing]

theorem appendDecision_run {w : World T} (hlock : w.approvalLock = false)
    (happend : w.ledger.append decision = .ok (record, ledger)) :
    (appendDecision decision).run w = .returned record { w with ledger } := by
  obtain ⟨records, hrecords, hrest⟩ := bind_eq_ok.mp happend
  obtain ⟨next, hnext, hpure⟩ := bind_eq_ok.mp hrest
  obtain ⟨rfl, rfl⟩ := Prod.mk.inj (Checks.pure_eq_ok.mp hpure)
  have hinside : (do
      let records ← Prog.read fun w : World T => w.ledger.validate
      let record ← Prog.ofExcept (nextRecord records decision)
      Prog.modify fun w => { w with ledger := ⟨w.ledger.lines ++ [TextCodec.dump record]⟩ }
      Prog.touch
      pure record : Prog Error (World T) ApprovalLedgerRecord).run { w with approvalLock := true } =
      .returned next { w with
        approvalLock := true, ledger := ⟨w.ledger.lines ++ [TextCodec.dump next]⟩ } := by
    rw [run_read_bind (f := fun w : World T => w.ledger.validate) { w with approvalLock := true }
      hrecords, run_ofExcept_bind hnext]
    rfl
  have hrun := withApprovalLock_run hlock hinside
  rw [appendDecision, hrun, ← hlock]

variable [TokenFormat]

/-- What is left of an execution that has evaluated the approvals. -/
def publishing (call : ExecuteCall) (before : BeforeState) (after : ControlState)
    (receipt : ExecutionReceipt) : Prog Error (World T) (String × ExecutionReceipt) :=
  ((publishTransaction call.plan before after receipt).within World.storePart).ensuring
    (Prog.modify fun w => { w with stateLock := false })

/-- An authorized execution comes to publish its transaction, with the approval lock free. -/
theorem reached_publishing {call : ExecuteCall} {w : World T} {before : BeforeState}
    (hlocks : w.stateLock = false ∧ w.approvalLock = false)
    (ha : Authorized call w before after receipt) (decisions : List ApprovalDecision) :
    Reached (System.start w call decisions) { w with stateLock := true, approvalLock := false }
      (publishing call before after receipt)
      (decisions.map fun decision => (decision, appendDecision decision)) := by
  have hstart : Reached (System.start w call decisions) w (execute call)
      (decisions.map fun decision => (decision, appendDecision decision)) :=
    ⟨_, .refl, rfl, rfl, rfl, id⟩
  let w₁ : World T := { w with stateLock := true }
  let w₂ : World T := { w₁ with approvalLock := true }
  let read : Prog Error (World T) BeforeState := Prog.read fun w => w.store.before call.plan
  let evaluate : Prog Error (World T) (ControlState × ExecutionReceipt) :=
    Prog.read fun w => authorized call before w.ledger
  have hbefore : read.Step w₁ (.done before) w₁ := .read ha.current
  have hauthorized : evaluate.Step w₂ (.done (after, receipt)) w₂ := .read ha.executed
  have htouched := hstart.execution ((Prog.Step.modify id).bind _) rfl
  have hlocked := htouched.execution ((Prog.Step.await (by simp [hlocks.1])).bind _) rfl
  have hread := hlocked.execution ((hbefore.bind _).ensuring _) rfl
  have hwaited := hread.execution
    ((((Prog.Step.await (by simp [w₁, hlocks.2])).bind _).bind _).ensuring _) rfl
  have hevaluated := hwaited.execution (((hauthorized.ensuring _).bind _).ensuring _) rfl
  exact hevaluated.execution ((((Prog.Step.modify _).bind _).bind _).ensuring _) rfl

/-- A rejection that is appended while the transaction is staged does not stop it. -/
theorem rejection_too_late {call : ExecuteCall} {w : World T} {before : BeforeState}
    (h : w.store.Inv p state) (hlocks : w.stateLock = false ∧ w.approvalLock = false)
    (ha : Authorized call w before after receipt) (hstaged : w.store.currentJson.staged = none)
    (hafter : Storable after) (hreceipt : StorableReceipt receipt)
    (happend : w.ledger.append decision = .ok (record, ledger)) :
    ∃ s s', ReflTransGen System.Step (System.start w call [decision]) s ∧
      s.Completed decision ∧ ¬ s.replaced ∧ ReflTransGen System.Step s s' ∧ s'.replaced := by
  obtain ⟨hp, hstate, -⟩ := h.before_ok ha.current
  obtain ⟨hload, hmanifest, hgen⟩ := before_loads ha.current
  obtain ⟨status, -, hexec⟩ := bind_eq_ok.mp ha.executed
  obtain ⟨-, -, -, -, hbound, hpayload⟩ := executePlan_receipt hexec
  obtain ⟨hnext, -⟩ := h.authorized ha
  have hdir : before.pointer.directory ≠ (nextPointer before receipt).directory := by
    rw [hp, hnext]
    exact h.ne_directory (h.next_entryGeneration hreceipt.valid.receiptSha256)
  obtain ⟨store, hrun, hc⟩ := publishTransaction_run h.regular hgen hstaged hafter
    hreceipt hload (by rw [hbound]; exact hmanifest) hpayload (executePlan_verifies hexec) hdir
  let w₁ : World T := { w with stateLock := true, approvalLock := false }
  have hpublishing : Reached (System.start w call [decision]) w₁
      (publishing call before after receipt) ([] ++ (decision, appendDecision decision) :: []) :=
    reached_publishing hlocks ha [decision]
  obtain ⟨s, hs, hworld, hexecution, happends, hnot⟩ :=
    hpublishing.append (Prog.Reaches.of_run (appendDecision_run rfl happend))
  have hpublished : (publishing call before after receipt).run { w₁ with ledger } =
      .returned ((nextPointer before receipt).directory, receipt)
        { w₁ with ledger, store, stateLock := false } := by
    have hinside : ((publishTransaction call.plan before after receipt).within World.storePart).run
        { w₁ with ledger } = .returned ((nextPointer before receipt).directory, receipt)
          { w₁ with ledger, store } := by
      rw [Prog.run_within]
      exact congrArg (Prog.Outcome.mapState _) hrun
    rw [publishing, Prog.run_ensuring, hinside]
    rfl
  have hfile : store.currentJson.file ≠ w.store.currentJson.file := by
    rw [hc.written.2, h.pointer, Ne, Option.some.injEq]
    intro hjson
    have hgeneration := congrArg Pointer.generation (Pointer.json_injective hjson)
    simp only [hnext, Pointer.ofReceipt] at hgeneration
    omega
  have hreaches : s.execution.Reaches s.world
      (.done ((nextPointer before receipt).directory, receipt))
      { w₁ with ledger, store, stateLock := false } := by
    rw [hexecution, hworld]
    exact Prog.Reaches.of_run hpublished
  obtain ⟨s', hlater, -, hreplaced⟩ := System.replaces_or hreaches s rfl rfl
  refine ⟨s, s', hs, ⟨record, by rw [happends]; exact List.mem_cons_self⟩, hnot, hlater,
    hreplaced.resolve_right ?_⟩
  rw [hworld]
  exact hfile

end

-- ---------------------------------------------------------------------------
-- The sample's plan, which bob rejects
-- ---------------------------------------------------------------------------

namespace Sample

def storeRejection : ApprovalDecision :=
  decision bob .reject "bob keeps another key of more than 32 bytes" "nonce of bobby 1" storePlan

def bobAttestation : ApprovalAttestation :=
  { keyId := "bob-key"
    nonce := "nonce of bobby 1"
    signature := hmac "bob keeps another key of more than 32 bytes"
      (attestationPayload storeRejection "sre" "bob-key" "nonce of bobby 1") }

theorem storeRejection_valid : storeRejection.Valid where
  planSha256 := digest_hex _
  approverId := (by decide : isIdentifier "bob" = true)
  approverGroup := (by decide : isIdentifier "sre" = true)
  reason := (by decide : textIn "Reviewed." 1 2000)
  decidedAt := rfl
  attestation a ha := by
    obtain rfl := Option.mem_some.mp ha
    exact ⟨(by decide : isIdentifier "bob-key" = true),
      (by decide : textIn "nonce of bobby 1" 16 200), Hashing.hmac_hex _ _⟩

theorem storeRejection_attested :
    AttestedBy call.environ call.config bob storeRejection bobAttestation := by
  refine ⟨List.mem_cons_of_mem _ List.mem_cons_self, rfl, rfl, rfl, rfl, _, ?_, rfl⟩
  exact Option.filter_eq_some_iff.mpr ⟨rfl, by decide⟩

/-- Bob has not decided before. -/
theorem storeRejection_appends :
    ∃ record ledger', ledger.append storeRejection = .ok (record, ledger') := by
  have happroval : ∀ d ∈ [storeApproval], d.Valid :=
    List.forall_mem_singleton.mpr (approval_valid (digest_hex _))
  have hvalidate : ledger.validate = .ok (chain 1 zeroHash [storeApproval]) :=
    ledgerOf_validate happroval (List.nodup_singleton _)
  have hnew : ∀ r ∈ chain 1 zeroHash [storeApproval],
      r.decision.approverId ≠ storeRejection.approverId :=
    List.forall_mem_singleton.mpr (by decide : "alice" ≠ "bob")
  obtain ⟨record, hrecord⟩ := ApprovalLedger.nextRecord_of_new
    (chain_valid (le_refl 1) zeroHash_isSha256 happroval) hnew storeRejection_valid
  exact ⟨record, _, bind_eq_ok.mpr ⟨_, hvalidate, bind_eq_ok.mpr ⟨record, hrecord, rfl⟩⟩⟩

end Sample

section
local instance vetoTokens : TokenFormat := Sample.storeTokens

/-- Bob's rejection is appended while the approved execution stages its
transaction, and the plan is executed. -/
theorem rejection_does_not_veto : ∃ (w₀ : World Sample.Text) (s s' : System Sample.Text),
    Initialized w₀ Sample.state ∧
    Sample.storeRejection.Rejects Sample.call.plan ∧
    AttestedBy Sample.call.environ Sample.call.config Sample.bob Sample.storeRejection
      Sample.bobAttestation ∧
    ReflTransGen System.Step
      (System.start (w₀.later Sample.ledger) Sample.call [Sample.storeRejection]) s ∧
    s.Completed Sample.storeRejection ∧ ¬ s.replaced ∧
    ReflTransGen System.Step s s' ∧ s'.replaced := by
  obtain ⟨w₀, h₀, hdir, hstaged⟩ := Sample.initialized
  have hinv : (w₀.later Sample.ledger).store.Inv .initial Sample.state := h₀.inv rfl
  obtain ⟨before, after, receipt, hauth, hafter, hreceipt⟩ :=
    Sample.call_authorized hinv hdir rfl
  obtain ⟨record, ledger, happend⟩ := Sample.storeRejection_appends
  obtain ⟨s, s', hs, hcompleted, hnot, hlater, hreplaced⟩ :=
    rejection_too_late hinv ⟨rfl, rfl⟩ hauth hstaged hafter hreceipt happend
  exact ⟨w₀, s, s', h₀, ⟨rfl, rfl⟩, Sample.storeRejection_attested, hs, hcompleted, hnot,
    hlater, hreplaced⟩

/-- Bob's rejection is appended before the execution takes its first step. -/
theorem rejection_vetoes_sample : ∃ (w₀ : World Sample.Text) (s s' : System Sample.Text),
    Initialized w₀ Sample.state ∧
    ReflTransGen (System.QuietStep Sample.call.plan)
      (System.start (w₀.later Sample.ledger) Sample.call [Sample.storeRejection]) s ∧
    s.Completed Sample.storeRejection ∧ s.Step s' ∧ ¬ s'.replaced := by
  obtain ⟨w₀, h₀, -, -⟩ := Sample.initialized
  obtain ⟨record, ledger, happend⟩ := Sample.storeRejection_appends
  let start := System.start (w₀.later Sample.ledger) Sample.call [Sample.storeRejection]
  let s : System Sample.Text :=
    { start with
      world := { w₀.later Sample.ledger with ledger }
      appends := [] ++ (Sample.storeRejection, .done record) :: [] }
  have happended := Prog.Reaches.of_run
    (appendDecision_run (w := w₀.later Sample.ledger) rfl happend)
  have hquiet : ReflTransGen (System.QuietStep Sample.call.plan) start s :=
    System.append_quiet happended start rfl rfl id
  have hcompleted : s.Completed Sample.storeRejection := ⟨record, List.mem_cons_self⟩
  have hrejects : Sample.storeRejection.Rejects Sample.call.plan := ⟨rfl, rfl⟩
  have hstep : s.Step _ := .execution ((Prog.Step.modify id).bind _)
  exact ⟨w₀, s, _, h₀, hquiet, hcompleted, hstep,
    rejection_vetoes _ Sample.call _ hquiet hrejects hcompleted id (.single hstep)⟩

end

end Paic.Remediation
