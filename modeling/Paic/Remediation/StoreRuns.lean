import Paic.Remediation.StoreInvariant

/-!
# Undisturbed calls

A call that is authorized returns, and commits, on a store without a leftover
`.tmp` file; and a new directory can be initialized from every artifact that
loads.
-/

namespace Paic.Remediation

open Checks
open Prog (run_read run_bind_returned run_op_bind run_read_bind run_ofExcept_bind run_touch run_within
  run_handle run_ensuring run_await)
open StateStore

-- ---------------------------------------------------------------------------
-- Undisturbed runs
-- ---------------------------------------------------------------------------

theorem clearDestination_run {s : StateStore T} {pointer next : Pointer} (hs : s.Regular)
    (hlt : pointer.generation < next.generation) :
    ∃ s', (clearDestination pointer next).run s = .returned () s' ∧
      Cleared next.directory s s' := by
  rw [clearDestination, run_read_bind s (a := s.generations.lookup next.directory) rfl]
  cases hfound : s.generations.lookup next.directory with
  | none => exact ⟨s, rfl, rfl, rfl, (without_of_not_found hfound).symm⟩
  | some entry =>
    have hdir : entry.isDirectory = true := by
      obtain ⟨l, r, hsplit, -⟩ := List.lookup_eq_some_iff.mp hfound
      exact hs.directories (next.directory, entry) (by rw [hsplit]; simp)
    simp only [hlt, hdir, and_self, ↓reduceIte]
    exact ⟨_, rfl, rfl, rfl, filter_emptied _ _⟩

section
variable {T : Type} [RemediationText T] [Hashing]

/-- The part of `validate_execution` that needs no plan. -/
theorem validateExecution_bound {path beforeDir afterDir : Option (Directory T)}
    (he : loadExecution path = .ok e) (hb : loadControlState beforeDir = .ok b)
    (ha : loadControlState afterDir = .ok a)
    (hbefore : manifestSha256 beforeDir = .ok e.receipt.beforeStateManifestSha256)
    (hafter : digest a.state.modelDump = e.receipt.afterStatePayloadSha256) :
    validateExecution path none (some beforeDir) (some afterDir) = .ok [] := by
  simp [validateExecution, he, boundArtifact, hb, ha, hbefore, hafter, transitionIssues, Except.map,
    reasonIf]

/-- Everything of a transaction but the pointer is written. -/
theorem stageAndCommit_reaches (key : Nat) {before : BeforeState} {s s₁ : StateStore T}
    (h : Cleared next.directory s s₁) (hafter : Storable after)
    (hreceipt : StorableReceipt receipt)
    (hbefore : loadControlState (s.stateDir before.pointer.directory) = .ok before.loaded)
    (hmanifest : manifestSha256 (s.stateDir before.pointer.directory) =
      .ok receipt.beforeStateManifestSha256)
    (hpayload : receipt.afterStatePayloadSha256 = digest after.modelDump)
    (hverify : verifyExecutionTransition plan before.loaded.state after receipt = .ok ())
    (hne : before.pointer.directory ≠ next.directory) :
    ∃ s', (stageAndCommit key plan before after receipt next).Reaches s₁
        ((writeJsonAtomic next.json).within StateStore.currentJsonPart) s' ∧
      s'.storeJson = s.storeJson ∧ s'.currentJson = s.currentJson ∧
      s'.generations = s.placed next.directory (transaction after receipt) := by
  have hdir : ∀ prepared, StateStore.stateDir
      { s₁ with prepared } before.pointer.directory = s.stateDir before.pointer.directory := by
    intro prepared
    simp only [stateDir, StateStore.generation, h.generations, StateStore.without,
      lookup_filter_ne hne]
  have hfree : s₁.generations.lookup next.directory = none := by
    rw [h.generations, List.lookup_eq_none_iff]
    intro e he
    simpa using Ne.symm (mem_without.mp he).2
  let staged : Generation T := ⟨some (controlStateDirectory after), none⟩
  let s₂ := s₁.setPrepared key staged
  let s₃ := s₂.setPrepared key (transaction after receipt)
  have hexport : (exportControlState after >>= fun d =>
      pure ((), s₁.setPrepared key ⟨some d, none⟩)) = Except.ok ((), s₂) := by
    rw [exportControlState_ok.mpr ⟨hafter, rfl⟩]
    rfl
  have hexport' : (exportExecution receipt >>= fun d =>
      pure ((), s₂.setPrepared key ⟨(s₂.preparedDir key).bind Generation.state, some d⟩)) =
        Except.ok ((), s₃) := by
    rw [exportExecution_ok.mpr ⟨hreceipt, rfl⟩]
    simp [s₂, s₃, staged, transaction, pure, Except.pure]
  have hvalid : validateExecution ((s₃.preparedDir key).bind Generation.execution) none
      (some (s₃.stateDir before.pointer.directory))
      (some ((s₃.preparedDir key).bind Generation.state)) = .ok [] := by
    rw [preparedDir_setPrepared, show s₃.stateDir _ = _ from hdir _]
    exact validateExecution_bound (loadExecution_directory hreceipt) hbefore
      (loadControlState_directory hafter) hmanifest hpayload.symm
  let s₄ : StateStore T := { s₃.discard key with
    generations := s₃.generations ++ [(next.directory, .directory (transaction after receipt))] }
  have hreplace : s₃.replaceGeneration key next.directory = .ok ((), s₄) := by
    rw [replaceGeneration, preparedDir_setPrepared]
    simp [need, raiseIf, s₃, s₂, setPrepared, hfree, s₄, pure, Except.pure]
  refine ⟨s₄, ?_, h.storeJson, h.currentJson, ?_⟩
  · refine (Prog.Reaches.op s₁ hexport _).trans ?_
    refine (Prog.Reaches.op s₂ hexport' _).trans ?_
    refine (Prog.Reaches.read s₃ hvalid _).trans ?_
    refine (Prog.Reaches.ofExcept s₃ (raiseIf_neg (by simp)) _).trans ?_
    refine (Prog.Reaches.ofExcept s₃ hverify _).trans ?_
    refine (Prog.Reaches.op s₃ hreplace _).trans ?_
    exact Prog.Reaches.of_returned (run_touch s₄) _
  · show s₁.generations ++ _ = _
    rw [h.generations]
    rfl

theorem stageAndCommit_run (key : Nat) {before : BeforeState} {s s₁ : StateStore T}
    (h : Cleared next.directory s s₁) (hstaged : s.currentJson.staged = none)
    (hafter : Storable after) (hreceipt : StorableReceipt receipt)
    (hbefore : loadControlState (s.stateDir before.pointer.directory) = .ok before.loaded)
    (hmanifest : manifestSha256 (s.stateDir before.pointer.directory) =
      .ok receipt.beforeStateManifestSha256)
    (hpayload : receipt.afterStatePayloadSha256 = digest after.modelDump)
    (hverify : verifyExecutionTransition plan before.loaded.state after receipt = .ok ())
    (hne : before.pointer.directory ≠ next.directory) :
    ∃ s', (stageAndCommit key plan before after receipt next).run s₁ = .returned () s' ∧
      Committed next after receipt s s' := by
  obtain ⟨s₄, hreaches, hstore, hcurrent, hplaced⟩ := stageAndCommit_reaches key h hafter hreceipt
    hbefore hmanifest hpayload hverify hne
  have hwrite := writeJsonAtomic_run (T := T) next.json (f := s₄.currentJson)
    (by rw [hcurrent]; exact hstaged)
  refine ⟨{ s₄ with currentJson := ⟨some (FileText.json next.json), none⟩ }, ?_, ?_⟩
  · rw [hreaches.run, run_within]
    exact congrArg (Prog.Outcome.mapState _) hwrite
  · exact ⟨hstore, ⟨hstaged, rfl⟩, hplaced, hafter, hreceipt⟩

/-- The destination is free and the transaction's directory is there. -/
theorem publishTransaction_reaches (plan : RemediationPlan) (after : ControlState)
    {before : BeforeState} {s : StateStore T} (hs : s.Regular)
    (hgen : before.loaded.state.generation = before.pointer.generation)
    (hnext : Pointer.ofReceipt (before.pointer.generation + 1) receipt = next) :
    ∃ key s', Cleared next.directory s s' ∧
      (publishTransaction plan before after receipt).Reaches s
        ((stageAndCommit key plan before after receipt next).handle (fun e => do
            Prog.modify fun s => s.discard key
            .raise e) >>= fun _ => pure (next.directory, receipt)) s' := by
  have hlt : before.pointer.generation < next.generation := by
    rw [← hnext]
    exact Nat.lt_succ_self _
  obtain ⟨s₁, hclear, hc⟩ := clearDestination_run hs hlt
  obtain ⟨key, s₂, hkey⟩ : ∃ key s₂, s₁.mkdtemp = (key, s₂) := ⟨_, _, rfl⟩
  refine ⟨key, s₂, ?_, ?_⟩
  · obtain ⟨-, rfl⟩ := Prod.mk.inj hkey
    exact ⟨hc.storeJson, hc.currentJson, hc.generations⟩
  · rw [publishTransaction, hgen, hnext]
    refine (Prog.Reaches.of_returned hclear _).trans ?_
    exact Prog.Reaches.op s₁ (a := key) (congrArg Except.ok hkey) _

theorem publishTransaction_run {before : BeforeState} {s : StateStore T} (hs : s.Regular)
    (hgen : before.loaded.state.generation = before.pointer.generation)
    (hstaged : s.currentJson.staged = none) (hafter : Storable after)
    (hreceipt : StorableReceipt receipt)
    (hbefore : loadControlState (s.stateDir before.pointer.directory) = .ok before.loaded)
    (hmanifest : manifestSha256 (s.stateDir before.pointer.directory) =
      .ok receipt.beforeStateManifestSha256)
    (hpayload : receipt.afterStatePayloadSha256 = digest after.modelDump)
    (hverify : verifyExecutionTransition plan before.loaded.state after receipt = .ok ())
    (hne : before.pointer.directory ≠ (nextPointer before receipt).directory) :
    ∃ s', (publishTransaction plan before after receipt).run s =
        .returned ((nextPointer before receipt).directory, receipt) s' ∧
      Committed (nextPointer before receipt) after receipt s s' := by
  obtain ⟨key, s₂, hc, hreaches⟩ := publishTransaction_reaches plan after hs hgen (rfl : _ = nextPointer before receipt)
  obtain ⟨s₃, hstage, hcommitted⟩ := stageAndCommit_run key hc hstaged hafter hreceipt
    hbefore hmanifest hpayload hverify hne
  refine ⟨s₃, ?_, hcommitted⟩
  rw [hreaches.run, run_bind_returned (by
    rw [run_handle]
    exact congrArg (fun o => Prog.Outcome.orElse o _) hstage)]
  rfl

theorem withStateLock_run {p : Prog Error (World T) α} {w : World T} (hw : w.stateLock = false)
    (h : p.run { w with stateLock := true } = .returned a w') :
    (withStateLock p).run w = .returned a { w' with stateLock := false } := by
  rw [withStateLock, run_bind_returned (by rw [run_await, if_pos (by simp [hw])]), run_ensuring, h]
  rfl

theorem withApprovalLock_run {p : Prog Error (World T) α} {w : World T}
    (hw : w.approvalLock = false) (h : p.run { w with approvalLock := true } = .returned a w') :
    (withApprovalLock p).run w = .returned a { w' with approvalLock := false } := by
  rw [withApprovalLock, run_bind_returned (by rw [run_await, if_pos (by simp [hw])]), run_ensuring,
    h]
  rfl

omit [Hashing] in
theorem writeJsonAtomic_crashes (value : Json) {f : JsonFile T} (h : f.staged = none) :
    (writeJsonAtomic value).Crashes f { f with staged := some FileText.empty } := by
  refine (Prog.Reaches.op f (a := ()) ?_ _).crashes (Prog.Crashes.bind .here _)
  rw [h]

/-- In an empty directory `initialize` comes to its last file. -/
theorem initializeStore_reaches {initial : Option (Directory T)}
    (hload : loadControlState initial = .ok loaded) (sha : String) :
    ∃ key s, (initializeStore initial loaded sha).Reaches .empty
        (((writeJsonAtomic Pointer.initial.json).within currentJsonPart).handle fun e => do
          Prog.modify fun s => s.discard key
          .raise e) s ∧
      s.storeJson.file = some (FileText.json (storeMeta sha loaded.state)) ∧
      s.currentJson = ⟨none, none⟩ := by
  let s₀ : StateStore T := .empty
  let key := s₀.mkdtemp.1
  let s₁ : StateStore T := s₀.mkdtemp.2
  let s₂ := s₁.setPrepared key ⟨initial, none⟩
  have hcopied : loadControlState ((s₂.preparedDir key).bind Generation.state) = .ok loaded := by
    rw [preparedDir_setPrepared]
    exact hload
  let s₃ : StateStore T := { s₂.discard key with
    generations := [(zeroPadded 0, .directory ⟨initial, none⟩)] }
  have hreplace : s₂.replaceGeneration key (zeroPadded 0) = .ok ((), s₃) := by
    rw [replaceGeneration, preparedDir_setPrepared]
    simp [need, raiseIf, s₂, s₁, s₀, setPrepared, StateStore.mkdtemp, StateStore.empty, s₃,
      StateStore.discard, pure, Except.pure]
  let s₄ : StateStore T :=
    { s₃ with storeJson := ⟨some (FileText.json (storeMeta sha loaded.state)), none⟩ }
  have hstore : ((writeJsonAtomic (storeMeta sha loaded.state)).within storeJsonPart).run s₃ =
      .returned () s₄ := by
    rw [run_within]
    exact congrArg (Prog.Outcome.mapState _) (writeJsonAtomic_run _ rfl)
  have hbound : (Except.ok s₀.storeJson.file : Except Error (Option T)) = .ok none := rfl
  have horphan : (Except.ok (s₀.generations.lookup (zeroPadded 0)) :
      Except Error (Option (Entry T))) = .ok none := rfl
  have hkey : (Except.ok s₀.mkdtemp : Except Error _) = .ok (key, s₁) := rfl
  refine ⟨key, s₄, ?_, rfl, rfl⟩
  show (initializeStore initial loaded sha).Reaches s₀ _ s₄
  refine (Prog.Reaches.read s₀ hbound _).trans ?_
  refine (Prog.Reaches.read s₀ horphan _).trans ?_
  refine (Prog.Reaches.ofExcept s₀ (raiseIf_neg (by simp)) _).trans ?_
  refine (Prog.Reaches.op s₀ hkey _).trans (Prog.Reaches.handle ?_ _)
  refine (Prog.Reaches.of_returned (Prog.run_modify _ _) _).trans ?_
  refine (Prog.Reaches.read s₂ hcopied _).trans ?_
  refine (Prog.Reaches.ofExcept s₂ (raiseIf_neg (by simp)) _).trans ?_
  refine (Prog.Reaches.op s₂ hreplace _).trans ?_
  refine (Prog.Reaches.of_returned (run_touch s₃) _).trans ?_
  exact Prog.Reaches.of_returned hstore _

theorem initializeFrom_reaches {initial : Option (Directory T)} {w : World T}
    (hload : loadControlState initial = .ok loaded) (hsha : manifestSha256 initial = .ok sha) :
    (initializeFrom initial).Reaches w
      (withStateLock ((initializeStore initial loaded sha).within World.storePart)) w := by
  refine (Prog.Reaches.ofExcept w hload _).trans ?_
  refine (Prog.Reaches.ofExcept w hsha _).trans ?_
  exact Prog.Reaches.of_returned (run_touch w) _

/-- A new directory can be set up from every artifact that loads. -/
theorem initializeFrom_run {initial : Option (Directory T)} {w : World T}
    (hw : w.store = .empty) (hlock : w.stateLock = false)
    (hload : loadControlState initial = .ok loaded) :
    ∃ w', (initializeFrom initial).run w = .returned () w' := by
  obtain ⟨sha, hsha, -⟩ := loadControlState_manifestSha256 hload
  obtain ⟨key, s, hreaches, -, hcurrent⟩ := initializeStore_reaches hload sha
  let s' : StateStore T :=
    { s with currentJson := ⟨some (FileText.json Pointer.initial.json), none⟩ }
  have hs' : (initializeStore initial loaded sha).run .empty = .returned () s' := by
    rw [hreaches.run, run_handle, run_within,
      show currentJsonPart.get s = ⟨none, none⟩ from hcurrent, writeJsonAtomic_run _ rfl]
    rfl
  have hinside : ((initializeStore initial loaded sha).within World.storePart).run
      { w with stateLock := true } = .returned () { w with store := s', stateLock := true } := by
    rw [run_within, show World.storePart.get { w with stateLock := true } = .empty from hw, hs']
    rfl
  refine ⟨{ w with store := s', stateLock := false }, ?_⟩
  rw [(initializeFrom_reaches hload hsha).run]
  exact withStateLock_run hlock hinside

/-- `initialize` can crash between its two files. -/
theorem initializeFrom_crashes {initial : Option (Directory T)} {w : World T}
    (hw : w.store = .empty) (hlock : w.stateLock = false)
    (hload : loadControlState initial = .ok loaded) :
    ∃ w', (initializeFrom initial).Crashes w w' ∧ w'.store.storeJson.file ≠ none ∧
      w'.store.currentJson.file = none := by
  obtain ⟨sha, hsha, -⟩ := loadControlState_manifestSha256 hload
  obtain ⟨key, s, hreaches, hstore, hcurrent⟩ := initializeStore_reaches hload sha
  have hstaged : s.currentJson.staged = none := by rw [hcurrent]
  have hwrite := writeJsonAtomic_crashes (T := T) Pointer.initial.json hstaged
  let left : StateStore T := currentJsonPart.put s ⟨s.currentJson.file, some FileText.empty⟩
  have hinside : (initializeStore initial loaded sha).Crashes w.store left := by
    rw [hw]
    exact hreaches.crashes ((Prog.Crashes.within currentJsonPart hwrite).handle _)
  let locked : World T := { w with stateLock := true }
  refine ⟨World.storePart.put locked left, (initializeFrom_reaches hload hsha).crashes ?_, ?_⟩
  · refine (Prog.Reaches.of_returned (by rw [run_await, if_pos (by simp [hlock])]) _).crashes ?_
    exact (Prog.Crashes.within World.storePart (s := locked) hinside).ensuring _
  · exact ⟨by simp [World.storePart, left, currentJsonPart, hstore],
      by simp [World.storePart, left, currentJsonPart, hcurrent]⟩

variable [TokenFormat]

/-- What `execute_plan` returns can be exported as long as the lists have room
and the request's id is no longer than an artifact's. -/
theorem executePlan_storable (hs : Storable s)
    (h : executePlan plan s status config request token secret manifest = .ok (after, receipt))
    (he : s.executedPlanHashes.length < 10000) (hc : s.consumedTokenNonceHashes.length < 10000)
    (hid : request.executionId.length ≤ 200) : Storable after ∧ StorableReceipt receipt := by
  obtain ⟨hadv, hvalid⟩ := executePlan_advances hs.valid h
  obtain ⟨hreceipt, hhash, hexec, hinc, -, -⟩ := executePlan_receipt h
  exact ⟨⟨hvalid he hc, hadv.stateId ▸ hs.stateId, hadv.incidentId ▸ hs.incidentId⟩,
    ⟨hreceipt, hhash, hexec ▸ hid, hinc ▸ hs.incidentId⟩⟩

theorem authorized_run {call : ExecuteCall} {w : World T} {before : BeforeState}
    (hlock : w.approvalLock = false) (ha : Authorized call w before after receipt) :
    (withApprovalLock (Prog.read fun w => authorized call before w.ledger)).run
        { w with stateLock := true } =
      .returned (after, receipt) { w with stateLock := true, approvalLock := false } := by
  have hread : (Prog.read fun w : World T => authorized call before w.ledger).run
      { w with stateLock := true, approvalLock := true } =
      .returned (after, receipt) { w with stateLock := true, approvalLock := true } := by
    rw [run_read, show authorized call before w.ledger = .ok (after, receipt) from ha.executed]
  have hfree : ({ w with stateLock := true } : World T).approvalLock = false := hlock
  exact withApprovalLock_run hfree hread

/-- An authorized call returns when nothing is in its way. -/
theorem execute_run {call : ExecuteCall} {w : World T} {before : BeforeState}
    (h : w.store.Inv p state) (hlocks : w.stateLock = false ∧ w.approvalLock = false)
    (ha : Authorized call w before after receipt) (hstaged : w.store.currentJson.staged = none)
    (hafter : Storable after) (hreceipt : StorableReceipt receipt) :
    ∃ w', (execute call).run w = .returned ((nextPointer before receipt).directory, receipt) w' ∧
      Committed (nextPointer before receipt) after receipt w.store w'.store ∧
      w'.stateLock = false ∧ w'.approvalLock = false := by
  obtain ⟨hp, hstate, -⟩ := h.before_ok ha.current
  obtain ⟨hload, hmanifest, hgen⟩ := before_loads ha.current
  obtain ⟨status, -, hexec⟩ := bind_eq_ok.mp ha.executed
  obtain ⟨-, -, -, -, hbound, hpayload⟩ := executePlan_receipt hexec
  obtain ⟨hnext, -⟩ := h.authorized ha
  have hdir : before.pointer.directory ≠ (nextPointer before receipt).directory := by
    rw [hp, hnext]
    exact h.ne_directory (h.next_entryGeneration hreceipt.valid.receiptSha256)
  obtain ⟨s', hrun, hc⟩ := publishTransaction_run h.regular hgen hstaged hafter
    hreceipt hload (by rw [hbound]; exact hmanifest) hpayload
    (executePlan_verifies hexec) hdir
  refine ⟨{ w with store := s', stateLock := false, approvalLock := false }, ?_, hc, rfl, rfl⟩
  rw [execute, ensureRegularRoot, run_bind_returned (run_touch _)]
  refine withStateLock_run hlocks.1
    (?_ : _ = Prog.Outcome.returned _ { w with store := s', stateLock := true, approvalLock := false })
  rw [run_read_bind (f := fun w : World T => w.store.before call.plan) { w with stateLock := true }
    ha.current, run_bind_returned (authorized_run hlocks.2 ha)]
  rw [run_within]
  exact congrArg (Prog.Outcome.mapState _) hrun

-- ---------------------------------------------------------------------------
-- A crash before the pointer is replaced
-- ---------------------------------------------------------------------------

/-- An authorized call can crash where it leaves a `.tmp` file behind. -/
theorem execute_crashes {call : ExecuteCall} {w : World T} {before : BeforeState}
    (h : w.store.Inv p state) (hlocks : w.stateLock = false ∧ w.approvalLock = false)
    (ha : Authorized call w before after receipt) (hstaged : w.store.currentJson.staged = none)
    (hafter : Storable after) (hreceipt : StorableReceipt receipt) :
    ∃ w', (execute call).Crashes w w' ∧ w'.store.currentJson.staged ≠ none := by
  obtain ⟨hp, hstate, -⟩ := h.before_ok ha.current
  obtain ⟨hload, hmanifest, hgen⟩ := before_loads ha.current
  obtain ⟨status, -, hexec⟩ := bind_eq_ok.mp ha.executed
  obtain ⟨-, -, -, -, hbound, hpayload⟩ := executePlan_receipt hexec
  obtain ⟨hnext, -⟩ := h.authorized ha
  have hdir : before.pointer.directory ≠ (nextPointer before receipt).directory := by
    rw [hp, hnext]
    exact h.ne_directory (h.next_entryGeneration hreceipt.valid.receiptSha256)
  obtain ⟨key, s₂, hc, hpublish⟩ := publishTransaction_reaches call.plan after h.regular hgen (rfl : _ = nextPointer before receipt)
  obtain ⟨s₃, hstage, -, hcurrent, -⟩ := stageAndCommit_reaches key hc hafter hreceipt hload
    (by rw [hbound]; exact hmanifest) hpayload (executePlan_verifies hexec) hdir
  have hwrite := writeJsonAtomic_crashes (T := T) (nextPointer before receipt).json
    (f := s₃.currentJson) (by rw [hcurrent]; exact hstaged)
  have hinside := hpublish.crashes
    (((hstage.crashes (Prog.Crashes.within currentJsonPart hwrite)).handle _).bind _)
  let locked : World T := { w with stateLock := true, approvalLock := false }
  let left : JsonFile T := ⟨s₃.currentJson.file, some FileText.empty⟩
  refine ⟨World.storePart.put locked (currentJsonPart.put s₃ left), ?_, nofun⟩
  rw [execute, ensureRegularRoot]
  refine (Prog.Reaches.of_returned (run_touch w) _).crashes ?_
  refine (Prog.Reaches.of_returned (by rw [run_await, if_pos (by simp [hlocks.1])]) _).crashes ?_
  refine Prog.Crashes.ensuring ?_ _
  refine (Prog.Reaches.read (f := fun w : World T => w.store.before call.plan)
    { w with stateLock := true } ha.current _).crashes ?_
  refine (Prog.Reaches.of_returned (authorized_run hlocks.2 ha) _).crashes ?_
  exact Prog.Crashes.within World.storePart hinside

end

end Paic.Remediation
