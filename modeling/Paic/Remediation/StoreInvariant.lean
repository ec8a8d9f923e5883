import Paic.Remediation.Lineage
import Paic.Remediation.StateStoreLaws

/-!
# The invariant of a control-state store

`StateStore.Inv` holds of an initialized store and after every call, wherever
it stopped. A call that stopped left the store at its state or exactly one
commit further.
-/

namespace Paic.Remediation

open Checks
open Prog (wp_bind wp_mono wp_op wp_read wp_modify wp_touch wp_handle wp_within wp_ofExcept wp_raise
  exec_wp)

section
variable {T : Type} [RemediationText T] [Hashing]

-- ---------------------------------------------------------------------------
-- The invariant
-- ---------------------------------------------------------------------------

namespace StateStore

/-- The pointer `p` names a complete generation with `state`. Every directory
has a number, at most the next one, and every number up to the pointer's has
a directory. -/
structure Inv (s : StateStore T) (p : Pointer) (state : ControlState) : Prop where
  identity : ∃ fields, readJson s.storeJson.file = .ok fields ∧
    (Json.obj fields).get? "incident_id" = some (.str state.incidentId)
  pointer : s.currentJson.file = some (FileText.json p.json)
  safe : p.Safe
  loads : ∃ m, loadControlState (s.stateDir p.directory) = .ok ⟨m, state⟩
  generation : state.generation = p.generation
  receiptLoads : ∀ sha, p.receiptSha256 = some sha →
    ∃ e, loadExecution (s.executionDir p.directory) = .ok e ∧ e.receipt.receiptSha256 = sha ∧
      e.receipt.afterStatePayloadSha256 = digest state.modelDump
  regular : s.Regular
  numbers : ∀ e ∈ s.generations, ∃ n ≤ p.generation + 1, entryGeneration e.1 = .ok n
  lineage : ∀ n ≤ p.generation, ∃ e ∈ s.generations, entryGeneration e.1 = .ok n
  executed : p.generation ≤ state.executedPlanHashes.length

namespace Inv

theorem valid {s : StateStore T} (h : s.Inv p state) : state.Valid := by
  obtain ⟨m, hload⟩ := h.loads
  exact (loadControlState_storable hload).valid

theorem bounded {s : StateStore T} (h : s.Inv p state) : p.generation ≤ 10000 :=
  h.executed.trans h.valid.executedCount

theorem entryGeneration {s : StateStore T} (h : s.Inv p state) :
    Remediation.entryGeneration p.directory = .ok p.generation :=
  h.safe.entryGeneration (by have := h.bounded; omega)

theorem next_entryGeneration {s : StateStore T} (h : s.Inv p state)
    (hr : isSha256 receipt.receiptSha256 = true) :
    Remediation.entryGeneration (Pointer.ofReceipt (p.generation + 1) receipt).directory =
      .ok (p.generation + 1) :=
  (Pointer.ofReceipt_safe (Nat.succ_pos _) hr).entryGeneration
    (by have := h.bounded; simp only [Pointer.ofReceipt]; omega)

/-- The pointer's directory is not one with another number. -/
theorem ne_directory {s : StateStore T} (h : s.Inv p state)
    (hname : Remediation.entryGeneration name = .ok (p.generation + 1)) : p.directory ≠ name := by
  rintro rfl
  rw [h.entryGeneration, Except.ok.injEq] at hname
  omega

theorem current {s : StateStore T} (h : s.Inv p state) : s.current = .ok p := by
  obtain ⟨fields, hfields, -⟩ := h.identity
  have hstore : s.storeJson.file ≠ none := by
    intro hnone
    rw [hnone] at hfields
    exact absurd hfields nofun
  obtain ⟨m, hload⟩ := h.loads
  have hgen : s.generation p.directory ≠ none := by
    intro hnone
    rw [stateDir, hnone] at hload
    exact absurd hload nofun
  have hread : readJson s.currentJson.file = .ok p.fields := by
    rw [h.pointer]
    exact readJson_json p.json_isRecord
  simp only [StateStore.current, bind_eq_ok, raiseIf_ok, pure_eq_ok, exists_and_left, exists_const,
    Option.isNone_iff_eq_none, not_or, Decidable.not_not]
  exact ⟨⟨hstore, by simp [h.pointer]⟩, p.fields, hread, p, p.readPointer_fields, h.safe, hgen, rfl⟩

/-- What a call reads of the current generation. -/
theorem before_ok {s : StateStore T} (h : s.Inv p state) (hb : s.before plan = .ok b) :
    b.pointer = p ∧ b.loaded.state = state ∧
      manifestSha256 (s.stateDir p.directory) = .ok b.manifestSha256 := by
  simp only [StateStore.before, bind_eq_ok, raiseIf_ok, pure_eq_ok, exists_and_left, exists_const,
    ne_eq, Decidable.not_not] at hb
  obtain ⟨p', hp', loaded, hload, m, hm, _, -, -, -, -, -, rfl⟩ := hb
  obtain rfl := Except.ok.inj (h.current.symm.trans hp')
  obtain ⟨m', hload'⟩ := h.loads
  obtain rfl := Except.ok.inj (hload'.symm.trans hload)
  exact ⟨rfl, rfl, hm⟩

/-- A call reads the current generation when its plan is bound to it and not
yet executed. -/
theorem before_eq {s : StateStore T} (h : s.Inv p state)
    (hm : manifestSha256 (s.stateDir p.directory) = .ok m)
    (hnew : plan.planSha256 ∉ state.executedPlanHashes)
    (hbound : m = plan.controlStateManifestSha256) :
    ∃ b, s.before plan = .ok b ∧ b.loaded.state = state ∧ b.manifestSha256 = m := by
  obtain ⟨m', hload⟩ := h.loads
  obtain ⟨fields, hfields, hid⟩ := h.identity
  refine ⟨⟨p, ⟨m', state⟩, m⟩, ?_, rfl, rfl⟩
  simp only [StateStore.before, bind_eq_ok, raiseIf_ok, pure_eq_ok, exists_and_left, exists_const,
    ne_eq, Decidable.not_not]
  exact ⟨p, h.current, _, hload, m, hm, fields, hfields, hid, hnew, fun hn => hn.1 hbound,
    h.generation, rfl⟩

theorem kept {s s' : StateStore T} (h : s.Inv p state) (hk : Kept name s s')
    (hname : Remediation.entryGeneration name = .ok (p.generation + 1)) : s'.Inv p state := by
  have hgen := hk.generation (h.ne_directory hname)
  have hmem : ∀ e, e.1 ≠ name → (e ∈ s'.generations ↔ e ∈ s.generations) := fun e hne => by
    have hw : e ∈ s'.without name ↔ e ∈ s.without name := by rw [hk.others]
    simpa [mem_without, hne] using hw
  constructor
  case identity => rw [hk.storeJson]; exact h.identity
  case pointer => rw [hk.pointer]; exact h.pointer
  case safe => exact h.safe
  case loads => rw [stateDir, hgen]; exact h.loads
  case generation => exact h.generation
  case receiptLoads => rw [executionDir, hgen]; exact h.receiptLoads
  case regular => exact hk.regular
  case numbers =>
    intro e he
    by_cases hne : e.1 = name
    · exact ⟨_, le_rfl, hne ▸ hname⟩
    · exact h.numbers e ((hmem e hne).mp he)
  case lineage =>
    intro n hn
    obtain ⟨e, he, hen⟩ := h.lineage n hn
    refine ⟨e, (hmem e ?_).mpr he, hen⟩
    rintro rfl
    rw [hname, Except.ok.injEq] at hen
    omega
  case executed => exact h.executed

theorem committed {s s' : StateStore T} (h : s.Inv p state) (ha : Advances state c after)
    (hpayload : receipt.afterStatePayloadSha256 = digest after.modelDump)
    (hc : Committed (.ofReceipt (p.generation + 1) receipt) after receipt s s') :
    s'.Inv (.ofReceipt (p.generation + 1) receipt) after := by
  set next := Pointer.ofReceipt (p.generation + 1) receipt with hnext
  have hname : Remediation.entryGeneration next.directory = .ok (p.generation + 1) :=
    h.next_entryGeneration hc.receipt.valid.receiptSha256
  have hregular := placed_regular h.regular hc.generations
  have hmem : ∀ e, e ∈ s'.generations ↔
      e = (next.directory, .directory (transaction after receipt)) ∨
        e ∈ s.generations ∧ e.1 ≠ next.directory := fun e => by rw [hc.generations, mem_placed]
  have hgen : s'.generation next.directory = some (transaction after receipt) := by
    rw [StateStore.generation, lookup_of_mem hregular.unique ((hmem _).mpr (.inl rfl))]
  constructor
  case identity => rw [hc.storeJson, ha.incidentId]; exact h.identity
  case pointer => rw [hc.written.2]
  case safe => exact Pointer.ofReceipt_safe (Nat.succ_pos _) hc.receipt.valid.receiptSha256
  case loads =>
    rw [stateDir, hgen]
    exact ⟨_, loadControlState_directory hc.state⟩
  case generation => rw [ha.generation, h.generation]; rfl
  case receiptLoads =>
    rintro sha ⟨⟩
    rw [executionDir, hgen]
    exact ⟨_, loadExecution_directory hc.receipt, rfl, hpayload⟩
  case regular => exact hregular
  case numbers =>
    intro e he
    rcases (hmem e).mp he with rfl | ⟨he, -⟩
    · exact ⟨_, Nat.le_succ _, hname⟩
    · obtain ⟨n, hn, hen⟩ := h.numbers e he
      exact ⟨n, hn.trans (Nat.le_succ _), hen⟩
  case lineage =>
    intro n hn
    rcases Nat.lt_or_eq_of_le hn with hlt | rfl
    · obtain ⟨e, he, hen⟩ := h.lineage n (Nat.le_of_lt_succ hlt)
      refine ⟨e, (hmem e).mpr (.inr ⟨he, ?_⟩), hen⟩
      intro hename
      rw [hename, hname, Except.ok.injEq] at hen
      rw [← hen] at hlt
      exact absurd hlt (lt_irrefl _)
    · exact ⟨_, (hmem _).mpr (.inl rfl), hname⟩
  case executed =>
    rw [ha.executed, (sorted_snoc ha.freshPlan h.valid.uniqueExecuted).2.1]
    exact Nat.succ_le_succ h.executed

end Inv

end StateStore

-- ---------------------------------------------------------------------------
-- Initialization
-- ---------------------------------------------------------------------------

/-- The pointer of a new store. -/
def Pointer.initial : Pointer := ⟨0, zeroPadded 0, none⟩

/-- The store was set up in an empty directory from an artifact with the
state. -/
def Initialized (w : World T) (state : ControlState) : Prop :=
  ∃ initial m w₀, loadControlState initial = .ok ⟨m, state⟩ ∧ w₀.store = StateStore.empty ∧
    (initializeFrom initial).run w₀ = .returned () w

namespace StateStore

/-- What setting up a directory leaves. -/
structure New (initial : Option (Directory T)) (sha : String) (state : ControlState)
    (s : StateStore T) : Prop where
  storeJson : s.storeJson.file = some (FileText.json (storeMeta sha state))
  currentJson : s.currentJson = ⟨some (FileText.json Pointer.initial.json), none⟩
  generations : s.generations = [(zeroPadded 0, .directory ⟨initial, none⟩)]

/-- What stopped attempts to set up a directory leave: some of the three, in
the order in which they are written. -/
structure Partial (initial : Option (Directory T)) (sha : String) (state : ControlState)
    (s : StateStore T) : Prop where
  generations : s.generations = [] ∨
    s.generations = [(zeroPadded 0, .directory ⟨initial, none⟩)]
  storeJson : s.storeJson.file = none ∨
    s.storeJson.file = some (FileText.json (storeMeta sha state)) ∧ s.generations ≠ []
  currentJson : s.currentJson.file = none ∨
    s.currentJson.file = some (FileText.json Pointer.initial.json) ∧ s.storeJson.file ≠ none

theorem Partial.of_empty : (empty : StateStore T).Partial initial sha state :=
  ⟨.inl rfl, .inl rfl, .inl rfl⟩

theorem Partial.currentJson_none {s : StateStore T} (h : s.Partial initial sha state)
    (hs : s.storeJson.file = none) : s.currentJson.file = none :=
  h.currentJson.resolve_right fun hc => hc.2 hs

end StateStore

theorem publishInitial_wp {s : StateStore T} (hs : s.generations = [])
    (hstore : s.storeJson.file = none) (hcurrent : s.currentJson.file = none)
    (hp : s.preparedDir key = some ⟨initial, none⟩) :
    (publishInitial key sha state).wp (fun _ => StateStore.New initial sha state)
      (fun _ => StateStore.Partial initial sha state) (StateStore.Partial initial sha state) s := by
  have h₀ : s.Partial initial sha state := ⟨.inl hs, .inl hstore, .inl hcurrent⟩
  simp only [publishInitial, wp_bind, wp_op, wp_touch, wp_within]
  refine ⟨h₀, fun _ => h₀, ?_, fun _ _ => h₀⟩
  intro _ s₁ h₁
  simp only [StateStore.replaceGeneration, bind_eq_ok, need_ok, raiseIf_ok, pure_eq_ok,
    Prod.mk.injEq, exists_const, true_and] at h₁
  obtain ⟨g, hg, -, rfl⟩ := h₁
  obtain rfl := Option.some.inj (hp.symm.trans hg)
  have hgenerations : s.generations ++ [(zeroPadded 0, Entry.directory ⟨initial, none⟩)] =
      [(zeroPadded 0, .directory ⟨initial, none⟩)] := by rw [hs]; rfl
  -- the file that is written second stays absent until the first one is there
  have partial_ : ∀ (f g : JsonFile T) prepared,
      (f.file = none ∨ f.file = some (FileText.json (storeMeta sha state))) →
      (g.file = none ∨ g.file = some (FileText.json Pointer.initial.json) ∧ f.file ≠ none) →
      StateStore.Partial initial sha state
        { storeJson := f
          currentJson := g
          generations := s.generations ++ [(zeroPadded 0, .directory ⟨initial, none⟩)]
          prepared } := fun f g prepared hf hg =>
    ⟨.inr hgenerations, hf.imp id fun h => ⟨h, by simp⟩, hg⟩
  refine ⟨partial_ _ _ _ (.inl hstore) (.inl hcurrent),
    fun _ => partial_ _ _ _ (.inl hstore) (.inl hcurrent), ?_⟩
  have stopped : ∀ f, JsonFile.Stopped (storeMeta sha state) s.storeJson f →
      f.file = none ∨ f.file = some (FileText.json (storeMeta sha state)) := fun f hf =>
    hf.imp (fun h => h.trans hstore) fun h => by rw [h.2]
  refine wp_mono (writeJsonAtomic_wp _ _) (fun _ f hf => ?_)
    (fun _ f hf => partial_ _ _ _ (stopped f hf) (.inl hcurrent))
    (fun f hf => partial_ _ _ _ (stopped f hf) (.inl hcurrent))
  have hfile : f.file = some (FileText.json (storeMeta sha state)) := by rw [hf.2]
  have stopped' : ∀ g, JsonFile.Stopped Pointer.initial.json s.currentJson g →
      g.file = none ∨ g.file = some (FileText.json Pointer.initial.json) ∧ f.file ≠ none :=
    fun g hg => hg.imp (fun h => h.trans hcurrent) fun h => ⟨by rw [h.2], by simp [hfile]⟩
  exact wp_mono (writeJsonAtomic_wp _ _) (fun _ g hg => ⟨hfile, hg.2, hgenerations⟩)
    (fun _ g hg => partial_ _ _ _ (.inr hfile) (stopped' g hg))
    (fun g hg => partial_ _ _ _ (.inr hfile) (stopped' g hg))

/-- A call of `initialize` under the lock either finds `store.json` and
changes nothing, or sets the directory up. -/
theorem initializeStore_wp {s : StateStore T} (h : s.Partial initial sha loaded.state) :
    (initializeStore initial loaded sha).wp
      (fun _ s' => s.storeJson.file ≠ none ∧ s' = s ∨ s.storeJson.file = none ∧
        s'.New initial sha loaded.state)
      (fun _ => StateStore.Partial initial sha loaded.state)
      (StateStore.Partial initial sha loaded.state) s := by
  simp only [initializeStore, wp_bind, wp_read]
  refine ⟨h, fun _ => h, ?_⟩
  rintro _ ⟨⟩
  by_cases hstore : s.storeJson.file = none
  · have hfile : s.storeJson.file.isSome = false := by rw [hstore]; rfl
    simp only [hfile, Bool.false_eq_true, ↓reduceIte, wp_bind, wp_read, wp_op, wp_ofExcept]
    refine ⟨h, fun _ => h, ?_⟩
    rintro _ ⟨⟩
    refine ⟨fun _ hfree => ⟨h, fun _ => h, ?_, fun _ hk => absurd hk (by rintro ⟨⟩)⟩, fun _ _ => h⟩
    intro key s₁ hk
    obtain rfl : s.mkdtemp.2 = s₁ := congrArg Prod.snd (Except.ok.inj hk)
    have hgen : s.generations = [] := by
      refine h.generations.resolve_right fun hg => ?_
      rw [raiseIf_ok, hg] at hfree
      simp at hfree
    have h₁ : ∀ prepared, StateStore.Partial initial sha loaded.state { s with prepared } :=
      fun _ => ⟨h.generations, h.storeJson, h.currentJson⟩
    rw [wp_handle]
    simp only [wp_bind, wp_modify, wp_read, wp_ofExcept, wp_raise]
    have discard : ∀ {s' : StateStore T}, s'.Partial initial sha loaded.state →
        s'.Partial initial sha loaded.state ∧
        (∀ _ : Error, s'.Partial initial sha loaded.state) ∧
        (s'.discard key).Partial initial sha loaded.state := fun hp =>
      ⟨hp, fun _ => hp, hp.generations, hp.storeJson, hp.currentJson⟩
    refine ⟨h₁ _, fun _ => discard (h₁ _), h₁ _, fun _ => discard (h₁ _), fun copied _ =>
      ⟨fun _ _ => ?_, fun _ _ => discard (h₁ _)⟩⟩
    exact wp_mono (publishInitial_wp hgen hstore (h.currentJson_none hstore)
      (StateStore.preparedDir_setPrepared _ _ _)) (fun _ _ hnew => .inr ⟨hstore, hnew⟩)
      (fun _ _ hp => discard hp) (fun _ hp => hp)
  · have hfile : s.storeJson.file.isSome = true := Option.isSome_iff_ne_none.mpr hstore
    simp only [hfile, ↓reduceIte, wp_ofExcept]
    exact ⟨fun _ _ => .inl ⟨hstore, trivial⟩, fun _ _ => h⟩

theorem StateStore.New.started {s : StateStore T} (h : s.New initial sha state) :
    s.Partial initial sha state :=
  ⟨.inr h.generations, .inr ⟨h.storeJson, by simp [h.generations]⟩,
    .inr ⟨by rw [h.currentJson], by simp [h.storeJson]⟩⟩

/-- What a call of `initialize` does to a directory that stopped attempts have
left. -/
theorem initializeFrom_wp {w : World T} (hload : loadControlState initial = .ok loaded)
    (hsha : manifestSha256 initial = .ok sha) (h : w.store.Partial initial sha loaded.state) :
    (initializeFrom initial).wp
      (fun _ w' => w.store.storeJson.file ≠ none ∧ w'.store = w.store ∨
        w.store.storeJson.file = none ∧ w'.store.New initial sha loaded.state)
      (fun _ w' => w'.store.Partial initial sha loaded.state)
      (fun w' => w'.store.Partial initial sha loaded.state) w := by
  simp only [initializeFrom, ensureRegularRoot, wp_bind, wp_touch, wp_ofExcept, hload, hsha,
    Except.ok.injEq, forall_eq', reduceCtorEq, false_implies, implies_true, and_true]
  refine ⟨h, fun _ => h, withStateLock_wp (Q := fun _ s => w.store.storeJson.file ≠ none ∧
    s = w.store ∨ w.store.storeJson.file = none ∧ s.New initial sha loaded.state) h ?_ ?_⟩
  · rintro _ s (⟨-, rfl⟩ | ⟨-, hnew⟩)
    · exact h
    · exact hnew.started
  · rw [wp_within]
    exact initializeStore_wp (s := w.store) h

theorem initializeFrom_new {w₀ w : World T} (hload : loadControlState initial = .ok ⟨m, state⟩)
    (hempty : w₀.store = .empty) (hrun : (initializeFrom initial).run w₀ = .returned () w) :
    ∃ sha, w.store.New initial sha state := by
  obtain ⟨sha, hsha, -⟩ := loadControlState_manifestSha256 hload
  have hmeets := exec_wp.mp (initializeFrom_wp (w := w₀) hload hsha (hempty ▸ .of_empty)) []
  rw [show (initializeFrom initial).exec [] w₀ = .returned () w from hrun] at hmeets
  rcases hmeets with ⟨hne, -⟩ | ⟨-, hnew⟩
  · rw [hempty] at hne
    exact absurd rfl hne
  · exact ⟨sha, hnew⟩

theorem StateStore.Partial.stateDir {s : StateStore T} (h : s.Partial initial sha state)
    (hc : s.currentJson.file ≠ none) : s.stateDir (zeroPadded 0) = initial := by
  have hstore := (h.currentJson.resolve_left hc).2
  have hgen := h.generations.resolve_left (h.storeJson.resolve_left hstore).2
  simp [StateStore.stateDir, StateStore.generation, hgen]

/-- A directory with all of the three holds its initial state. -/
theorem StateStore.Partial.inv {s : StateStore T} (h : s.Partial initial sha state)
    (hc : s.currentJson.file ≠ none) (hload : loadControlState initial = .ok ⟨m, state⟩)
    (hgen : state.generation = 0) : s.Inv .initial state := by
  obtain ⟨hpointer, hstore⟩ := h.currentJson.resolve_left hc
  obtain ⟨hmeta, hne⟩ := h.storeJson.resolve_left hstore
  have hgenerations := h.generations.resolve_left hne
  constructor
  case identity =>
    rw [hmeta]
    exact ⟨_, readJson_json storeMeta_isRecord, rfl⟩
  case pointer => exact hpointer
  case safe => exact ⟨fun _ => ⟨rfl, rfl⟩, fun h => absurd h (lt_irrefl 0)⟩
  case loads =>
    refine ⟨m, ?_⟩
    rw [show Pointer.initial.directory = zeroPadded 0 from rfl, h.stateDir hc]
    exact hload
  case generation => exact hgen
  case receiptLoads => exact fun _ h => absurd h nofun
  case regular => exact ⟨by simp [hgenerations], by simp [hgenerations, Entry.isDirectory]⟩
  case numbers =>
    intro e he
    rw [hgenerations, List.mem_singleton] at he
    exact ⟨0, Nat.zero_le _, he ▸ entryGeneration_zero⟩
  case lineage =>
    intro n hn
    obtain rfl := Nat.le_zero.mp hn
    exact ⟨_, by rw [hgenerations]; exact List.mem_singleton_self _, entryGeneration_zero⟩
  case executed => exact Nat.zero_le _

theorem StateStore.New.stateDir {s : StateStore T} (h : s.New initial sha state) :
    s.stateDir (zeroPadded 0) = initial := h.started.stateDir (by simp [h.currentJson])

/-- A new store holds its initial state. -/
theorem StateStore.New.inv {s : StateStore T} (hnew : s.New initial sha state)
    (hload : loadControlState initial = .ok ⟨m, state⟩) (hgen : state.generation = 0) :
    s.Inv .initial state :=
  hnew.started.inv (by simp [hnew.currentJson]) hload hgen

theorem Initialized.inv {w : World T} (h : Initialized w state) (hgen : state.generation = 0) :
    w.store.Inv .initial state := by
  obtain ⟨initial, m, w₀, hload, hempty, hrun⟩ := h
  obtain ⟨sha, hnew⟩ := initializeFrom_new hload hempty hrun
  exact hnew.inv hload hgen

-- ---------------------------------------------------------------------------
-- Calls
-- ---------------------------------------------------------------------------

variable [TokenFormat]

/-- The state a call read is the current one, and what it computed is one step
of the lineage. -/
theorem StateStore.Inv.authorized {w : World T} {before : BeforeState} (h : w.store.Inv p state)
    (ha : Authorized call w before after receipt) :
    nextPointer before receipt = .ofReceipt (p.generation + 1) receipt ∧
      Advances state ⟨call.plan.planSha256, receipt.tokenNonceSha256⟩ after ∧
      receipt.afterStatePayloadSha256 = digest after.modelDump ∧ receipt.Valid := by
  obtain ⟨hp, hstate, -⟩ := h.before_ok ha.current
  obtain ⟨status, -, hexec⟩ := bind_eq_ok.mp ha.executed
  rw [hstate] at hexec
  obtain ⟨hvalid, -, -, -, -, hpayload⟩ := executePlan_receipt hexec
  exact ⟨by rw [nextPointer, hp], (executePlan_advances h.valid hexec).1, hpayload, hvalid⟩

/-- After a call that returned, the store is one commit further. -/
theorem StateStore.Inv.returns {call : ExecuteCall} {w : World T} {s' : StateStore T}
    {r : String × ExecutionReceipt} (h : w.store.Inv p state)
    (hr : call.Returns w r s') :
    ∃ after, Advances state ⟨call.plan.planSha256, r.2.tokenNonceSha256⟩ after ∧
      s'.Inv (.ofReceipt (p.generation + 1) r.2) after := by
  obtain ⟨before, after, ha, -, hc⟩ := hr
  obtain ⟨hnext, hadv, hpayload, -⟩ := h.authorized ha
  rw [hnext] at hc
  exact ⟨after, hadv, h.committed hadv hpayload hc⟩

/-- A call that stopped left the store at its state or one commit further. -/
theorem StateStore.Inv.leaves {call : ExecuteCall} {w : World T} {s' : StateStore T}
    (h : w.store.Inv p state) (hl : call.Leaves w s') :
    s'.Inv p state ∨ ∃ after receipt,
      Advances state ⟨call.plan.planSha256, receipt.tokenNonceSha256⟩ after ∧
      s'.Inv (.ofReceipt (p.generation + 1) receipt) after := by
  rcases hl with rfl | ⟨before, after, receipt, ha, hk | hc⟩
  · exact .inl h
  · obtain ⟨hnext, -, -, hvalid⟩ := h.authorized ha
    rw [hnext] at hk
    exact .inl (h.kept hk (h.next_entryGeneration hvalid.receiptSha256))
  · obtain ⟨hnext, hadv, hpayload, -⟩ := h.authorized ha
    rw [hnext] at hc
    exact .inr ⟨after, receipt, hadv, h.committed hadv hpayload hc⟩

/-- What a call does, under any faults. -/
theorem execute_exec (call : ExecuteCall) {w : World T} (hs : w.store.Regular)
    (faults : List (Prog.Fault Error)) :
    ((execute call).exec faults w).Meets (fun r w' => call.Returns w r w'.store)
      (fun _ w' => call.Leaves w w'.store) (fun w' => call.Leaves w w'.store) :=
  exec_wp.mp (execute_wp call hs) faults

end

end Paic.Remediation
