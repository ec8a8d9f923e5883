import Paic.Recovery.LineageSound
import Paic.Recovery.StoreLaws

/-!
# What a recovery store recovers from

A call of `apply` may stop at any step. The lifecycle state is then the one
before the call or the one after it. A generation that was published and that
no pointer names is taken away only by a call that writes the same generation:
another report makes a second one with its number, and after that no call ever
returns. `apply_recovers` says which calls succeed.
-/

namespace Paic.Recovery

open Checks
open Entries (mem_without mem_placed)
open Prog (exec_wp wp_bind wp_mono wp_op wp_read wp_modify wp_touch wp_handle wp_within wp_ofExcept
  wp_raise wp_pure run_bind_returned)
open StateStore

section
variable {T : Type} [Hashing]

theorem Replayed.configSha256 (h : Replayed config initial commits s sha) :
    s.configSha256 = initial.configSha256 := by
  induction h with
  | start => rfl
  | commit _ hr _ ih =>
    obtain ⟨recomputed, ht, hsame, -⟩ := hr.transition
    obtain ⟨-, -, rfl, -⟩ := transitionState_ok.mp ht
    rw [← congrArg RecoveryLifecycleState.configSha256 hsame]
    exact ih

variable [RecoveryText T]

-- ---------------------------------------------------------------------------
-- What a call does to a store that holds commits
-- ---------------------------------------------------------------------------

/-- A report that was read, and a policy that is the store's when it has the
digest of the store's. -/
structure Offered (policy : RecoveryConfig) (report : RecoveryReport) (config : RecoveryConfig) :
    Prop where
  report : report.Valid
  config : config.digest = policy.digest → config = policy

namespace StateStore.Holds

variable {s : StateStore T}

theorem current_ok (h : s.Holds config initial commits state sha) :
    s.current = .ok c ↔ (s.generations.map entryNumber).Nodup ∧
      c = ⟨pointerAfter commits, state, commits.getLast?.map fun c => c.2.event⟩ := by
  rw [StateStore.current, h.loadCurrentBasic, ok_bind, ← h.validates_iff]
  constructor
  · intro hc
    obtain ⟨issues, hissues, hc⟩ := bind_eq_ok.mp hc
    cases issues with
    | nil => exact ⟨hissues, (pure_eq_ok.mp hc).symm⟩
    | cons issue rest => exact absurd hc (by rintro ⟨⟩)
  · rintro ⟨hv, rfl⟩
    rw [hv, ok_bind]
    rfl

theorem prepare_ok (h : s.Holds policy initial commits state sha) :
    s.prepare report config = .ok (previous, a) ↔ (s.generations.map entryNumber).Nodup ∧
      previous = state ∧ applyReport state sha report config = .ok a := by
  simp only [StateStore.prepare, bind_eq_ok, h.current_ok, pure_eq_ok, Prod.mk.injEq]
  constructor
  · rintro ⟨_, ⟨hnodup, rfl⟩, a, ha, rfl, rfl⟩
    rw [h.replayed.sha_eq] at ha
    exact ⟨hnodup, rfl, ha⟩
  · rintro ⟨hnodup, rfl, ha⟩
    refine ⟨_, ⟨hnodup, rfl⟩, a, ?_, rfl, rfl⟩
    rw [h.replayed.sha_eq]
    exact ha

/-- What a call writes is the commit after those of the store. -/
theorem next (h : s.Holds policy initial commits state sha) (ho : Offered policy report config)
    (ha : applyReport state sha report config = .ok a) :
    ReplayOk policy state sha a ∧ a.Valid ∧ a.state.generation = commits.length + 1 ∧
      Recovery.entryGeneration a.directory = .ok (commits.length + 1) := by
  obtain ⟨trigger, htransition, -⟩ := applyReport_ok.mp ha
  have hdigest : config.digest = policy.digest := by
    rw [(transitionState_ok.mp htransition).1.config, h.replayed.configSha256, h.bound.digest]
  obtain rfl := ho.config hdigest
  have hok := ReplayOk.of_applyReport ha
  have hv := applyReport_valid ha ho.report
  have hgen : a.state.generation = commits.length + 1 := by
    rw [hok.generation, h.replayed.generation h.bound.generation]
  refine ⟨hok, hv, hgen, ?_⟩
  have hlen := (h.replayed.length_le.trans (Nat.le_succ _)).trans
    (hok.applied ▸ hv.state.appliedCount)
  exact entryGeneration_name (by omega)
    (hgen ▸ namesGeneration_generationName hv.event.eventSha256)

/-- What is not the next generation stays. -/
theorem kept {s' : StateStore T} (h : s.Holds policy initial commits state sha)
    (hk : Kept name s s') (hname : Recovery.entryGeneration name = .ok (commits.length + 1)) :
    s'.Holds policy initial commits state sha where
  bound := h.bound
  replayed := h.replayed
  named := h.named
  valid := h.valid
  pointer := hk.pointer.trans h.pointer
  initialFiles := by
    rw [hk.generation, h.initialFiles]
    rintro rfl
    exact absurd (Except.ok.inj (entryGeneration_zero.symm.trans hname)) (Nat.succ_ne_zero _).symm
  files c hc := by
    rw [hk.generation, h.files c hc]
    rintro rfl
    have hn := Except.ok.inj ((h.entryGeneration hc).symm.trans hname)
    have hle := ((h.replayed.generations h.bound.generation).1 c hc).2
    omega
  regular := hk.regular

theorem committed {s' : StateStore T} (h : s.Holds policy initial commits state sha)
    (hok : ReplayOk policy state sha a) (hv : a.Valid)
    (hname : Recovery.entryGeneration a.directory = .ok (commits.length + 1))
    (hc : Committed a s s') :
    s'.Holds policy initial (commits ++ [(a.directory, a)]) a.state a.event.eventSha256 := by
  have hregular := placed_regular h.regular ⟨_, hname⟩ hc.generations
  have hothers : s'.without a.directory = s.without a.directory := by
    rw [StateStore.without, hc.generations]
    exact Entries.without_placed
  have hother : ∀ name, name ≠ a.directory → s'.generation name = s.generation name :=
    fun name hne => by
      rw [StateStore.generation, StateStore.generation, Entries.lookup_eq_of_without hothers hne]
  constructor
  case bound => exact h.bound
  case replayed => exact .commit h.replayed hok hv.event
  case named => simpa [or_imp, forall_and] using h.named
  case valid =>
    intro c hcm
    rcases List.mem_append.mp hcm with hcm | hcm
    · exact h.valid c hcm
    · rw [List.mem_singleton.mp hcm]
      exact hv
  case pointer => rw [hc.pointer, pointerAfter, List.getLast?_concat]
  case initialFiles =>
    rw [hother, h.initialFiles]
    intro heq
    rw [← heq] at hname
    exact absurd (Except.ok.inj (entryGeneration_zero.symm.trans hname)) (Nat.succ_ne_zero _).symm
  case files =>
    intro c hcm
    rcases List.mem_append.mp hcm with hcm | hcm
    · rw [hother, h.files c hcm]
      intro heq
      rw [← heq] at hname
      have hn := Except.ok.inj ((h.entryGeneration hcm).symm.trans hname)
      have hle := ((h.replayed.generations h.bound.generation).1 c hcm).2
      omega
    · rw [List.mem_singleton.mp hcm, StateStore.generation, Entries.lookup_of_mem hregular.unique
        (by rw [hc.generations]; exact mem_placed.mpr (.inl rfl))]
  case regular => exact hregular

end StateStore.Holds

-- ---------------------------------------------------------------------------
-- Calls and runs
-- ---------------------------------------------------------------------------

/-- A directory without a store, after a call of `initialize` that returned. -/
def Initialized (w₀ : World T) (policy : RecoveryConfig) (initial : RecoveryLifecycleState) : Prop :=
  policy.Valid ∧ ∃ (w : World T) (receipt manifest : String), w.store.currentJson.file = none ∧
    w.store.generations = [] ∧
    (initializeFrom policy receipt manifest).run w = .returned initial w₀

/-- What `initialize` writes into an empty store. -/
theorem initializeStore_wp {s : StateStore T} {policy : RecoveryConfig} (hfile : s.currentJson.file = none)
    (hempty : s.generations = []) :
    (initializeStore policy receipt manifest).wp
      (fun state s' => state = initialState policy receipt manifest ∧ state.Valid ∧
        s'.currentJson.file = some (FileText.json Pointer.initial.json) ∧
        s'.generations = [(zeroPadded 0, .directory (initialFiles state policy))])
      (fun _ _ => True) (fun _ => True) s := by
  simp only [initializeStore, wp_bind, wp_read]
  refine ⟨trivial, fun _ => trivial, ?_⟩
  rintro _ ⟨⟩
  simp only [hfile, Option.isSome_none, Bool.false_eq_true, ↓reduceIte, wp_bind, wp_ofExcept, wp_read,
    wp_op, raiseIf_ok, not_not]
  refine ⟨fun _ hv => ⟨trivial, fun _ => trivial, ?_⟩, fun _ _ => trivial⟩
  rintro _ ⟨⟩
  refine ⟨fun _ _ => ⟨trivial, fun _ => trivial, ?_, fun _ h => absurd h (by rintro ⟨⟩)⟩, fun _ _ => trivial⟩
  rintro key s₁ ⟨⟩
  rw [wp_handle]
  refine wp_mono (E := fun _ _ => True) (C := fun _ => True) ?_ (fun _ _ h => h)
    (fun _ _ _ => by simp only [wp_bind, wp_modify, wp_raise, implies_true, and_self])
    fun _ _ => trivial
  simp only [wp_bind, wp_op, wp_touch, wp_within, wp_pure, true_and, implies_true, and_true]
  -- the two files
  intro _ s₂ h₂
  obtain ⟨files, hfiles, -, rfl⟩ := writeDurable_returns.mp h₂
  obtain rfl : [] = files := Option.some.inj (List.lookup_cons_self.symm.trans hfiles)
  intro _ s₃ h₃
  obtain ⟨files, hfiles, -, rfl⟩ := writeDurable_returns.mp h₃
  obtain rfl := Option.some.inj ((preparedFiles_setPrepared _ _ _).symm.trans hfiles)
  -- the rename
  intro _ s₄ h₄
  obtain ⟨files, hfiles, -, rfl⟩ := replaceGeneration_ok.mp h₄
  obtain rfl := Option.some.inj ((preparedFiles_setPrepared _ _ _).symm.trans hfiles)
  refine wp_mono (atomicJson_wp _ s.currentJson) (fun _ f hf => ⟨hv, hf, ?_⟩)
    (fun _ _ _ => trivial) fun _ _ => trivial
  show s.generations ++ _ = _
  rw [hempty]
  rfl

/-- `initialize` returns in a directory without a store. -/
theorem initializeFrom_run {w : World T} (hlock : w.lock = false)
    (hfile : w.store.currentJson.file = none) (hempty : w.store.generations = [])
    (hv : Model.Valid (initialState policy receipt manifest)) :
    ∃ w', (initializeFrom policy receipt manifest).run w =
      .returned (initialState policy receipt manifest) w' := by
  let s := w.store.mkdtemp.2
  let key := w.store.mkdtemp.1
  let stateFile : String × FileEntry T :=
    ("state.json", .file (TextCodec.dump (initialState policy receipt manifest)))
  have hkey : s.preparedFiles key = some [] := List.lookup_cons_self
  have hstate : s.writeDurable key "state.json"
      (TextCodec.dump (initialState policy receipt manifest)) =
        .ok ((), s.setPrepared key [stateFile]) := writeDurable_ok hkey rfl
  have hconfig : (s.setPrepared key [stateFile]).writeDurable key "recovery.config.resolved.json"
      (TextCodec.dump policy) = .ok ((), (s.setPrepared key [stateFile]).setPrepared key
        (initialFiles (initialState policy receipt manifest) policy)) :=
    writeDurable_ok (preparedFiles_setPrepared ..) rfl
  have hfree : s.generations.lookup (zeroPadded 0) = none := by
    rw [show s.generations = w.store.generations from rfl, hempty]
    rfl
  have hreplace := replaceGeneration_ok.mpr ⟨initialFiles (initialState policy receipt manifest) policy,
    preparedFiles_setPrepared (s.setPrepared key [stateFile]) key _, hfree, rfl⟩
  have hread : (Except.ok w.store.currentJson.file : Except Error _) = .ok none := by rw [hfile]
  have horphan : (Except.ok (w.store.generations.lookup (zeroPadded 0)) : Except Error _) =
      .ok none := by rw [hempty]; rfl
  have hstore : ∃ s', (initializeStore policy receipt manifest).run w.store =
      .returned (initialState policy receipt manifest) s' := by
    let initialized : StateStore T :=
      { currentJson := ⟨some (FileText.json Pointer.initial.json), none⟩
        generations := s.generations ++ [(zeroPadded 0, .directory
          (initialFiles (initialState policy receipt manifest) policy))]
        prepared := (((s.setPrepared key [stateFile]).setPrepared key
          (initialFiles (initialState policy receipt manifest) policy)).discard key).prepared }
    refine ⟨initialized, ?_⟩
    rw [initializeStore, Prog.run_read_bind w.store hread, if_neg nofun]
    refine (Prog.run_ofExcept_bind (raiseIf_neg (not_not.mpr hv)) _).trans ?_
    refine (Prog.run_read_bind w.store horphan).trans ?_
    refine (Prog.run_ofExcept_bind (raiseIf_neg nofun) _).trans ?_
    refine (Prog.run_op_bind w.store (rfl : (Except.ok w.store.mkdtemp : Except Error _) =
      .ok (key, s))).trans ?_
    refine (run_bind_returned (a := ()) ?_).trans rfl
    refine (Prog.run_handle _ _ _).trans ?_
    refine (congrArg (Prog.Outcome.orElse · _)
      (?_ : _ = Prog.Outcome.returned () initialized)).trans rfl
    refine (Prog.run_op_bind s hstate).trans ((Prog.run_op_bind _ hconfig).trans ?_)
    refine (Prog.run_op_bind _ hreplace).trans ?_
    rw [run_bind_returned (Prog.run_touch _), Prog.run_within, atomicJson_run]
    rfl
  obtain ⟨s', hrun⟩ := hstore
  refine ⟨{ w with store := s', lock := false }, ?_⟩
  rw [initializeFrom, ensureRoot, run_bind_returned (Prog.run_touch _)]
  refine withLock_run hlock (?_ : _ = Prog.Outcome.returned _ { w with store := s', lock := true })
  rw [Prog.run_within]
  exact congrArg (Prog.Outcome.mapState _) hrun

theorem Initialized.holds {w₀ : World T} (h : Initialized w₀ policy initial) :
    w₀.store.Holds policy initial [] initial zeroHash ∧ w₀.store.generations.map entryNumber = [0] := by
  obtain ⟨hpolicy, w, receipt, manifest, hfile, hempty, hrun⟩ := h
  have hwp : (initializeFrom policy receipt manifest).wp
      (fun state w' => state = initialState policy receipt manifest ∧ state.Valid ∧
        w'.store.currentJson.file = some (FileText.json Pointer.initial.json) ∧
        w'.store.generations = [(zeroPadded 0, .directory (initialFiles state policy))])
      (fun _ _ => True) (fun _ => True) w := by
    simp only [initializeFrom, ensureRoot, wp_bind, wp_touch]
    refine ⟨trivial, fun _ => trivial, withLock_wp (S := fun _ => True)
      (Q := fun state s' => state = initialState policy receipt manifest ∧ state.Valid ∧
        s'.currentJson.file = some (FileText.json Pointer.initial.json) ∧
        s'.generations = [(zeroPadded 0, .directory (initialFiles state policy))])
      trivial (fun _ _ _ => trivial) ?_⟩
    rw [wp_within]
    exact initializeStore_wp hfile hempty
  have hmeets := exec_wp.mp hwp []
  rw [show (initializeFrom policy receipt manifest).exec [] w = .returned initial w₀ from hrun] at hmeets
  obtain ⟨rfl, hv, hpointer, hgenerations⟩ := hmeets
  have hregular : w₀.store.Regular := by
    refine ⟨?_, ?_, ?_⟩ <;> rw [hgenerations]
    · exact List.nodup_singleton _
    · intro e he
      rw [List.mem_singleton.mp he]
      rfl
    · intro e he
      rw [List.mem_singleton.mp he]
      exact ⟨0, entryGeneration_zero⟩
  constructor
  · constructor
    case bound => exact ⟨hpolicy, hv, rfl, rfl, rfl, rfl⟩
    case replayed => exact .start
    case named => exact fun c hc => absurd hc List.not_mem_nil
    case valid => exact fun c hc => absurd hc List.not_mem_nil
    case pointer => exact hpointer
    case initialFiles => rw [StateStore.generation, hgenerations, List.lookup_cons_self]
    case files => exact fun c hc => absurd hc List.not_mem_nil
    case regular => exact hregular
  · rw [hgenerations, List.map_singleton, entryNumber_of_ok entryGeneration_zero]

/-- Calls of `apply`, each of which may have stopped at any of its steps. -/
inductive Runs (policy : RecoveryConfig) (w₀ : World T) : World T → Prop where
  | start : Runs policy w₀ w₀
  | call (h : Runs policy w₀ w) (ho : Offered policy report config)
      (hr : ((apply report config).exec faults w.later).Ends w') : Runs policy w₀ w'

/-- What one call does to a store that holds commits. -/
theorem StateStore.Holds.ends {w w' : World T}
    (h : w.store.Holds policy initial commits state sha) (ho : Offered policy report config)
    (hr : ((apply report config).exec faults w).Ends w') :
    w'.store = w.store ∨ ∃ a, w.store.prepare report config = .ok (state, a) ∧
      (Kept a.directory w.store w'.store ∨ Committed a w.store w'.store) := by
  have hname : ∀ previous a, w.store.prepare report config = .ok (previous, a) →
      ∃ n, Recovery.entryGeneration a.directory = .ok n := fun previous a hprepare =>
    ⟨_, (h.next ho (h.prepare_ok.mp hprepare).2.2).2.2.2⟩
  have stopped : ∀ {previous a}, w.store.prepare report config = .ok (previous, a) →
      Stopped a w.store w'.store → ∃ a, w.store.prepare report config = .ok (state, a) ∧
        (Kept a.directory w.store w'.store ∨ Committed a w.store w'.store) := by
    intro previous a hprepare hst
    obtain ⟨-, rfl, -⟩ := h.prepare_ok.mp hprepare
    exact ⟨a, hprepare, hst⟩
  have leaves : Leaves report config w.store w'.store → w'.store = w.store ∨
      ∃ a, w.store.prepare report config = .ok (state, a) ∧
        (Kept a.directory w.store w'.store ∨ Committed a w.store w'.store) := by
    rintro (hsame | ⟨previous, a, hprepare, hst⟩)
    · exact .inl hsame
    · exact .inr (stopped hprepare hst)
  refine (exec_wp.mp (apply_wp h.regular hname) faults).ends hr ?_ (fun _ hl => leaves hl) leaves
  rintro r ⟨previous, a, hprepare, -, hc⟩
  exact .inr (stopped hprepare (.inr hc))

theorem Runs.holds {w₀ w : World T} (h : Runs policy w₀ w)
    (h₀ : w₀.store.Holds policy initial commits state sha) :
    ∃ commits state sha, w.store.Holds policy initial commits state sha := by
  induction h with
  | start => exact ⟨_, _, _, h₀⟩
  | @call w report config faults w' _ ho hr ih =>
    obtain ⟨commits, state, sha, hw⟩ := ih
    have hlater : w.later.store.Holds policy initial commits state sha := hw
    rcases hlater.ends ho hr with hsame | ⟨a, hprepare, hk | hc⟩
    · exact ⟨_, _, _, hsame ▸ hlater⟩
    · obtain ⟨-, -, ha⟩ := hlater.prepare_ok.mp hprepare
      exact ⟨_, _, _, hlater.kept hk (hlater.next ho ha).2.2.2⟩
    · obtain ⟨-, -, ha⟩ := hlater.prepare_ok.mp hprepare
      obtain ⟨hok, hv, -, hname⟩ := hlater.next ho ha
      exact ⟨_, _, _, hlater.committed hok hv hname hc⟩

/-- The state read is the one before the call, as it was, or the one the call
computed, with its files. -/
def BeforeOrAfter (report : RecoveryReport) (config : RecoveryConfig) (s s' : StateStore T) : Prop :=
  (∃ c, s.loadCurrentBasic = .ok c ∧ s'.loadCurrentBasic = .ok c ∧
    s'.generation c.pointer.directory = s.generation c.pointer.directory) ∨
  ∃ previous a, s.prepare report config = .ok (previous, a) ∧ s'.loadCurrentBasic =
      .ok ⟨Pointer.ofEvent a.state.generation a.event, a.state, some a.event⟩ ∧
    s'.generation a.directory = some (commitFiles a)

/-- The call returns, and `validate` then finds nothing. -/
def Succeeds (report : RecoveryReport) (config : RecoveryConfig) (w : World T) : Prop :=
  ∃ r w', (apply report config).run w = .returned r w' ∧
    ∃ w'', (validate : Prog Error (World T) (List String)).run w' = .returned [] w''

theorem StateStore.Holds.pointer_number {s : StateStore T}
    (h : s.Holds policy initial commits state sha) :
    Recovery.entryGeneration (pointerAfter commits).directory = .ok commits.length := by
  have hnumber := fun c (hc : c ∈ commits) => h.entryGeneration hc
  have hgen := h.replayed.generation h.bound.generation
  have hnamed := h.named
  cases h.replayed with
  | start => exact entryGeneration_zero
  | @commit commits _ _ a name =>
    have hmem : (name, a) ∈ commits ++ [(name, a)] :=
      List.mem_append_right _ (List.mem_singleton_self _)
    rw [← hgen, pointerAfter, List.getLast?_concat, ← hnumber _ hmem]
    exact congrArg Recovery.entryGeneration (hnamed _ hmem).symm

/-- Wherever the call stopped, the state is whole. -/
theorem StateStore.Holds.before_or_after {w w' : World T}
    (h : w.store.Holds policy initial commits state sha) (ho : Offered policy report config)
    (hr : ((apply report config).exec faults w).Ends w') :
    BeforeOrAfter report config w.store w'.store := by
  rcases h.ends ho hr with hsame | ⟨a, hprepare, hk | hc⟩
  · exact .inl ⟨_, h.loadCurrentBasic, by rw [hsame]; exact h.loadCurrentBasic, by rw [hsame]⟩
  · obtain ⟨-, -, -, hname⟩ := h.next ho (h.prepare_ok.mp hprepare).2.2
    refine .inl ⟨_, h.loadCurrentBasic, (h.kept hk hname).loadCurrentBasic, hk.generation ?_⟩
    intro heq
    have hnumber := h.pointer_number
    rw [heq, hname] at hnumber
    exact absurd (Except.ok.inj hnumber) (Nat.succ_ne_self _)
  · obtain ⟨hok, hv, -, hname⟩ := h.next ho (h.prepare_ok.mp hprepare).2.2
    have hnext := h.committed hok hv hname hc
    refine .inr ⟨state, a, hprepare, ?_, ?_⟩
    · rw [hnext.loadCurrentBasic, pointerAfter, List.getLast?_concat]
      rfl
    · exact hnext.files _ (List.mem_append_right _ (List.mem_singleton_self _))

omit [Hashing] [RecoveryText T] in
theorem entryNumber_named {entry : Entry T} (h : entryGeneration name = .ok n) :
    entryNumber (name, entry) = n := entryNumber_of_ok h

omit [Hashing] in
/-- The numbers of the generations after a commit. -/
theorem committed_nodup {s s' : StateStore T}
    (hname : entryGeneration a.directory = .ok a.state.generation) (hc : Committed a s s') :
    (s'.generations.map entryNumber).Nodup ↔
      (∀ e ∈ s.without a.directory, entryNumber e ≠ a.state.generation) ∧
        ((s.without a.directory).map entryNumber).Nodup := by
  have hnumber : entryNumber (a.directory, .directory (commitFiles a : Files T)) =
      a.state.generation := entryNumber_named hname
  rw [hc.generations, Entries.placed, List.map_append, List.map_cons, List.map_nil, hnumber,
    List.nodup_append]
  constructor
  · rintro ⟨hnodup, -, hne⟩
    exact ⟨fun e he => hne _ (List.mem_map.mpr ⟨e, he, rfl⟩) _ (List.mem_singleton_self _), hnodup⟩
  · rintro ⟨hne, hnodup⟩
    refine ⟨hnodup, List.nodup_singleton _, ?_⟩
    rintro n hn m hm
    obtain ⟨e, he, rfl⟩ := List.mem_map.mp hn
    rw [List.mem_singleton.mp hm]
    exact hne e he

/-- A call whose transition is defined succeeds when no other generation has
its number. -/
theorem StateStore.Holds.succeeds_iff {w : World T}
    (h : w.store.Holds policy initial commits state sha) (hlock : w.lock = false)
    (ho : Offered policy report config)
    (ha : w.store.prepare report config = .ok (previous, a)) :
    Succeeds report config w ↔
      ∀ e ∈ w.store.without a.directory, entryNumber e ≠ a.state.generation := by
  obtain ⟨hnodup, rfl, happly⟩ := h.prepare_ok.mp ha
  obtain ⟨hok, hv, hgen, hname⟩ := h.next ho happly
  have hwithout : ((w.store.without a.directory).map entryNumber).Nodup :=
    hnodup.sublist (List.filter_sublist.map _)
  have hvalidates : ∀ {s' : StateStore T}, Committed a w.store s' → (s'.validateLineage = .ok [] ↔
      ∀ e ∈ w.store.without a.directory, entryNumber e ≠ a.state.generation) := fun hc => by
    rw [(h.committed hok hv hname hc).validates_iff, committed_nodup (hname.trans (congrArg _ hgen.symm)) hc]
    exact and_iff_left hwithout
  have hregular : ∀ previous a', w.store.prepare report config = .ok (previous, a') →
      ∃ n, Recovery.entryGeneration a'.directory = .ok n := fun _ a' hprepare =>
    ⟨_, (h.next ho (h.prepare_ok.mp hprepare).2.2).2.2.2⟩
  constructor
  · rintro ⟨r, w', hrun, w'', hvalidate⟩
    have hmeets := exec_wp.mp (apply_wp h.regular hregular) []
    rw [show (apply report config).exec [] w = .returned r w' from hrun] at hmeets
    obtain ⟨previous', a', ha', -, hc⟩ := hmeets
    obtain ⟨-, rfl⟩ := Prod.mk.inj (Except.ok.inj (ha.symm.trans ha'))
    exact (hvalidates hc).mp (validate_returned hvalidate)
  · intro hfree
    have hlt : previous.generation < a.state.generation := by
      rw [hok.generation]
      exact Nat.lt_succ_self _
    obtain ⟨w', hrun, hlock', hc⟩ := apply_run h.regular hlock ha hlt
    refine ⟨_, w', hrun, w', ?_⟩
    rw [validate_run hlock', (hvalidates hc).mpr hfree]

/-- Two generations have one number: nothing is read or written any more. -/
theorem StateStore.Holds.blocked {w w' : World T}
    (h : w.store.Holds policy initial commits state sha)
    (hdup : ¬ (w.store.generations.map entryNumber).Nodup) (hr : Runs policy w w') :
    w'.store = w.store := by
  induction hr with
  | start => rfl
  | @call w' report config faults w'' _ ho hends ih =>
    have hlater : w'.later.store.Holds policy initial commits state sha := by
      rw [show w'.later.store = w'.store from rfl, ih]
      exact h
    rcases hlater.ends ho hends with hsame | ⟨a, hprepare, -⟩
    · exact hsame.trans ih
    · refine absurd (hlater.prepare_ok.mp hprepare).1 ?_
      rwa [show w'.later.store = w'.store from rfl, ih]

/-- Wherever earlier calls stopped, the state is whole. A call whose transition
is defined succeeds exactly when no other generation has its number, and once
two generations have one number no call returns. -/
theorem apply_recovers {w₀ w : World T} (h₀ : Initialized w₀ policy initial)
    (h : Runs policy w₀ w) :
    (∀ report config faults w', Offered policy report config →
      ((apply report config).exec faults w.later).Ends w' →
        BeforeOrAfter report config w.store w'.store) ∧
    (∀ report config previous a, Offered policy report config →
      w.store.prepare report config = .ok (previous, a) →
        (Succeeds report config w.later ↔
          ∀ e ∈ w.store.without a.directory, entryNumber e ≠ a.state.generation)) ∧
    (¬ (w.store.generations.map entryNumber).Nodup → ∀ w', Runs policy w w' →
      w'.store = w.store ∧ w'.store.validateLineage ≠ .ok [] ∧
        ∀ report config faults r w'', Offered policy report config →
          (apply report config).exec faults w'.later ≠ .returned r w'') := by
  obtain ⟨commits, state, sha, hw⟩ := h.holds h₀.holds.1
  have hlater : w.later.store.Holds policy initial commits state sha := hw
  refine ⟨fun _ _ _ _ ho hr => hlater.before_or_after ho hr,
    fun _ _ _ _ ho ha => hlater.succeeds_iff rfl ho ha, fun hdup w' hr => ?_⟩
  have hsame := hw.blocked hdup hr
  refine ⟨hsame, ?_, ?_⟩
  · rw [hsame, ne_eq, hw.validates_iff]
    exact hdup
  · intro report config faults r w'' ho hrun
    have hw' : w'.later.store.Holds policy initial commits state sha := by
      rw [show w'.later.store = w'.store from rfl, hsame]
      exact hw
    have hmeets := exec_wp.mp (apply_wp hw'.regular fun _ _ hprepare =>
      ⟨_, (hw'.next ho (hw'.prepare_ok.mp hprepare).2.2).2.2.2⟩) faults
    rw [hrun] at hmeets
    obtain ⟨previous, a, hprepare, -⟩ := hmeets
    refine absurd (hw'.prepare_ok.mp hprepare).1 ?_
    rwa [show w'.later.store = w'.store from rfl, hsame]

end

namespace Sample

theorem initialized : ∃ w₀ : World Text, Initialized w₀ config initial := by
  obtain ⟨w₀, hrun⟩ := initializeFrom_run (w := worldOf StateStore.empty) rfl rfl rfl initial_valid
  exact ⟨w₀, config_valid, _, _, _, rfl, rfl, hrun⟩

theorem offered : Offered config (report healthy 15) config := ⟨report_valid, fun _ => rfl⟩

/-- The report is ready to be applied where nothing has happened yet. -/
theorem prepared {w₀ : World Text} (h₀ : Initialized w₀ config initial) :
    w₀.later.store.prepare (report healthy 15) config = .ok (initial, recovery) ∧
      ∀ e ∈ w₀.later.store.without recovery.directory, entryNumber e ≠ recovery.state.generation := by
  obtain ⟨hholds, hnumbers⟩ := h₀.holds
  have hlater : w₀.later.store.Holds config initial [] initial zeroHash := hholds
  refine ⟨hlater.prepare_ok.mpr ⟨?_, rfl, recovery_applied⟩, fun e he heq => ?_⟩
  · rw [show w₀.later.store = w₀.store from rfl, hnumbers]
    exact List.nodup_singleton _
  · have hmem : entryNumber e ∈ w₀.store.generations.map entryNumber :=
      List.mem_map_of_mem (mem_without.mp he).1
    rw [hnumbers, List.mem_singleton, heq] at hmem
    exact absurd hmem (by decide)

end Sample

/-- The sample's report on the sample's store. -/
theorem apply_recovers_sample : ∃ w₀ : World Sample.Text,
    Succeeds (Sample.report Sample.healthy 15) Sample.config w₀.later := by
  obtain ⟨w₀, h₀⟩ := Sample.initialized
  obtain ⟨hprepare, hfree⟩ := Sample.prepared h₀
  exact ⟨w₀, ((apply_recovers h₀ .start).2.1 _ _ _ _ Sample.offered hprepare).mpr hfree⟩

end Paic.Recovery
