import Paic.Recovery.StateStore

/-!
# What a valid lineage says

Validation replays the stored reports, and compares most of what it finds with
the replay. `Stored` is what the committed generations hold, `Regenerated`
says that `initialize` and `apply` would have written exactly that, and
`Unforged` names the fields that validation compares with nothing.
`lineage_sound_iff`: they make the difference.
-/

namespace Paic.Recovery

open Checks

-- ---------------------------------------------------------------------------
-- What the committed generations hold
-- ---------------------------------------------------------------------------

structure Stored where
  initialDirectory : String
  initial : RecoveryLifecycleState
  config : RecoveryConfig
  commits : List (String × Applied)
  pointer : Pointer

theorem currentInvalid_ok {x : Except Error α} : currentInvalid x = .ok a ↔ x = .ok a := by
  unfold currentInvalid
  split <;> simp

section
variable {T : Type} [RecoveryText T]

/-- The generation of that number, with the name of its directory. -/
def loadCommit (s : StateStore T) (committed : List (Nat × String)) (generation : Nat) :
    Except Error (String × Applied) := do
  let name ← need (committed.lookup generation) .valueError
  let files ← need (s.generation name) .osError
  let state ← files.load "state.json"
  let report ← files.load "report.json"
  let event ← files.load "event.json"
  pure (name, { report, state, event })

/-- The generations up to the pointer's. -/
def StateStore.committed (s : StateStore T) (generation : Nat) :
    Except Error (List (Nat × String)) := do
  let roots ← loop addRoot [] s.generations
  pure (roots.filter (·.1 ≤ generation))

def StateStore.stored (s : StateStore T) : Except Error Stored := do
  let current ← s.loadCurrentBasic
  let committed ← s.committed current.state.generation
  let initialDirectory ← need (committed.lookup 0) .valueError
  let files ← need (s.generation initialDirectory) .osError
  let initial ← files.load "state.json"
  let config ← files.load "recovery.config.resolved.json"
  let commits ← loop (fun commits k => do
    let commit ← loadCommit s committed (k + 1)
    pure (commits ++ [commit])) [] (List.range current.state.generation)
  pure { initialDirectory, initial, config, commits, pointer := current.pointer }

variable [Hashing]

/-- What the replay of one report compares. -/
structure ReplayOk (config : RecoveryConfig) (previous : RecoveryLifecycleState)
    (previousEventSha256 : String) (a : Applied) : Prop where
  verified : verifyReport a.report = .ok ()
  event : checkEvent previousEventSha256 previous a.state a.report a.event = .ok ()
  transition : ∃ recomputed, transitionState previous a.report config =
    .ok (recomputed, a.event.trigger) ∧ recomputed.Same a.state

/-- The commits, each replayed on the one before. -/
inductive Replayed (config : RecoveryConfig) (initial : RecoveryLifecycleState) :
    List (String × Applied) → RecoveryLifecycleState → String → Prop where
  | start : Replayed config initial [] initial zeroHash
  | commit (h : Replayed config initial commits s sha) (hr : ReplayOk config s sha a)
      (hv : a.event.Valid) :
      Replayed config initial (commits ++ [(name, a)]) a.state a.event.eventSha256

/-- The commits are those that `apply` writes for their reports. -/
inductive Regenerates (config : RecoveryConfig) (initial : RecoveryLifecycleState) :
    List (String × Applied) → RecoveryLifecycleState → String → Prop where
  | start : Regenerates config initial [] initial zeroHash
  | commit (h : Regenerates config initial commits s sha)
      (ha : applyReport s sha a.report config = .ok a) :
      Regenerates config initial
        (commits ++ [(generationName a.state.generation a.event.eventSha256, a)])
        a.state a.event.eventSha256

/-- The pointer after the commits. -/
def pointerAfter (commits : List (String × Applied)) : Pointer :=
  match commits.getLast? with
  | none => .initial
  | some (_, a) => .ofEvent a.state.generation a.event

/-- `initialize` and then `apply` on the stored reports write what is stored. -/
structure Stored.Regenerated (st : Stored) : Prop where
  initialDirectory : st.initialDirectory = zeroPadded 0
  initial : ∃ receipt manifest, st.initial = initialState st.config receipt manifest
  commits : ∃ s sha, Regenerates st.config st.initial st.commits s sha
  pointer : st.pointer = pointerAfter st.commits

/-- The fields of a generation that validation compares with nothing. -/
structure UnforgedCommit (name : String) (a : Applied) : Prop where
  directory : name = generationName a.state.generation a.event.eventSha256
  generation : a.event.generation = a.state.generation
  evaluatedAt : a.event.evaluatedAt = a.report.evaluatedAt
  lastEvaluatedAt : a.state.lastEvaluatedAt = some a.report.evaluatedAt

/-- The fields that validation compares with nothing are those of an honest
store. -/
structure Stored.Unforged (st : Stored) : Prop where
  initialDirectory : st.initialDirectory = zeroPadded 0
  status : st.initial.status = .monitoring
  everRecovered : st.initial.everRecovered = false
  failures : st.initial.consecutiveFailedEvaluations = 0
  applied : st.initial.appliedReportSha256s = []
  lastEvaluatedAt : st.initial.lastEvaluatedAt = none
  commits : ∀ c ∈ st.commits, UnforgedCommit c.1 c.2

-- ---------------------------------------------------------------------------
-- One commit
-- ---------------------------------------------------------------------------

theorem checkEvent_ok : checkEvent sha previous state report event = .ok () ↔
    event.eventSha256 = digest (.obj event.unsigned) ∧ event.previousEventSha256 = sha ∧
      (event.fromStatus = previous.status ∧ event.toStatus = state.status) ∧
      event.recoveryId = state.recoveryId ∧ event.incidentId = state.incidentId ∧
      event.configSha256 = state.configSha256 ∧ event.reportSha256 = report.reportSha256 ∧
      event.beforeStateSha256 = digest previous.modelDump ∧
      event.afterStateSha256 = digest state.modelDump := by
  simp only [checkEvent, bind_eq_ok, raiseIf_ok, exists_and_left, exists_const, ne_eq, not_or,
    Decidable.not_not]

theorem applyReport_ok : applyReport previous sha report config = .ok a ↔
    ∃ trigger, transitionState previous report config = .ok (a.state, trigger) ∧
      (provisionalEvent previous a.state sha report trigger).Valid ∧
      a.report = report ∧
      a.event = (provisionalEvent previous a.state sha report trigger).sealed := by
  obtain ⟨report', state, event⟩ := a
  simp only [applyReport, bind_eq_ok, raiseIf_ok, pure_eq_ok, Decidable.not_not, Prod.exists,
    Applied.mk.injEq, exists_and_left, exists_const]
  constructor
  · rintro ⟨state', trigger, ht, hv, rfl, rfl, rfl⟩
    exact ⟨trigger, ht, hv, rfl, rfl⟩
  · rintro ⟨trigger, ht, hv, rfl, rfl⟩
    exact ⟨state, trigger, ht, hv, rfl, rfl, rfl⟩

/-- A replayed commit is what `apply` writes exactly when the fields that the
replay does not compare agree. -/
theorem ReplayOk.regenerates_iff (h : ReplayOk config s sha a) (hv : a.event.Valid) :
    applyReport s sha a.report config = .ok a ↔ a.event.generation = a.state.generation ∧
      a.event.evaluatedAt = a.report.evaluatedAt ∧
      a.state.lastEvaluatedAt = some a.report.evaluatedAt := by
  obtain ⟨report, state, event⟩ := a
  obtain ⟨recomputed, ht, hsame, hinstant⟩ := h.transition
  obtain ⟨-, -, hnext, htrigger⟩ := transitionState_ok.mp ht
  obtain ⟨hsha, hprev, ⟨hfrom, hto⟩, hrec, hinc, hcfg, hrep, hbefore, hafter⟩ :=
    checkEvent_ok.mp h.event
  rw [applyReport_ok]
  constructor
  · rintro ⟨trigger, ht', -, -, hevent⟩
    obtain ⟨-, -, hstate, -⟩ := transitionState_ok.mp ht'
    simp only at hevent hstate
    exact ⟨by rw [hevent]; rfl, by rw [hevent]; rfl, by rw [hstate]; rfl⟩
  · rintro ⟨hgen, hat, hlast⟩
    simp only at hgen hat hlast hsame hinstant
    have hstate : recomputed = state := by
      have hl : recomputed.lastEvaluatedAt = state.lastEvaluatedAt := by rw [hlast, hnext]; rfl
      cases recomputed
      cases state
      simp only [RecoveryLifecycleState.mk.injEq, and_true] at hsame hl ⊢
      simp_all
    have hprovisional : provisionalEvent s state sha report event.trigger =
        { event with eventSha256 := zeroHash } := by
      rw [provisionalEvent, RecoveryLifecycleEvent.mk.injEq]
      exact ⟨hrec.symm, hinc.symm, hgen.symm, hrep.symm, hcfg.symm, hbefore.symm, hafter.symm,
        hprev.symm, hfrom.symm, hto.symm, rfl, hat.symm, rfl⟩
    refine ⟨event.trigger, hstate ▸ ht, ?_, rfl, ?_⟩
    · rw [hprovisional]
      exact { hv with eventSha256 := zeroHash_isSha256 }
    · rw [hprovisional, RecoveryLifecycleEvent.sealed]
      show event = { event with eventSha256 := digest (.obj event.unsigned) }
      rw [← hsha]

-- ---------------------------------------------------------------------------
-- The replay of a store
-- ---------------------------------------------------------------------------

omit [RecoveryText T] [Hashing] in
theorem Files.load_valid [FileText T] [Model α] [TextCodec T α] {files : Files T} {a : α}
    (h : files.load name = .ok a) : Model.Valid a := by
  simp only [Files.load, bind_eq_ok, need_ok] at h
  obtain ⟨_, -, hload⟩ := h
  exact TextCodec.load_valid hload

/-- The initial generation, as the replay reads it. -/
structure InitialRead (s : StateStore T) (committed : List (Nat × String)) (directory : String)
    (initial : RecoveryLifecycleState) (config : RecoveryConfig) : Prop where
  named : committed.lookup 0 = some directory
  files : ∃ files, s.generation directory = some files ∧ files.load "state.json" = .ok initial ∧
    files.load "recovery.config.resolved.json" = .ok config
  generation : initial.generation = 0
  digest : config.digest = initial.configSha256
  recoveryId : config.recoveryId = initial.recoveryId
  incidentId : config.incidentId = initial.incidentId

theorem replayGeneration_zero {s : StateStore T} :
    replayGeneration s committed walk 0 = .ok walk' →
    ∃ name initial config, InitialRead s committed name initial config ∧
      walk' = ⟨zeroHash, some initial, some config⟩ := by
  intro h
  simp only [replayGeneration, replayInitial, bind_eq_ok, need_ok, raiseIf_ok, pure_eq_ok,
    exists_and_left, exists_const, ↓reduceIte, ne_eq, not_or, Decidable.not_not] at h
  obtain ⟨name, hname, files, hfiles, -, initial, hinitial, hgen, config, hconfig,
    ⟨hdigest, hrec, hinc⟩, rfl⟩ := h
  exact ⟨name, initial, config, ⟨hname, ⟨files, hfiles, hinitial, hconfig⟩, hgen, hdigest, hrec,
    hinc⟩, rfl⟩

theorem replayGeneration_succ {s : StateStore T} :
    replayGeneration s committed ⟨sha, some previous, some config⟩ (k + 1) = .ok walk →
    ∃ name a, loadCommit s committed (k + 1) = .ok (name, a) ∧ ReplayOk config previous sha a ∧
      a.event.Valid ∧ a.state.generation = k + 1 ∧
      walk = ⟨a.event.eventSha256, some a.state, some config⟩ := by
  intro h
  simp only [replayGeneration, replayReport, bind_eq_ok, need_ok, raiseIf_ok, pure_eq_ok,
    exists_and_left, exists_const, Nat.succ_ne_zero, ↓reduceIte, ne_eq, not_or, Decidable.not_not,
    Option.some.injEq, exists_eq_left', Prod.exists] at h
  obtain ⟨name, hname, files, hfiles, -, state, hstate, hgen, report, hreport, _, hverify, event,
    hevent, _, hcheck, recomputed, trigger, htrans, ⟨hsame, rfl⟩, rfl⟩ := h
  refine ⟨name, ⟨report, state, event⟩, ?_, ⟨hverify, hcheck, recomputed, htrans, hsame⟩,
    Files.load_valid hevent, hgen, rfl⟩
  simp only [loadCommit, hname, need, hfiles, hstate, hreport, hevent, ok_bind, pure, Except.pure]

/-- A replay that ends has read every commit. -/
theorem replay_loop {s : StateStore T}
    (h : loop (replayGeneration s committed) .start (List.range (n + 1)) = .ok walk) :
    ∃ name initial config commits state sha, InitialRead s committed name initial config ∧
      loop (fun commits k => do
        let commit ← loadCommit s committed (k + 1)
        pure (commits ++ [commit])) [] (List.range n) = .ok commits ∧
      Replayed config initial commits state sha ∧
      walk = ⟨sha, some state, some config⟩ ∧ state.generation = n := by
  induction n generalizing walk with
  | zero =>
    rw [List.range_succ, loop_snoc] at h
    obtain ⟨_, -, hzero⟩ := h
    obtain ⟨name, initial, config, hread, rfl⟩ := replayGeneration_zero hzero
    exact ⟨name, initial, config, [], initial, zeroHash, hread, rfl, .start, rfl, hread.generation⟩
  | succ n ih =>
    rw [List.range_succ, loop_snoc] at h
    obtain ⟨_, hloop, hnext⟩ := h
    obtain ⟨name, initial, config, commits, state, sha, hread, hcommits, hreplayed, rfl, -⟩ :=
      ih hloop
    obtain ⟨name', a, hload, hok, hv, hgen, rfl⟩ := replayGeneration_succ hnext
    refine ⟨name, initial, config, commits ++ [(name', a)], a.state, a.event.eventSha256, hread, ?_,
      hreplayed.commit hok hv, rfl, hgen⟩
    rw [List.range_succ, loop_snoc]
    exact ⟨commits, hcommits, by rw [hload]; rfl⟩

theorem regenerates_snoc : Regenerates config initial (commits ++ [(name, a)]) s' sha' ↔
    (name = generationName a.state.generation a.event.eventSha256 ∧ s' = a.state ∧
      sha' = a.event.eventSha256) ∧
    ∃ s sha, Regenerates config initial commits s sha ∧
      applyReport s sha a.report config = .ok a := by
  constructor
  · intro h
    generalize hsnoc : commits ++ [(name, a)] = all at h
    cases h with
    | start => simp at hsnoc
    | commit h ha =>
      obtain ⟨rfl, hlast⟩ := List.append_inj' hsnoc rfl
      obtain ⟨rfl, rfl⟩ := Prod.mk.inj (List.singleton_inj.mp hlast)
      exact ⟨⟨rfl, rfl, rfl⟩, _, _, h, ha⟩
  · rintro ⟨⟨rfl, rfl, rfl⟩, s, sha, h, ha⟩
    exact h.commit ha

/-- The state and the event hash are those of the last commit. -/
theorem Replayed.end_eq (h : Replayed config initial commits s sha)
    (hr : Regenerates config initial commits s' sha') : s' = s ∧ sha' = sha := by
  cases h with
  | start =>
    generalize hnil : ([] : List (String × Applied)) = commits at hr
    cases hr with
    | start => exact ⟨rfl, rfl⟩
    | commit => simp at hnil
  | commit h' => exact (regenerates_snoc.mp hr).1.2

theorem Replayed.regenerates_iff (h : Replayed config initial commits s sha) :
    (∃ s' sha', Regenerates config initial commits s' sha') ↔
      ∀ c ∈ commits, UnforgedCommit c.1 c.2 := by
  induction h with
  | start => exact ⟨fun _ _ h => absurd h List.not_mem_nil, fun _ => ⟨_, _, .start⟩⟩
  | @commit commits s sha a name h hr hv ih =>
    simp only [List.forall_mem_append, List.forall_mem_singleton, ← ih]
    constructor
    · rintro ⟨s', sha', hreg⟩
      obtain ⟨⟨hname, -, -⟩, s₁, sha₁, hreg, ha⟩ := regenerates_snoc.mp hreg
      obtain ⟨rfl, rfl⟩ := h.end_eq hreg
      obtain ⟨hgen, hat, hlast⟩ := (hr.regenerates_iff hv).mp ha
      exact ⟨⟨_, _, hreg⟩, hname, hgen, hat, hlast⟩
    · rintro ⟨⟨s₁, sha₁, hreg⟩, hname, hgen, hat, hlast⟩
      obtain ⟨rfl, rfl⟩ := h.end_eq hreg
      exact ⟨_, _, regenerates_snoc.mpr ⟨⟨hname, rfl, rfl⟩, _, _, hreg,
        (hr.regenerates_iff hv).mpr ⟨hgen, hat, hlast⟩⟩⟩

theorem initial_iff {initial : RecoveryLifecycleState} (hv : initial.Valid)
    (hgen : initial.generation = 0) (hd : config.digest = initial.configSha256)
    (hrec : config.recoveryId = initial.recoveryId)
    (hinc : config.incidentId = initial.incidentId) :
    (∃ receipt manifest, initial = initialState config receipt manifest) ↔
      initial.status = .monitoring ∧ initial.everRecovered = false ∧
        initial.consecutiveFailedEvaluations = 0 ∧ initial.appliedReportSha256s = [] ∧
        initial.lastEvaluatedAt = none := by
  constructor
  · rintro ⟨receipt, manifest, rfl⟩
    exact ⟨rfl, rfl, rfl, rfl, rfl⟩
  · rintro ⟨hstatus, hever, hfailures, happlied, hat⟩
    have hlast : initial.lastReportSha256 = none := by
      cases hl : initial.lastReportSha256 with
      | none => rfl
      | some sha =>
        have hfinal := hv.lastFinal sha (by simp [hl])
        rw [happlied] at hfinal
        exact absurd hfinal nofun
    refine ⟨initial.executionReceiptSha256, initial.executionManifestSha256, ?_⟩
    rw [initialState, hd, hrec, hinc]
    cases initial
    simp_all

-- ---------------------------------------------------------------------------
-- The pointer
-- ---------------------------------------------------------------------------

omit [Hashing] in
theorem readPointer_safe {file : Option T} (h : readPointer file = .ok p) : p.Safe := by
  unfold readPointer at h
  split at h
  · simp only [readPointerFields, bind_eq_ok, need_ok, raiseIf_ok, pure_eq_ok, exists_and_left,
      exists_const, Decidable.not_not] at h
    obtain ⟨-, _, -, -, _, -, _, -, hsafe, rfl⟩ := h
    exact hsafe
  · exact absurd h (by rintro ⟨⟩)

/-- The current generation, as it is read. -/
structure CurrentRead (s : StateStore T) (current : Current) : Prop where
  pointer : readPointer s.currentJson.file = .ok current.pointer
  files : ∃ files, s.generation current.pointer.directory = some files ∧
    files.load "state.json" = .ok current.state ∧
    (0 < current.pointer.generation →
      ∃ e, files.load "event.json" = .ok e ∧ current.event = some e)
  generation : current.state.generation = current.pointer.generation
  event : ∀ e ∈ current.event, some e.eventSha256 = current.pointer.eventSha256

omit [Hashing] in
theorem loadCurrentBasic_read {s : StateStore T} (h : s.loadCurrentBasic = .ok current) :
    CurrentRead s current := by
  simp only [StateStore.loadCurrentBasic, bind_eq_ok, need_ok, raiseIf_ok, pure_eq_ok,
    exists_and_left, exists_const, currentInvalid_ok, ne_eq, Decidable.not_not, not_exists,
    not_and] at h
  obtain ⟨-, pointer, hpointer, files, hfiles, state, hstate, event, hevent, hgen, hsha, rfl⟩ := h
  refine ⟨hpointer, ⟨files, hfiles, hstate, fun hpos => ?_⟩, hgen, hsha⟩
  rw [if_pos hpos] at hevent
  cases he : (files.load "event.json" : Except Error RecoveryLifecycleEvent) with
  | error e => rw [he] at hevent; exact absurd hevent (by rintro ⟨⟩)
  | ok e =>
    rw [he] at hevent
    exact ⟨e, rfl, (Except.ok.inj hevent).symm⟩

theorem validateLineage_nil {s : StateStore T} :
    s.validateLineage = .ok [] ↔ s.replayLineage = .ok () := by
  unfold StateStore.validateLineage
  cases s.replayLineage with
  | ok => exact iff_of_true rfl rfl
  | error e => cases e <;> exact iff_of_false nofun nofun

/-- In a lineage that validates, the fields that are compared with nothing make
the difference between what is stored and what the reports lead to. -/
theorem lineage_sound_iff {s : StateStore T} (h : s.validateLineage = .ok []) :
    ∃ st, s.stored = .ok st ∧ (st.Regenerated ↔ st.Unforged) := by
  rw [validateLineage_nil] at h
  simp only [StateStore.replayLineage, bind_eq_ok, raiseIf_ok, exists_and_left, exists_const,
    not_or, Decidable.not_not] at h
  obtain ⟨current, hcurrent, roots, hroots, ⟨-, hdirectory⟩, walk, hwalk, -⟩ := h
  have hread := loadCurrentBasic_read hcurrent
  set n := current.state.generation with hn
  set committed := roots.filter (·.1 ≤ n) with hc
  obtain ⟨name, initial, config, commits, state, sha, hinitial, hcommits, hreplayed, -, -⟩ :=
    replay_loop hwalk
  obtain ⟨files₀, hfiles₀, hload, hconfig⟩ := hinitial.files
  refine ⟨⟨name, initial, config, commits, current.pointer⟩, ?_, ?_⟩
  · have hcommitted : s.committed n = .ok committed := by
      rw [StateStore.committed, hroots]
      rfl
    simp only [StateStore.stored, hcurrent, ok_bind, ← hn, hcommitted, hinitial.named, need,
      hfiles₀, hload, hconfig, hcommits]
    rfl
  -- the pointer is the one after the commits
  have hpointer : (∀ c ∈ commits, UnforgedCommit c.1 c.2) →
      current.pointer = pointerAfter commits := by
    intro hunforged
    have hsafe := readPointer_safe hread.pointer
    obtain ⟨files, hfiles, hstate, hevent⟩ := hread.files
    rcases Nat.eq_zero_or_pos n with hzero | hpos
    · obtain rfl : commits = [] := by
        rw [hzero] at hcommits
        exact (Except.ok.inj hcommits).symm
      have hg : current.pointer.generation = 0 := by rw [← hread.generation, ← hn, hzero]
      obtain ⟨hdir, hnone⟩ := hsafe.1 hg
      exact (Pointer.mk.injEq ..).mpr ⟨hg, hdir, hnone⟩
    · obtain ⟨m, hm⟩ : ∃ m, n = m + 1 := ⟨n - 1, by omega⟩
      rw [hm, List.range_succ, loop_snoc] at hcommits
      obtain ⟨init, -, hlast⟩ := hcommits
      simp only [bind_eq_ok, pure_eq_ok] at hlast
      obtain ⟨⟨name', a⟩, hloaded, rfl⟩ := hlast
      simp only [loadCommit, bind_eq_ok, need_ok, pure_eq_ok] at hloaded
      obtain ⟨last, hlast, files', hfiles', state', hstate', report', -, event', hevent', hloaded⟩ :=
        hloaded
      have hdir : current.pointer.directory = last := by
        rw [hm] at hdirectory
        exact Option.some.inj (hdirectory.symm.trans hlast)
      obtain ⟨rfl, rfl⟩ := Prod.mk.inj hloaded
      rw [hdir] at hfiles
      obtain rfl := Option.some.inj (hfiles'.symm.trans hfiles)
      obtain ⟨e, he, hcurrentEvent⟩ := hevent (by rw [← hread.generation]; exact hpos)
      obtain rfl := Except.ok.inj (hevent'.symm.trans he)
      have hsha := hread.event _ hcurrentEvent
      have hforged := hunforged _ (List.mem_append_right _ (List.mem_singleton_self _))
      obtain rfl := Except.ok.inj (hstate'.symm.trans hstate)
      rw [pointerAfter, List.getLast?_concat]
      refine (Pointer.mk.injEq ..).mpr ⟨hread.generation.symm, ?_, hsha.symm⟩
      rw [hdir]
      exact hforged.directory
  have hstart := initial_iff (Files.load_valid hload) hinitial.generation hinitial.digest
    hinitial.recoveryId hinitial.incidentId
  constructor
  · rintro ⟨hname, hfresh, hregenerates, -⟩
    obtain ⟨hstatus, hever, hfailures, happlied, hat⟩ := hstart.mp hfresh
    exact ⟨hname, hstatus, hever, hfailures, happlied, hat,
      hreplayed.regenerates_iff.mp hregenerates⟩
  · rintro ⟨hname, hstatus, hever, hfailures, happlied, hat, hunforged⟩
    exact ⟨hname, hstart.mpr ⟨hstatus, hever, hfailures, happlied, hat⟩,
      hreplayed.regenerates_iff.mpr hunforged, hpointer hunforged⟩

end

end Paic.Recovery
