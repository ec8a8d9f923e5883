import Paic.Lib.Entries
import Paic.Recovery.Lineage
import Paic.Remediation.StateStoreLaws

/-!
# Stores that replay

`Holds` says that a store's pointer names the last of some commits and that
every generation has its files. Such a store is read back as it was written;
whether it validates depends only on what else lies beside the generations:
`Holds.validates_iff`.
-/

namespace Paic.Recovery

open Checks

-- ---------------------------------------------------------------------------
-- Files that were written
-- ---------------------------------------------------------------------------

section
variable {T : Type} [RecoveryText T]

def initialFiles (initial : RecoveryLifecycleState) (config : RecoveryConfig) : Files T :=
  [("state.json", .file (TextCodec.dump initial)),
    ("recovery.config.resolved.json", .file (TextCodec.dump config))]

def commitFiles (a : Applied) : Files T :=
  [("state.json", .file (TextCodec.dump a.state)), ("report.json", .file (TextCodec.dump a.report)),
    ("event.json", .file (TextCodec.dump a.event))]

structure Applied.Valid (a : Applied) : Prop where
  report : a.report.Valid
  state : a.state.Valid
  event : a.event.Valid

omit [RecoveryText T] in
theorem load_written [Model α] [TextCodec T α] {files : Files T} {a : α} (h : Model.Valid a)
    (hf : files.lookup name = some (.file (TextCodec.dump a))) : files.load name = .ok a := by
  simp [Files.load, Files.readText, hf, need, FileEntry.text, TextCodec.load_dump h]

theorem initialFiles_state (h : initial.Valid) :
    (initialFiles initial config : Files T).load "state.json" = .ok initial := load_written h rfl

theorem initialFiles_config (h : config.Valid) :
    (initialFiles initial config : Files T).load "recovery.config.resolved.json" = .ok config :=
  load_written h rfl

theorem commitFiles_state {a : Applied} (h : a.Valid) :
    (commitFiles a : Files T).load "state.json" = .ok a.state := load_written h.state rfl

theorem commitFiles_report {a : Applied} (h : a.Valid) :
    (commitFiles a : Files T).load "report.json" = .ok a.report := load_written h.report rfl

theorem commitFiles_event {a : Applied} (h : a.Valid) :
    (commitFiles a : Files T).load "event.json" = .ok a.event := load_written h.event rfl

-- ---------------------------------------------------------------------------
-- The pointer
-- ---------------------------------------------------------------------------

theorem Pointer.json_isRecord (p : Pointer) : p.json.IsRecord := by
  obtain ⟨generation, directory, eventSha256⟩ := p
  refine ⟨(by decide : ["directory", "event_sha256", "generation"].Pairwise (· < ·)), ?_⟩
  cases eventSha256 <;> simp [fields, Json.isAtom, Json.opt]

theorem Pointer.readPointer_json {p : Pointer} (hsafe : p.Safe) :
    readPointer (some (FileText.json p.json : T)) = .ok p := by
  have hloads : (some (FileText.json p.json : T)).bind FileText.loads = some p.json :=
    FileText.loads_json _ p.json_isRecord
  rw [readPointer, hloads]
  show readPointerFields p.fields = .ok p
  obtain ⟨generation, directory, eventSha256⟩ := p
  have hread : Remediation.readOptStr (Json.opt .str eventSha256) = some eventSha256 := by
    cases eventSha256 <;> rfl
  have hpos : ¬ (generation : Int) < 0 := by omega
  simp [readPointerFields, fields, Json.get?, Remediation.sameNames, raiseIf, need,
    Remediation.readStr, Remediation.readInt, hread, hpos, hsafe, pure, Except.pure]

theorem Pointer.json_injective {p q : Pointer} (hp : p.Safe) (hq : q.Safe)
    (h : (FileText.json p.json : T) = FileText.json q.json) : p = q := by
  have hread := Pointer.readPointer_json (T := T) hp
  rw [h, Pointer.readPointer_json hq] at hread
  exact (Except.ok.inj hread).symm

end

-- ---------------------------------------------------------------------------
-- The numbers of the generations
-- ---------------------------------------------------------------------------

/-- The number of an entry that has one. -/
def entryNumber (e : String × Entry T) : Nat :=
  match entryGeneration e.1 with
  | .ok n => n
  | .error _ => 0

theorem entryNumber_of_ok {e : String × Entry T} (h : entryGeneration e.1 = .ok n) :
    entryNumber e = n := by rw [entryNumber, h]

theorem entryGeneration_zero : entryGeneration (zeroPadded 0) = .ok 0 := by decide

theorem entryGeneration_name (hn : n < 10 ^ 20) (h : namesGeneration n name = true) :
    entryGeneration name = .ok n := by
  simp [entryGeneration, namesGeneration_ne_initial hn h, namesGeneration_read hn h, need]

/-- A numbered name is not the name of a prepared directory. -/
theorem not_prepared (h : entryGeneration name = .ok n) :
    ".prepare-".toList.isPrefixOf name.toList = false := by
  by_contra hp
  rw [Bool.not_eq_false, List.isPrefixOf_iff_prefix] at hp
  obtain ⟨rest, hrest⟩ := hp
  have hne : name ≠ initialName := by
    rintro rfl
    have hhead : some '.' = initialName.toList.head? := by rw [← hrest]; rfl
    exact absurd hhead (by decide)
  have hread : readGeneration name = none := by
    rw [readGeneration, ← hrest]
    split
    · rfl
    · rfl
  simp [entryGeneration, hne, hread, need] at h

theorem addRoot_numbered {e : String × Entry T} (hn : entryGeneration e.1 = .ok n)
    (hd : e.2.isDirectory = true) :
    addRoot roots e = .ok roots' ↔ n ∉ roots.map Prod.fst ∧ roots' = roots ++ [(n, e.1)] := by
  rw [addRoot, not_prepared hn, hn, hd]
  simp only [Bool.false_eq_true, ↓reduceIte, bind_eq_ok, raiseIf_ok, pure_eq_ok, Except.ok.injEq,
    exists_and_left, exists_eq_left', exists_const, reduceCtorEq, not_false_eq_true, true_and]
  exact and_congr Iff.rfl eq_comm

/-- Every entry is a directory with a name of its own and a number. -/
structure StateStore.Regular (s : StateStore T) : Prop where
  unique : (s.generations.map Prod.fst).Nodup
  directories : ∀ e ∈ s.generations, e.2.isDirectory = true
  numbered : ∀ e ∈ s.generations, ∃ n, entryGeneration e.1 = .ok n

theorem StateStore.Regular.roots {s : StateStore T} {roots : List (Nat × String)} (h : s.Regular) :
    loop addRoot [] s.generations = .ok roots ↔ (s.generations.map entryNumber).Nodup ∧
      roots = s.generations.map fun e => (entryNumber e, e.1) := by
  have hadd : ∀ e ∈ s.generations, ∀ roots roots', addRoot roots e = .ok roots' ↔
      entryNumber e ∉ roots.map Prod.fst ∧ roots' = roots ++ [(entryNumber e, e.1)] := by
    intro e he roots roots'
    obtain ⟨n, hen⟩ := h.numbered e he
    rw [addRoot_numbered hen (h.directories e he), entryNumber_of_ok hen]
  simpa using (Entries.loop_numbers hadd List.nodup_nil :
    loop addRoot [] s.generations = .ok roots ↔ _)

-- ---------------------------------------------------------------------------
-- Replayed commits
-- ---------------------------------------------------------------------------

def Applied.directory (a : Applied) : String :=
  generationName a.state.generation a.event.eventSha256

section
variable [Hashing]

/-- What `apply` writes replays. -/
theorem ReplayOk.of_applyReport (h : applyReport s sha report config = .ok a) :
    ReplayOk config s sha a := by
  obtain ⟨trigger, htransition, -, rfl, hevent⟩ := applyReport_ok.mp h
  refine ⟨(transitionState_ok.mp htransition).1.verified, checkEvent_ok.mpr ?_, a.state, ?_, rfl, rfl⟩
  · rw [hevent]
    exact ⟨rfl, rfl, ⟨rfl, rfl⟩, rfl, rfl, rfl, rfl, rfl, rfl⟩
  · rw [hevent]
    exact htransition

theorem applyReport_valid (h : applyReport s sha report config = .ok a) (hr : report.Valid) :
    a.Valid := by
  obtain ⟨trigger, htransition, hv, hreport, hevent⟩ := applyReport_ok.mp h
  obtain ⟨-, hstate, hnext, -⟩ := transitionState_ok.mp htransition
  refine ⟨hreport ▸ hr, hnext ▸ hstate, ?_⟩
  rw [hevent]
  exact { hv with eventSha256 := digest_hex _ }

theorem ReplayOk.generation (h : ReplayOk config s sha a) :
    a.state.generation = s.generation + 1 := by
  obtain ⟨recomputed, ht, hsame, -⟩ := h.transition
  obtain ⟨-, -, rfl, -⟩ := transitionState_ok.mp ht
  exact (congrArg RecoveryLifecycleState.generation hsame).symm

theorem ReplayOk.applied (h : ReplayOk config s sha a) :
    a.state.appliedReportSha256s.length = s.appliedReportSha256s.length + 1 := by
  obtain ⟨recomputed, ht, hsame, -⟩ := h.transition
  obtain ⟨-, -, rfl, -⟩ := transitionState_ok.mp ht
  rw [← congrArg RecoveryLifecycleState.appliedReportSha256s hsame]
  simp [nextState]

theorem Replayed.generation (h : Replayed config initial commits s sha)
    (h₀ : initial.generation = 0) : s.generation = commits.length := by
  induction h with
  | start => exact h₀
  | commit _ hr _ ih => rw [hr.generation, ih, List.length_append, List.length_singleton]

theorem Replayed.length_le (h : Replayed config initial commits s sha) :
    commits.length ≤ s.appliedReportSha256s.length := by
  induction h with
  | start => exact Nat.zero_le _
  | commit _ hr _ ih =>
    rw [hr.applied, List.length_append, List.length_singleton]
    exact Nat.succ_le_succ ih

/-- The generations of the commits are 1 to their number. -/
theorem Replayed.generations (h : Replayed config initial commits s sha)
    (h₀ : initial.generation = 0) :
    (∀ c ∈ commits, 0 < c.2.state.generation ∧ c.2.state.generation ≤ commits.length) ∧
      ∀ n, 0 < n → n ≤ commits.length → ∃ c ∈ commits, c.2.state.generation = n := by
  induction h with
  | start => exact ⟨fun c hc => absurd hc List.not_mem_nil, fun n hpos hn => absurd hn (by simp; omega)⟩
  | @commit commits s sha a name h hr _ ih =>
    have hgen : a.state.generation = commits.length + 1 := by rw [hr.generation, h.generation h₀]
    rw [List.length_append, List.length_singleton]
    constructor
    · intro c hc
      rcases List.mem_append.mp hc with hc | hc
      · obtain ⟨hpos, hle⟩ := ih.1 c hc
        exact ⟨hpos, hle.trans (Nat.le_succ _)⟩
      · rw [List.mem_singleton.mp hc, hgen]
        exact ⟨Nat.succ_pos _, le_rfl⟩
    · intro n hpos hn
      rcases Nat.lt_or_eq_of_le hn with hlt | rfl
      · obtain ⟨c, hc, hcn⟩ := ih.2 n hpos (Nat.le_of_lt_succ hlt)
        exact ⟨c, List.mem_append_left _ hc, hcn⟩
      · exact ⟨(name, a), List.mem_append_right _ (List.mem_singleton_self _), hgen⟩

/-- The hash of the last event. -/
theorem Replayed.sha_eq (h : Replayed config initial commits s sha) :
    ((commits.getLast?.map fun c => c.2.event).map RecoveryLifecycleEvent.eventSha256).getD
      zeroHash = sha := by
  cases h with
  | start => rfl
  | commit => rw [List.getLast?_concat]; rfl

end

-- ---------------------------------------------------------------------------
-- Stores that hold commits
-- ---------------------------------------------------------------------------

section
variable {T : Type} [RecoveryText T] [Hashing]

/-- The policy and the initial state belong together. -/
structure Initial (config : RecoveryConfig) (initial : RecoveryLifecycleState) : Prop where
  configValid : config.Valid
  stateValid : initial.Valid
  generation : initial.generation = 0
  digest : config.digest = initial.configSha256
  recoveryId : config.recoveryId = initial.recoveryId
  incidentId : config.incidentId = initial.incidentId

/-- The pointer names the last of the commits, and every generation has the
files of its commit. -/
structure StateStore.Holds (s : StateStore T) (config : RecoveryConfig)
    (initial : RecoveryLifecycleState) (commits : List (String × Applied))
    (state : RecoveryLifecycleState) (sha : String) : Prop where
  bound : Initial config initial
  replayed : Replayed config initial commits state sha
  named : ∀ c ∈ commits, c.1 = c.2.directory
  valid : ∀ c ∈ commits, c.2.Valid
  pointer : s.currentJson.file = some (FileText.json (pointerAfter commits).json)
  initialFiles : s.generation (zeroPadded 0) = some (initialFiles initial config)
  files : ∀ c ∈ commits, s.generation c.1 = some (commitFiles c.2)
  regular : s.Regular

omit [RecoveryText T] [Hashing] in
theorem Pointer.ofEvent_safe {a : Applied} (hv : a.Valid) (hpos : 0 < a.state.generation) :
    (Pointer.ofEvent a.state.generation a.event).Safe :=
  ⟨fun h0 => absurd h0 (Nat.pos_iff_ne_zero.mp hpos),
    fun _ => ⟨namesGeneration_generationName hv.event.eventSha256, nofun⟩⟩

omit [Hashing] in
/-- What is read of a generation that `apply` wrote. -/
theorem loadCurrentBasic_written {s : StateStore T} {a : Applied} (hv : a.Valid)
    (hpos : 0 < a.state.generation)
    (hpointer : s.currentJson.file =
      some (FileText.json (Pointer.ofEvent a.state.generation a.event).json))
    (hfiles : s.generation a.directory = some (commitFiles a)) : s.loadCurrentBasic =
      .ok ⟨Pointer.ofEvent a.state.generation a.event, a.state, some a.event⟩ := by
  have hread : readPointer s.currentJson.file =
      .ok (Pointer.ofEvent a.state.generation a.event) := by
    rw [hpointer]
    exact Pointer.readPointer_json (Pointer.ofEvent_safe hv hpos)
  have hexists : ¬ s.currentJson.file.isNone = true := by simp [hpointer]
  rw [StateStore.loadCurrentBasic, raiseIf_neg hexists, ok_bind, hread, ok_bind]
  simp only [Pointer.ofEvent, show generationName a.state.generation a.event.eventSha256 =
    a.directory from rfl, hfiles, need, ok_bind, commitFiles_state hv, commitFiles_event hv,
    currentInvalid]
  rw [if_pos hpos]
  simp [Except.map, raiseIf, pure, Except.pure, bind, Except.bind]

namespace StateStore.Holds

theorem stateValid {s : StateStore T} (h : s.Holds config initial commits state sha) :
    state.Valid := by
  have hr := h.replayed
  have hv := h.valid
  cases hr with
  | start => exact h.bound.stateValid
  | commit => exact (hv _ (List.mem_append_right _ (List.mem_singleton_self _))).state

theorem length_le {s : StateStore T} (h : s.Holds config initial commits state sha) :
    commits.length ≤ 10000 := h.replayed.length_le.trans h.stateValid.appliedCount

theorem entryGeneration {s : StateStore T} (h : s.Holds config initial commits state sha)
    (hc : c ∈ commits) : Recovery.entryGeneration c.1 = .ok c.2.state.generation := by
  have hlen := h.length_le
  have hle := ((h.replayed.generations h.bound.generation).1 c hc).2
  rw [h.named c hc]
  exact entryGeneration_name (by omega) (namesGeneration_generationName (h.valid c hc).event.eventSha256)

theorem pointer_safe {s : StateStore T} (h : s.Holds config initial commits state sha) :
    (pointerAfter commits).Safe := by
  have hr := h.replayed
  have hv := h.valid
  have hg := h.replayed.generations h.bound.generation
  cases hr with
  | start => exact ⟨fun _ => ⟨rfl, rfl⟩, fun hpos => absurd hpos (lt_irrefl 0)⟩
  | @commit commits _ _ a name =>
    have hmem : (name, a) ∈ commits ++ [(name, a)] :=
      List.mem_append_right _ (List.mem_singleton_self _)
    rw [pointerAfter, List.getLast?_concat]
    exact Pointer.ofEvent_safe (hv _ hmem) (hg.1 _ hmem).1

/-- What is read of the current generation. -/
theorem loadCurrentBasic {s : StateStore T} (h : s.Holds config initial commits state sha) :
    s.loadCurrentBasic = .ok ⟨pointerAfter commits, state,
      commits.getLast?.map fun c => c.2.event⟩ := by
  have hr := h.replayed
  cases hr with
  | start =>
    have hread : readPointer s.currentJson.file = .ok (pointerAfter []) := by
      rw [h.pointer]
      exact Pointer.readPointer_json h.pointer_safe
    have hexists : ¬ s.currentJson.file.isNone = true := by simp [h.pointer]
    rw [StateStore.loadCurrentBasic, raiseIf_neg hexists, ok_bind, hread, ok_bind]
    have hfiles : s.generation (pointerAfter []).directory = _ := h.initialFiles
    have hgen : initial.generation = (pointerAfter []).generation := h.bound.generation
    simp only [hfiles, need, ok_bind, initialFiles_state h.bound.stateValid, currentInvalid,
      show ¬ 0 < (pointerAfter []).generation from lt_irrefl 0, ↓reduceIte, hgen]
    rfl
  | @commit commits s' sha' a name hr hok hv =>
    have hmem : (name, a) ∈ commits ++ [(name, a)] :=
      List.mem_append_right _ (List.mem_singleton_self _)
    have hpos := ((h.replayed.generations h.bound.generation).1 _ hmem).1
    have hfiles : s.generation a.directory = some (commitFiles a) := by
      rw [← h.named _ hmem]
      exact h.files _ hmem
    have hpointer := h.pointer
    rw [pointerAfter, List.getLast?_concat] at hpointer ⊢
    exact loadCurrentBasic_written (h.valid _ hmem) hpos hpointer hfiles

end StateStore.Holds

/-- A generation with its files is replayed by what they hold. -/
theorem replayGeneration_files {s : StateStore T} {roots : List (Nat × String)}
    {state : RecoveryLifecycleState} (hname : roots.lookup n = some name)
    (hfiles : s.generation name = some files)
    (hnames : Remediation.sameNames (files.map Prod.fst) (expectedFiles n))
    (hregular : ∀ f ∈ files, f.2.isFile = true) (hstate : files.load "state.json" = .ok state)
    (hgen : state.generation = n) : replayGeneration s roots walk n =
      if n = 0 then replayInitial files state else replayReport files walk state := by
  have hdeclared : ¬ (¬ Remediation.sameNames (files.map Prod.fst) (expectedFiles n) ∨
      ∃ f ∈ files, f.2.isFile = false) := by
    rintro (h | ⟨f, hf, hother⟩)
    · exact h hnames
    · rw [hregular f hf] at hother
      exact absurd hother nofun
  rw [replayGeneration, hname, need, ok_bind, hfiles, need, ok_bind, raiseIf_neg hdeclared]
  simp only [hstate, ok_bind]
  rw [raiseIf_neg (not_not.mpr hgen)]
  rfl

/-- The generation that `initialize` writes is replayed. -/
theorem Initial.replays {s : StateStore T} {roots : List (Nat × String)}
    (h : Initial config initial) (hname : roots.lookup 0 = some (zeroPadded 0))
    (hinitial : s.generation (zeroPadded 0) = some (initialFiles initial config)) :
    replayGeneration s roots walk 0 = .ok ⟨zeroHash, some initial, some config⟩ := by
  have hfiles : ∀ f ∈ (Recovery.initialFiles initial config : Files T), f.2.isFile = true := by
    simp [Recovery.initialFiles, FileEntry.isFile]
  have hnames : Remediation.sameNames ((Recovery.initialFiles initial config : Files T).map Prod.fst)
      (expectedFiles 0) := ⟨fun _ h => h, fun _ h => h⟩
  rw [replayGeneration_files hname hinitial hnames hfiles (initialFiles_state h.stateValid)
    h.generation, if_pos rfl, replayInitial, initialFiles_config h.configValid, ok_bind,
    raiseIf_neg]
  · rfl
  · simp [h.digest, h.recoveryId, h.incidentId]

namespace StateStore.Holds

theorem replay_commit {s : StateStore T} {roots : List (Nat × String)}
    (h : s.Holds config initial commits state sha) (hc : c ∈ commits)
    (hname : roots.lookup c.2.state.generation = some c.1)
    (hok : ReplayOk config previous previousSha c.2) :
    replayGeneration s roots ⟨previousSha, some previous, some config⟩ c.2.state.generation =
      .ok ⟨c.2.event.eventSha256, some c.2.state, some config⟩ := by
  have hfiles : ∀ f ∈ (commitFiles c.2 : Files T), f.2.isFile = true := by
    simp [commitFiles, FileEntry.isFile]
  have hpos : c.2.state.generation ≠ 0 := by
    rw [hok.generation]
    exact Nat.succ_ne_zero _
  have hnames : Remediation.sameNames ((commitFiles c.2 : Files T).map Prod.fst)
      (expectedFiles c.2.state.generation) := by
    rw [expectedFiles, if_neg hpos]
    exact (by decide : Remediation.sameNames ["state.json", "report.json", "event.json"]
      ["state.json", "event.json", "report.json"])
  have hvalid := h.valid c hc
  obtain ⟨recomputed, htransition, hsame⟩ := hok.transition
  rw [replayGeneration_files hname (h.files c hc) hnames hfiles (commitFiles_state hvalid) rfl,
    if_neg hpos, replayReport]
  simp only [need, ok_bind, commitFiles_report hvalid, hok.verified, commitFiles_event hvalid,
    hok.event, htransition]
  rw [raiseIf_neg (by simp [hsame])]
  rfl

/-- The replay of some of the first commits. -/
theorem replay_prefix {s : StateStore T} {roots : List (Nat × String)}
    (h : s.Holds config initial commits state sha)
    (hinitial : roots.lookup 0 = some (zeroPadded 0))
    (hnames : ∀ c ∈ commits, roots.lookup c.2.state.generation = some c.1)
    (hpre : Replayed config initial pre state' sha') (hsub : ∀ c ∈ pre, c ∈ commits) :
    loop (replayGeneration s roots) .start (List.range (pre.length + 1)) =
      .ok ⟨sha', some state', some config⟩ := by
  induction hpre with
  | start =>
    rw [List.range_succ, loop_snoc]
    exact ⟨.start, rfl, h.bound.replays hinitial h.initialFiles⟩
  | @commit pre previous previousSha a name hpre hok _ ih =>
    have hmem := hsub (name, a) (List.mem_append_right _ (List.mem_singleton_self _))
    have hgen : a.state.generation = pre.length + 1 := by
      rw [hok.generation, hpre.generation h.bound.generation]
    rw [List.length_append, List.length_singleton, List.range_succ, loop_snoc]
    refine ⟨_, ih fun c hc => hsub c (List.mem_append_left _ hc), ?_⟩
    rw [← hgen]
    exact h.replay_commit hmem (hnames _ hmem) hok

end StateStore.Holds

/-- The entries of the generations by their numbers. -/
def StateStore.numbered (s : StateStore T) : List (Nat × String) :=
  s.generations.map fun e => (entryNumber e, e.1)

omit [RecoveryText T] [Hashing] in
theorem StateStore.mem_numbered {s : StateStore T} (hfiles : s.generation name = some files)
    (hn : entryGeneration name = .ok n) : (n, name) ∈ s.numbered := by
  unfold StateStore.generation at hfiles
  split at hfiles
  · next found hlookup =>
    exact List.mem_map.mpr ⟨_, Entries.mem_of_lookup hlookup, by rw [entryNumber_of_ok hn]⟩
  · exact absurd hfiles nofun

namespace StateStore.Holds

/-- Each generation is found under its number when no number comes twice. -/
theorem lookup_numbered {s : StateStore T} (h : s.Holds config initial commits state sha)
    (hnodup : (s.generations.map entryNumber).Nodup) :
    let roots := s.numbered.filter (·.1 ≤ commits.length)
    (roots.map Prod.fst).Nodup ∧ roots.lookup 0 = some (zeroPadded 0) ∧
      ∀ c ∈ commits, roots.lookup c.2.state.generation = some c.1 := by
  intro roots
  have hunique : (roots.map Prod.fst).Nodup := by
    refine List.Nodup.sublist (List.filter_sublist.map _) ?_
    rwa [StateStore.numbered, List.map_map]
  refine ⟨hunique, Entries.lookup_of_mem hunique ?_, fun c hc => Entries.lookup_of_mem hunique ?_⟩
  · exact List.mem_filter.mpr
      ⟨StateStore.mem_numbered h.initialFiles entryGeneration_zero, by simp⟩
  · have hle := ((h.replayed.generations h.bound.generation).1 c hc).2
    exact List.mem_filter.mpr
      ⟨StateStore.mem_numbered (h.files c hc) (h.entryGeneration hc), by simpa using hle⟩

theorem directory_eq {s : StateStore T} (h : s.Holds config initial commits state sha)
    {roots : List (Nat × String)} (hinitial : roots.lookup 0 = some (zeroPadded 0))
    (hnames : ∀ c ∈ commits, roots.lookup c.2.state.generation = some c.1) :
    roots.lookup state.generation = some (pointerAfter commits).directory := by
  have hr := h.replayed
  have hnamed := h.named
  cases hr with
  | start => rw [h.bound.generation, hinitial]; rfl
  | @commit commits _ _ a name =>
    have hmem : (name, a) ∈ commits ++ [(name, a)] :=
      List.mem_append_right _ (List.mem_singleton_self _)
    rw [hnames _ hmem, hnamed _ hmem, pointerAfter, List.getLast?_concat]
    rfl

/-- A store that holds commits validates when no two of its generations have
one number. -/
theorem validates_iff {s : StateStore T} (h : s.Holds config initial commits state sha) :
    s.validateLineage = .ok [] ↔ (s.generations.map entryNumber).Nodup := by
  have hgen : state.generation = commits.length := h.replayed.generation h.bound.generation
  rw [validateLineage_nil, StateStore.replayLineage, h.loadCurrentBasic, ok_bind]
  constructor
  · intro hok
    obtain ⟨roots, hroots, -⟩ := bind_eq_ok.mp hok
    exact (h.regular.roots.mp hroots).1
  · intro hnodup
    obtain ⟨hunique, hinitial, hnames⟩ := h.lookup_numbered hnodup
    have hroots : loop addRoot [] s.generations = .ok s.numbered :=
      h.regular.roots.mpr ⟨hnodup, rfl⟩
    rw [hroots, ok_bind]
    simp only [hgen]
    rw [raiseIf_neg, h.replay_prefix hinitial hnames h.replayed fun _ hc => hc]
    · rfl
    · rintro (hnot | hdirectory)
      · refine hnot ⟨fun n hn => ?_, fun n hn => ?_⟩
        · obtain ⟨e, he, rfl⟩ := List.mem_map.mp hn
          have hle := (List.mem_filter.mp he).2
          simp only [decide_eq_true_eq] at hle
          exact List.mem_range.mpr (Nat.lt_succ_of_le hle)
        · have hn := Nat.le_of_lt_succ (List.mem_range.mp hn)
          rcases Nat.eq_zero_or_pos n with rfl | hpos
          · exact List.mem_map.mpr ⟨_, Entries.mem_of_lookup hinitial, rfl⟩
          · obtain ⟨c, hc, rfl⟩ := (h.replayed.generations h.bound.generation).2 n hpos hn
            exact List.mem_map.mpr ⟨_, Entries.mem_of_lookup (hnames c hc), rfl⟩
      · refine hdirectory ?_
        rw [← hgen]
        exact h.directory_eq (by rwa [hgen]) (by rwa [hgen])

/-- The commits of a store that validates, as they are read back. -/
theorem load_prefix {s : StateStore T} {roots : List (Nat × String)}
    (h : s.Holds config initial commits state sha)
    (hnames : ∀ c ∈ commits, roots.lookup c.2.state.generation = some c.1)
    (hpre : Replayed config initial pre state' sha') (hsub : ∀ c ∈ pre, c ∈ commits) :
    loop (fun commits k => do
      let commit ← loadCommit s roots (k + 1)
      pure (commits ++ [commit])) [] (List.range pre.length) = .ok pre := by
  induction hpre with
  | start => rfl
  | @commit pre previous previousSha a name hpre hok _ ih =>
    have hmem := hsub (name, a) (List.mem_append_right _ (List.mem_singleton_self _))
    have hgen : a.state.generation = pre.length + 1 := by
      rw [hok.generation, hpre.generation h.bound.generation]
    have hvalid := h.valid _ hmem
    have hload : loadCommit s roots (pre.length + 1) = .ok (name, a) := by
      rw [← hgen, loadCommit, hnames _ hmem]
      simp only [need, ok_bind, h.files _ hmem, commitFiles_state hvalid, commitFiles_report hvalid,
        commitFiles_event hvalid]
      rfl
    rw [List.length_append, List.length_singleton, List.range_succ, loop_snoc]
    exact ⟨pre, ih fun c hc => hsub c (List.mem_append_left _ hc), by rw [hload]; rfl⟩

theorem stored {s : StateStore T} (h : s.Holds config initial commits state sha)
    (hnodup : (s.generations.map entryNumber).Nodup) :
    s.stored = .ok ⟨zeroPadded 0, initial, config, commits, pointerAfter commits⟩ := by
  have hgen : state.generation = commits.length := h.replayed.generation h.bound.generation
  obtain ⟨hunique, hinitial, hnames⟩ := h.lookup_numbered hnodup
  have hroots : loop addRoot [] s.generations = .ok s.numbered :=
    h.regular.roots.mpr ⟨hnodup, rfl⟩
  have hcommitted : s.committed commits.length =
      .ok (s.numbered.filter (·.1 ≤ commits.length)) := by
    rw [StateStore.committed, hroots]
    rfl
  rw [StateStore.stored, h.loadCurrentBasic, ok_bind]
  simp only [hgen, hcommitted, ok_bind, hinitial, need, h.initialFiles,
    initialFiles_state h.bound.stateValid, initialFiles_config h.bound.configValid,
    h.load_prefix hnames h.replayed fun _ hc => hc]
  rfl

end StateStore.Holds

end

end Paic.Recovery
