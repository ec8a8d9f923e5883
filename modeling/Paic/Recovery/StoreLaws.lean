import Paic.Recovery.Raised

/-!
# What a stopped application leaves

Wherever a call of `apply` stops, every generation but its own destination is
as it was, with the same pointer (`Kept`), or the generation is there in full
and the pointer names it (`Committed`). Undisturbed, a call that computed its
generation writes it.
-/

namespace Paic.Recovery

open Checks
open Entries (placed mem_without mem_placed)
open Prog (wp_bind wp_mono wp_op wp_read wp_modify wp_touch wp_handle wp_within wp_ofExcept
  wp_ensuring wp_await wp_raise wp_pure run_bind_returned run_within run_handle)
open Remediation (JsonFile)

section
variable {T : Type} [RecoveryText T]

-- ---------------------------------------------------------------------------
-- JSON files
-- ---------------------------------------------------------------------------

theorem confirmReplaced_keeps (value : Json) (e : Error) (I : JsonFile T → Prop) :
    (confirmReplaced value e).Keeps I := by
  intro f hf
  unfold confirmReplaced
  dsimp only
  split
  · simp only [Prog.attempt, wp_bind, wp_handle, wp_read, wp_pure]
    exact ⟨hf, fun _ => hf, fun _ _ => wp_ofExcept.mpr ⟨fun _ _ => hf, fun _ _ => hf⟩⟩
  · exact hf

/-- The file holds what it held, or the new value. -/
def FileReplaced (value : Json) (f g : JsonFile T) : Prop :=
  g.file = f.file ∨ g.file = some (FileText.json value)

theorem atomicJson_wp (value : Json) (f : JsonFile T) :
    (atomicJson value).wp (fun _ g => g.file = some (FileText.json value))
      (fun _ => FileReplaced value f) (FileReplaced value f) f := by
  obtain ⟨file, staged⟩ := f
  have hold : ∀ staged', FileReplaced value ⟨file, staged⟩ ⟨file, staged'⟩ := fun _ => .inl rfl
  have hnew : FileReplaced value ⟨file, staged⟩ (⟨some (FileText.json value), none⟩ : JsonFile T) :=
    .inr rfl
  have hend : ∀ e, (confirmReplaced value e).wp (fun _ g => g.file = some (FileText.json value))
      (fun _ => FileReplaced value ⟨file, staged⟩) (FileReplaced value ⟨file, staged⟩)
      (⟨some (FileText.json value), none⟩ : JsonFile T) := fun e =>
    wp_mono (confirmReplaced_keeps value e (fun g => g.file = some (FileText.json value)) _ rfl)
      (fun _ _ => id) (fun _ _ => .inr) fun _ => .inr
  cases staged with
  | none =>
    simp only [atomicJson, wp_bind, wp_read]
    refine ⟨hold _, fun _ => hold _, ?_⟩
    rintro _ ⟨⟩
    simp only [Option.isSome_none, Bool.false_eq_true, ↓reduceIte, wp_bind, wp_op, wp_modify,
      wp_touch, wp_handle]
    refine ⟨hold _, fun _ => hold _, ?_, fun _ h => absurd h nofun⟩
    rintro _ _ ⟨⟩
    refine ⟨hold _, fun _ => hold _, hold _, fun _ => hold _, hold _, fun _ => hold _, ?_,
      fun _ h => absurd h nofun⟩
    rintro _ _ ⟨⟩
    exact ⟨hnew, hend, rfl⟩
  | some text =>
    -- the old `.tmp` file goes first
    simp only [atomicJson, wp_bind, wp_read]
    refine ⟨hold _, fun _ => hold _, ?_⟩
    rintro _ ⟨⟩
    simp only [Option.isSome_some, ↓reduceIte, wp_bind, wp_op, wp_modify, wp_touch, wp_handle]
    refine ⟨hold _, fun _ => hold _, hold _, fun _ => hold _, ?_, fun _ h => absurd h nofun⟩
    rintro _ _ ⟨⟩
    refine ⟨hold _, fun _ => hold _, hold _, fun _ => hold _, hold _, fun _ => hold _, ?_,
      fun _ h => absurd h nofun⟩
    rintro _ _ ⟨⟩
    exact ⟨hnew, hend, rfl⟩

end

-- ---------------------------------------------------------------------------
-- What changes, and what stays
-- ---------------------------------------------------------------------------

section
variable {T : Type}

theorem emptied_fst (e : String × Entry T) : (emptied name e).1 = e.1 := by
  unfold emptied
  split
  · next h => exact h.symm
  · rfl

theorem without_emptied (name : String) (l : List (String × Entry T)) :
    Entries.without (l.map (emptied name)) name = Entries.without l name :=
  Entries.without_map emptied_fst fun _ he => if_neg he

namespace StateStore

/-- The pointer and all generations but one are as before. -/
structure Kept (name : String) (s s' : StateStore T) : Prop where
  pointer : s'.currentJson.file = s.currentJson.file
  others : s'.without name = s.without name
  regular : s'.Regular

theorem Kept.refl (h : s.Regular) : Kept name s (s : StateStore T) := ⟨rfl, rfl, h⟩

theorem Kept.generation {s s' : StateStore T} (h : Kept name s s') (hne : other ≠ name) :
    s'.generation other = s.generation other := by
  have hlookup : s'.generations.lookup other = s.generations.lookup other :=
    Entries.lookup_eq_of_without h.others hne
  rw [StateStore.generation, StateStore.generation, hlookup]

/-- The destination is not there. -/
structure Cleared (name : String) (s s' : StateStore T) : Prop where
  currentJson : s'.currentJson = s.currentJson
  generations : s'.generations = s.without name

theorem Cleared.kept {s s' : StateStore T} (h : Cleared name s s') (hs : s.Regular) :
    Kept name s s' where
  pointer := by rw [h.currentJson]
  others := by
    rw [StateStore.without, h.generations]
    exact Entries.without_without
  regular := by
    have hmem : ∀ e ∈ s'.generations, e ∈ s.generations := fun e he =>
      (mem_without.mp (h.generations ▸ he)).1
    refine ⟨?_, fun e he => hs.directories e (hmem e he), fun e he => hs.numbered e (hmem e he)⟩
    rw [h.generations]
    exact Entries.without_nodup hs.unique

theorem placed_regular {s s' : StateStore T} (hs : s.Regular)
    (hname : ∃ n, entryGeneration name = .ok n)
    (h : s'.generations = placed s.generations name (.directory files)) : s'.Regular where
  unique := h ▸ Entries.placed_nodup hs.unique
  directories e he := by
    rcases mem_placed.mp (h ▸ he) with rfl | ⟨he, -⟩
    · rfl
    · exact hs.directories e he
  numbered e he := by
    rcases mem_placed.mp (h ▸ he) with rfl | ⟨he, -⟩
    · exact hname
    · exact hs.numbered e he

variable [RecoveryText T]

/-- The generation is in its place, and the pointer names it. -/
structure Committed (a : Applied) (s s' : StateStore T) : Prop where
  pointer : s'.currentJson.file =
    some (FileText.json (Pointer.ofEvent a.state.generation a.event).json)
  generations : s'.generations = placed s.generations a.directory (.directory (commitFiles a))

/-- Where a call may stop. -/
def Stopped (a : Applied) (s s' : StateStore T) : Prop :=
  Kept a.directory s s' ∨ Committed a s s'

end StateStore

end

-- ---------------------------------------------------------------------------
-- Publishing a generation
-- ---------------------------------------------------------------------------

section
variable {T : Type}

open StateStore

theorem removeGeneration_wp {s : StateStore T} (hs : s.Regular) (name : String) :
    (removeGeneration name).wp (fun _ => Cleared name s) (fun _ => Kept name s) (Kept name s) s := by
  have hothers := without_emptied name s.generations
  have hemptied : Kept name s { s with generations := s.generations.map (emptied name) } := by
    refine ⟨rfl, hothers, ?_, ?_, ?_⟩
    · rw [List.map_map, show (Prod.fst ∘ emptied name : String × Entry T → String) = Prod.fst from
        funext emptied_fst]
      exact hs.unique
    · intro e he
      obtain ⟨e', he', rfl⟩ := List.mem_map.mp he
      unfold emptied
      split
      · rfl
      · exact hs.directories e' he'
    · intro e he
      obtain ⟨e', he', rfl⟩ := List.mem_map.mp he
      rw [emptied_fst]
      exact hs.numbered e' he'
  simp only [removeGeneration, wp_bind, wp_modify]
  exact ⟨.refl hs, fun _ => .refl hs, hemptied, fun _ => hemptied, rfl, hothers⟩

theorem clearDestination_wp {s : StateStore T} (hs : s.Regular) (previous : RecoveryLifecycleState)
    (next : Pointer) :
    (clearDestination previous next).wp (fun _ => Cleared next.directory s)
      (fun _ => Kept next.directory s) (Kept next.directory s) s := by
  simp only [clearDestination, wp_bind, wp_read]
  refine ⟨.refl hs, fun _ => .refl hs, ?_⟩
  rintro found ⟨⟩
  cases hfound : s.generations.lookup next.directory with
  | none => exact ⟨rfl, (Entries.without_of_not_found hfound).symm⟩
  | some entry =>
    dsimp only
    split
    · exact removeGeneration_wp hs next.directory
    · exact .refl hs

theorem clearDestination_clears {s : StateStore T} (hs : s.Regular) {previous : RecoveryLifecycleState}
    (next : Pointer) (hlt : previous.generation < next.generation) :
    ∃ s', (clearDestination previous next).run s = .returned () s' ∧
      Cleared next.directory s s' ∧ s'.prepared = s.prepared := by
  have hread : (Except.ok (s.generations.lookup next.directory) : Except Error _) = .ok
      (s.generations.lookup next.directory) := rfl
  rw [clearDestination, Prog.run_read_bind s hread]
  cases hfound : s.generations.lookup next.directory with
  | none => exact ⟨s, rfl, ⟨rfl, (Entries.without_of_not_found hfound).symm⟩, rfl⟩
  | some entry =>
    have hentry : entry.isDirectory = true := hs.directories _ (Entries.mem_of_lookup hfound)
    dsimp only
    rw [if_pos ⟨hentry, hlt⟩]
    refine ⟨_, rfl, ⟨rfl, ?_⟩, rfl⟩
    exact without_emptied next.directory s.generations

variable [RecoveryText T]

omit [RecoveryText T] in
theorem writeDurable_returns {s s' : StateStore T} :
    s.writeDurable key name text = .ok ((), s') ↔ ∃ files, s.preparedFiles key = some files ∧
      files.lookup name = none ∧ s' = s.setPrepared key (files ++ [(name, .file text)]) := by
  simp only [StateStore.writeDurable, bind_eq_ok, need_ok, raiseIf_ok, pure_eq_ok, exists_and_left,
    exists_const, Prod.mk.injEq, true_and, Option.isSome_iff_ne_none, ne_eq, Decidable.not_not]
  exact exists_congr fun _ => and_congr Iff.rfl (and_congr Iff.rfl eq_comm)

omit [RecoveryText T] in
theorem replaceGeneration_ok {s s' : StateStore T} :
    s.replaceGeneration key name = .ok ((), s') ↔ ∃ files, s.preparedFiles key = some files ∧
      s.generations.lookup name = none ∧
      s' = { s.discard key with generations := s.generations ++ [(name, .directory files)] } := by
  simp only [StateStore.replaceGeneration, bind_eq_ok, need_ok, raiseIf_ok, pure_eq_ok,
    exists_and_left, exists_const, Prod.mk.injEq, true_and, Option.isSome_iff_ne_none, ne_eq,
    Decidable.not_not]
  exact exists_congr fun _ => and_congr Iff.rfl (and_congr Iff.rfl eq_comm)

theorem stageAndCommit_wp {s s₁ : StateStore T} (hs : s.Regular)
    (hname : ∃ n, entryGeneration a.directory = .ok n) (h : Cleared a.directory s s₁)
    (hkey : s₁.preparedFiles key = some []) :
    (stageAndCommit key a (Pointer.ofEvent a.state.generation a.event)).wp
      (fun _ => Committed a s) (fun _ => Stopped a s) (Stopped a s) s₁ := by
  have stop : ∀ prepared, Stopped a s { s₁ with prepared } := fun prepared =>
    .inl (Cleared.kept ⟨h.currentJson, h.generations⟩ hs)
  simp only [stageAndCommit, wp_bind, wp_op, wp_touch, wp_within]
  -- the three files
  refine ⟨stop _, fun _ => stop _, ?_, fun _ _ => stop _⟩
  intro _ s₂ h₂
  obtain ⟨files, hfiles, -, rfl⟩ := writeDurable_returns.mp h₂
  obtain rfl := Option.some.inj (hkey.symm.trans hfiles)
  refine ⟨stop _, fun _ => stop _, ?_, fun _ _ => stop _⟩
  intro _ s₃ h₃
  obtain ⟨files, hfiles, -, rfl⟩ := writeDurable_returns.mp h₃
  obtain rfl := Option.some.inj ((preparedFiles_setPrepared _ _ _).symm.trans hfiles)
  refine ⟨stop _, fun _ => stop _, ?_, fun _ _ => stop _⟩
  intro _ s₄ h₄
  obtain ⟨files, hfiles, -, rfl⟩ := writeDurable_returns.mp h₄
  obtain rfl := Option.some.inj ((preparedFiles_setPrepared _ _ _).symm.trans hfiles)
  -- the rename
  refine ⟨stop _, fun _ => stop _, ?_, fun _ _ => stop _⟩
  intro _ s₅ h₅
  obtain ⟨files, hfiles, -, rfl⟩ := replaceGeneration_ok.mp h₅
  obtain rfl := Option.some.inj ((preparedFiles_setPrepared _ _ _).symm.trans hfiles)
  have hplaced : s₁.generations ++ [(a.directory, .directory (commitFiles a))] =
      placed s.generations a.directory (.directory (commitFiles a)) := by
    rw [h.generations]
    rfl
  have kept : ∀ (f : JsonFile T) prepared, f.file = s.currentJson.file → Stopped a s
      { currentJson := f
        generations := s₁.generations ++ [(a.directory, .directory (commitFiles a))]
        prepared } := by
    intro f prepared hf
    refine .inl ⟨hf, ?_, placed_regular hs hname hplaced⟩
    rw [StateStore.without, hplaced]
    exact Entries.without_placed
  have hfile : s₁.currentJson.file = s.currentJson.file := by rw [h.currentJson]
  refine ⟨kept _ _ hfile, fun _ => kept _ _ hfile, ?_⟩
  have stopped : ∀ (f : JsonFile T) prepared,
      FileReplaced (Pointer.ofEvent a.state.generation a.event).json s₁.currentJson f → Stopped a s
        { currentJson := f
          generations := s₁.generations ++ [(a.directory, .directory (commitFiles a))]
          prepared } := by
    rintro f prepared (hf | hf)
    · exact kept f prepared (hf.trans hfile)
    · exact .inr ⟨hf, hplaced⟩
  exact wp_mono (atomicJson_wp _ s₁.currentJson) (fun _ f hf => ⟨hf, hplaced⟩)
    (fun _ f hf => stopped f _ hf) fun f hf => stopped f _ hf

/-- The generation is in its place before the pointer is written. -/
theorem stageAndCommit_reaches {s : StateStore T} (hkey : s.preparedFiles key = some [])
    (hfree : s.generations.lookup a.directory = none) :
    ∃ s', (stageAndCommit key a (Pointer.ofEvent a.state.generation a.event)).Reaches s (do
        Prog.touch
        (atomicJson (Pointer.ofEvent a.state.generation a.event).json).within currentJsonPart) s' ∧
      s'.currentJson = s.currentJson ∧
      s'.generations = s.generations ++ [(a.directory, .directory (commitFiles a))] := by
  let stateFile : String × FileEntry T := ("state.json", .file (TextCodec.dump a.state))
  let reportFile : String × FileEntry T := ("report.json", .file (TextCodec.dump a.report))
  let s₂ := s.setPrepared key [stateFile]
  let s₃ := s₂.setPrepared key [stateFile, reportFile]
  let s₄ := s₃.setPrepared key (commitFiles a)
  have hstate : s.writeDurable key "state.json" (TextCodec.dump a.state) = .ok ((), s₂) :=
    writeDurable_ok hkey rfl
  have hreport : s₂.writeDurable key "report.json" (TextCodec.dump a.report) = .ok ((), s₃) :=
    writeDurable_ok (preparedFiles_setPrepared ..) rfl
  have hevent : s₃.writeDurable key "event.json" (TextCodec.dump a.event) = .ok ((), s₄) :=
    writeDurable_ok (preparedFiles_setPrepared ..) rfl
  have hreplace := replaceGeneration_ok.mpr ⟨commitFiles a,
    preparedFiles_setPrepared s₃ key (commitFiles a), hfree, rfl⟩
  exact ⟨{ s₄.discard key with
      generations := s.generations ++ [(a.directory, .directory (commitFiles a))] },
    (Prog.Reaches.op s hstate _).trans ((Prog.Reaches.op s₂ hreport _).trans
    ((Prog.Reaches.op s₃ hevent _).trans (Prog.Reaches.op _ hreplace _))), rfl, rfl⟩

theorem stageAndCommit_commits {s s₁ : StateStore T} (h : Cleared a.directory s s₁)
    (hkey : s₁.preparedFiles key = some []) :
    ∃ s', (stageAndCommit key a (Pointer.ofEvent a.state.generation a.event)).run s₁ =
      .returned () s' ∧ Committed a s s' := by
  have hfree : s₁.generations.lookup a.directory = none := by
    rw [h.generations]
    exact Entries.lookup_without_self
  obtain ⟨s₄, hreaches, -, hgenerations⟩ := stageAndCommit_reaches hkey hfree
  refine ⟨{ s₄ with currentJson :=
    ⟨some (FileText.json (Pointer.ofEvent a.state.generation a.event).json), none⟩ }, ?_, rfl, ?_⟩
  · rw [hreaches.run, run_bind_returned (Prog.run_touch _), run_within, atomicJson_run]
    rfl
  · show s₄.generations = _
    rw [hgenerations, h.generations]
    rfl

/-- Undisturbed, a generation is published whatever earlier calls have left. -/
theorem publishReport_commits {s : StateStore T} (hs : s.Regular) {previous : RecoveryLifecycleState}
    (hlt : previous.generation < a.state.generation) :
    ∃ s', (publishReport previous a).run s = .returned () s' ∧ Committed a s s' := by
  obtain ⟨s₁, hclear, hc, -⟩ := clearDestination_clears hs
    (Pointer.ofEvent a.state.generation a.event) hlt
  have hkey : s₁.mkdtemp.2.preparedFiles s₁.mkdtemp.1 = some [] := List.lookup_cons_self
  obtain ⟨s₂, hstage, hcommitted⟩ := stageAndCommit_commits (a := a) (s := s)
    (show Cleared a.directory s s₁.mkdtemp.2 from ⟨hc.currentJson, hc.generations⟩) hkey
  refine ⟨s₂, ?_, hcommitted⟩
  rw [publishReport]
  refine (run_bind_returned hclear).trans ?_
  refine (Prog.run_op_bind s₁ (rfl : (Except.ok s₁.mkdtemp : Except Error _) =
    .ok (s₁.mkdtemp.1, s₁.mkdtemp.2))).trans ?_
  rw [run_handle]
  exact congrArg (fun o => Prog.Outcome.orElse o _) hstage

theorem publishReport_wp {s : StateStore T} (hs : s.Regular)
    (hname : ∃ n, entryGeneration a.directory = .ok n) (previous : RecoveryLifecycleState) :
    (publishReport previous a).wp (fun _ => Committed a s) (fun _ => Stopped a s) (Stopped a s) s := by
  have hdiscard : ∀ {s'} key, Stopped a s s' → Stopped a s (s'.discard key) := by
    rintro s' key (hk | hc)
    · exact .inl ⟨hk.pointer, hk.others, hk.regular.unique, hk.regular.directories,
        hk.regular.numbered⟩
    · exact .inr ⟨hc.pointer, hc.generations⟩
  simp only [publishReport, wp_bind]
  refine wp_mono (clearDestination_wp hs previous _) (fun _ s₁ h₁ => ?_) (fun _ _ => .inl)
    fun _ => .inl
  have stop₁ : Stopped a s s₁ := .inl (h₁.kept hs)
  simp only [wp_op]
  refine ⟨stop₁, fun _ => stop₁, ?_, fun _ h => absurd h (by rintro ⟨⟩)⟩
  rintro key s₂ ⟨⟩
  rw [wp_handle]
  refine wp_mono (stageAndCommit_wp hs hname ⟨h₁.currentJson, h₁.generations⟩ List.lookup_cons_self)
    (fun _ s₃ h₃ => h₃) (fun e s₃ h₃ => ?_) fun _ => id
  simp only [wp_bind, wp_modify, wp_raise]
  exact ⟨h₃, fun _ => h₃, hdiscard _ h₃⟩

-- ---------------------------------------------------------------------------
-- A call
-- ---------------------------------------------------------------------------

omit [RecoveryText T] in
/-- What is allowed at every step of the program inside is allowed while the
lock is taken and given back. -/
theorem withLock_wp {p : Prog Error (World T) α} {w : World T} {Q : α → StateStore T → Prop}
    {S : StateStore T → Prop} (hw : S w.store) (hQ : ∀ a s, Q a s → S s)
    (h : p.wp (fun a w' => Q a w'.store) (fun _ w' => S w'.store) (fun w' => S w'.store)
      { w with lock := true }) :
    (withLock p).wp (fun a w' => Q a w'.store) (fun _ w' => S w'.store) (fun w' => S w'.store) w := by
  simp only [withLock, wp_bind, wp_await, wp_ensuring, wp_modify]
  exact ⟨hw, fun _ => hw, fun _ => wp_mono h
    (fun a w' hq => ⟨hQ a _ hq, fun _ => hQ a _ hq, hq⟩) (fun _ _ hs => ⟨hs, fun _ => hs, hs⟩)
    (fun _ hs => hs)⟩

omit [RecoveryText T] in
theorem withLock_run {p : Prog Error (World T) α} {w : World T} (hw : w.lock = false)
    (h : p.run { w with lock := true } = .returned a w') :
    (withLock p).run w = .returned a { w' with lock := false } := by
  rw [withLock, run_bind_returned (by rw [Prog.run_await, if_pos (by simp [hw])]),
    Prog.run_ensuring, h]
  rfl

variable [Hashing]

/-- What a call may leave. -/
def Leaves (report : RecoveryReport) (config : RecoveryConfig) (s s' : StateStore T) : Prop :=
  s' = s ∨ ∃ previous a, s.prepare report config = .ok (previous, a) ∧ Stopped a s s'

/-- What a call that returns has done. -/
def Returns (report : RecoveryReport) (config : RecoveryConfig) (s : StateStore T)
    (r : RecoveryLifecycleState × RecoveryLifecycleEvent) (s' : StateStore T) : Prop :=
  ∃ previous a, s.prepare report config = .ok (previous, a) ∧ r = (a.state, a.event) ∧
    Committed a s s'

theorem apply_wp {w : World T} (hs : w.store.Regular)
    (hname : ∀ previous a, w.store.prepare report config = .ok (previous, a) →
      ∃ n, entryGeneration a.directory = .ok n) :
    (apply report config).wp (fun r w' => Returns report config w.store r w'.store)
      (fun _ w' => Leaves report config w.store w'.store)
      (fun w' => Leaves report config w.store w'.store) w := by
  have hsame : Leaves report config w.store w.store := .inl rfl
  simp only [apply, ensureRoot, wp_bind, wp_touch]
  refine ⟨hsame, fun _ => hsame, withLock_wp (Q := Returns report config w.store)
    (S := Leaves report config w.store) hsame ?_ ?_⟩
  · rintro r s ⟨previous, a, ha, -, hc⟩
    exact .inr ⟨previous, a, ha, .inr hc⟩
  · simp only [wp_bind, wp_read]
    refine ⟨hsame, fun _ => hsame, ?_⟩
    rintro ⟨previous, a⟩ ha
    rw [wp_within]
    refine wp_mono (publishReport_wp (s := w.store) hs (hname previous a ha) previous)
      (fun _ s' hc => ⟨previous, a, ha, rfl, hc⟩) (fun _ s' hst => .inr ⟨previous, a, ha, hst⟩)
      fun s' hst => .inr ⟨previous, a, ha, hst⟩

/-- Undisturbed, a call that computed its generation returns. -/
theorem apply_run {w : World T} (hs : w.store.Regular) (hlock : w.lock = false)
    (ha : w.store.prepare report config = .ok (previous, a))
    (hlt : previous.generation < a.state.generation) :
    ∃ w', (apply report config).run w = .returned (a.state, a.event) w' ∧ w'.lock = false ∧
      Committed a w.store w'.store := by
  obtain ⟨s', hpublish, hc⟩ := publishReport_commits (a := a) hs hlt
  refine ⟨{ w with store := s', lock := false }, ?_, rfl, hc⟩
  rw [apply, ensureRoot, run_bind_returned (Prog.run_touch _)]
  refine withLock_run hlock (?_ : _ = Prog.Outcome.returned _ { w with store := s', lock := true })
  refine (Prog.run_read_bind (f := fun w : World T => w.store.prepare report config)
    { w with lock := true } ha).trans ?_
  have hin : ((publishReport previous a).within World.storePart).run { w with lock := true } =
      .returned () { w with store := s', lock := true } := by
    rw [run_within]
    exact congrArg (Prog.Outcome.mapState _) hpublish
  exact run_bind_returned hin

end

end Paic.Recovery
