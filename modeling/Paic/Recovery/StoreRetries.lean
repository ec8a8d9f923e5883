import Paic.Recovery.StoreRecovery

/-!
# Trying again, and giving up

A caller that tries a stopped call again, as often as it likes, ends with the
commit it wanted (`retries_recover`). A caller that goes on with another report
can lose the store (`abandoned_blocks`).
-/

namespace Paic.Recovery

open Checks
open Entries (mem_without)
open Prog (exec_wp run_touch run_await run_bind_returned)
open StateStore

section
variable {T : Type} [RecoveryText T]

namespace StateStore

/-- No generation is later than the current one. -/
def Settled (s : StateStore T) : Prop :=
  ∀ c, s.loadCurrentBasic = .ok c → ∀ e ∈ s.generations, entryNumber e ≤ c.state.generation

omit [RecoveryText T] in
theorem Kept.trans {s s' s'' : StateStore T} (h : Kept name s s') (h' : Kept name s' s'') :
    Kept name s s'' :=
  ⟨h'.pointer.trans h.pointer, h'.others.trans h.others, h'.regular⟩

theorem Committed.of_kept {s s' s'' : StateStore T} (h : Kept a.directory s s')
    (hc : Committed a s' s'') : Committed a s s'' where
  pointer := hc.pointer
  generations := by
    rw [hc.generations, Entries.placed, Entries.placed]
    exact congrArg (· ++ _) h.others

omit [RecoveryText T] in
/-- Beside a generation with a new number the numbers stay distinct. -/
theorem Kept.nodup {s s' : StateStore T} (hk : Kept name s s') (hname : entryGeneration name = .ok n)
    (hnodup : (s.generations.map entryNumber).Nodup) (hlt : ∀ e ∈ s.generations, entryNumber e < n) :
    (s'.generations.map entryNumber).Nodup := by
  have hold : ∀ e ∈ s'.generations, e.1 ≠ name → e ∈ s.generations := fun e he hne =>
    (Entries.mem_iff_of_without hk.others hne).mp he
  have hnew : ∀ e : String × Entry T, e.1 = name → entryNumber e = n := fun e he =>
    entryNumber_of_ok (he ▸ hname)
  have hkeys := hk.regular.unique
  refine (List.nodup_map_iff_inj_on (List.Nodup.of_map _ hkeys)).mpr fun e he e' he' heq => ?_
  by_cases hen : e.1 = name <;> by_cases hen' : e'.1 = name
  · exact List.inj_on_of_nodup_map hkeys he he' (hen.trans hen'.symm)
  · exact absurd (heq.symm.trans (hnew e hen)) (hlt e' (hold e' he' hen')).ne
  · exact absurd (heq.trans (hnew e' hen')) (hlt e (hold e he hen)).ne
  · exact List.inj_on_of_nodup_map hnodup (hold e he hen) (hold e' he' hen') heq

end StateStore

variable [Hashing]

/-- Tries of one call, each of which may have stopped at any of its steps. -/
inductive Retries (report : RecoveryReport) (config : RecoveryConfig) (w : World T) :
    World T → Prop where
  | start : Retries report config w w
  | again (h : Retries report config w w')
      (hr : ((apply report config).exec faults w'.later).Ends w'') : Retries report config w w''

omit [RecoveryText T] in
/-- A report is applied once. -/
theorem applyReport_once (ha : applyReport state sha report config = .ok a) :
    applyReport a.state sha' report config ≠ .ok a' := by
  intro ha'
  obtain ⟨_, ht, -⟩ := applyReport_ok.mp ha
  obtain ⟨_, ht', -⟩ := applyReport_ok.mp ha'
  obtain ⟨-, -, hstate, -⟩ := transitionState_ok.mp ht
  refine (transitionState_ok.mp ht').1.fresh ?_
  rw [hstate]
  simp [nextState]

namespace StateStore.Holds

variable {w w' : World T}

theorem retries (h : w.store.Holds policy initial commits state sha)
    (ho : Offered policy report config) (ha : applyReport state sha report config = .ok a)
    (hr : Retries report config w w') : Stopped a w.store w'.store := by
  obtain ⟨hok, hv, -, hname⟩ := h.next ho ha
  induction hr with
  | start => exact .inl (.refl h.regular)
  | @again w' faults w'' _ hends ih =>
    rcases ih with hk | hc
    · have hkept : w'.later.store.Holds policy initial commits state sha := h.kept hk hname
      rcases hkept.ends ho hends with hsame | ⟨a', hprepare, hstopped⟩
      · exact .inl (by rw [hsame]; exact hk)
      · obtain rfl := Except.ok.inj (ha.symm.trans (hkept.prepare_ok.mp hprepare).2.2)
        rcases hstopped with hk' | hc'
        · exact .inl (hk.trans hk')
        · exact .inr (.of_kept hk hc')
    · have hdone : w'.later.store.Holds policy initial (commits ++ [(a.directory, a)]) a.state
          a.event.eventSha256 := h.committed hok hv hname hc
      rcases hdone.ends ho hends with hsame | ⟨a', hprepare, -⟩
      · exact .inr (by rw [hsame]; exact hc)
      · exact absurd (hdone.prepare_ok.mp hprepare).2.2 (applyReport_once ha)

/-- What is there after the commit. -/
theorem settled_committed {s s' : StateStore T} (h : s.Holds policy initial commits state sha)
    (ho : Offered policy report config) (ha : applyReport state sha report config = .ok a)
    (hnodup : (s.generations.map entryNumber).Nodup)
    (hle : ∀ e ∈ s.generations, entryNumber e ≤ commits.length) (hc : Committed a s s') :
    s'.validateLineage = .ok [] ∧ s'.Settled := by
  obtain ⟨hok, hv, hgen, hname⟩ := h.next ho ha
  have hnext := h.committed hok hv hname hc
  constructor
  · rw [hnext.validates_iff, committed_nodup (hname.trans (congrArg _ hgen.symm)) hc]
    refine ⟨fun e he => ?_, hnodup.sublist (List.filter_sublist.map _)⟩
    rw [hgen]
    exact (Nat.lt_succ_of_le (hle e (mem_without.mp he).1)).ne
  · intro c hload e he
    obtain rfl := Except.ok.inj (hnext.loadCurrentBasic.symm.trans hload)
    rw [hc.generations] at he
    rcases Entries.mem_placed.mp he with rfl | ⟨he, -⟩
    · rw [entryNumber_named hname, hgen]
    · exact (hle e he).trans (hgen ▸ Nat.le_succ _)

end StateStore.Holds

/-- Where nothing was left behind, a call whose transition is defined may be
tried until it has committed. -/
theorem retries_recover {w₀ w w' : World T} (h₀ : Initialized w₀ policy initial)
    (h : Runs policy w₀ w) (hsettled : w.store.Settled) (ho : Offered policy report config)
    (ha : w.store.prepare report config = .ok (previous, a)) (hr : Retries report config w w') :
    (w'.store.loadCurrentBasic = w.store.loadCurrentBasic ∧
      ∃ w'', (apply report config).run w'.later = .returned (a.state, a.event) w'' ∧
        w''.store.validateLineage = .ok [] ∧ w''.store.Settled) ∨
    w'.store.loadCurrentBasic =
        .ok ⟨Pointer.ofEvent a.state.generation a.event, a.state, some a.event⟩ ∧
      w'.store.validateLineage = .ok [] ∧ w'.store.Settled := by
  obtain ⟨commits, state, sha, hw⟩ := h.holds h₀.holds.1
  obtain ⟨hnodup, rfl, happly⟩ := hw.prepare_ok.mp ha
  obtain ⟨hok, hv, hgen, hname⟩ := hw.next ho happly
  have hlength : previous.generation = commits.length := hw.replayed.generation hw.bound.generation
  have hle : ∀ e ∈ w.store.generations, entryNumber e ≤ commits.length := fun e he =>
    hlength ▸ hsettled _ hw.loadCurrentBasic e he
  rcases hw.retries ho happly hr with hk | hc
  · have hkept := hw.kept hk hname
    have hnodup' := hk.nodup hname hnodup fun e he => Nat.lt_succ_of_le (hle e he)
    have hlt : previous.generation < a.state.generation := by omega
    have hprepare : w'.later.store.prepare report config = .ok (previous, a) :=
      hkept.prepare_ok.mpr ⟨hnodup', rfl, happly⟩
    obtain ⟨w'', hrun, -, hc⟩ := apply_run (w := w'.later) hkept.regular rfl hprepare hlt
    refine .inl ⟨hkept.loadCurrentBasic.trans hw.loadCurrentBasic.symm, w'', hrun, ?_⟩
    exact hw.settled_committed ho happly hnodup hle (.of_kept hk hc)
  · refine .inr ⟨?_, hw.settled_committed ho happly hnodup hle hc⟩
    rw [(hw.committed hok hv hname hc).loadCurrentBasic, pointerAfter, List.getLast?_concat]
    rfl

end

namespace Sample

/-- The same report, five minutes later. -/
def laterRecovery : Applied :=
  { report := report healthy 20
    state := nextState initial (report healthy 20) config
    event := (provisionalEvent initial (nextState initial (report healthy 20) config) zeroHash
      (report healthy 20) "recovery_verified").sealed }

theorem laterReport_valid : (report healthy 20).Valid := by
  have hfields : (provisionalReport config observations manifest none (at_ 20)
      (evaluationsAt healthy config observations (at_ 20))).FieldsValid :=
    provisionalReport_fieldsValid config_valid observations_valid (digest_hex _) rfl
      ⟨_, List.mem_cons_self, rfl⟩ (by decide)
  have hevaluations : ∀ e ∈ evaluationsAt healthy config observations (at_ 20), e.Valid := by
    decide +kernel
  exact ⟨hfields.sealed, hevaluations⟩

theorem laterRecovery_applied :
    applyReport initial zeroHash (report healthy 20) config = .ok laterRecovery := by
  have hnext : (nextState initial (report healthy 20) config).Valid := by
    rw [nextState_valid_iff initial_valid (initial_bound healthy 20) (digest_hex _) rfl
      (by simp [initial, initialState])]
    exact fun h => absurd h (by decide)
  refine applyReport_ok.mpr ⟨_, transitionState_ok.mpr ⟨initial_bound healthy 20, hnext, rfl, rfl⟩,
    ?_, rfl, rfl⟩
  exact provisionalEvent_valid initial_valid laterReport_valid zeroHash_isSha256

theorem settled {w₀ : World Text} (h₀ : Initialized w₀ config initial) : w₀.store.Settled := by
  obtain ⟨hholds, hnumbers⟩ := h₀.holds
  intro c hload e he
  have hmem : entryNumber e ∈ w₀.store.generations.map entryNumber := List.mem_map_of_mem he
  rw [hnumbers, List.mem_singleton] at hmem
  exact hmem ▸ Nat.zero_le _

theorem laterPrepared {w₀ : World Text} (h₀ : Initialized w₀ config initial) :
    w₀.store.prepare (report healthy 20) config = .ok (initial, laterRecovery) := by
  obtain ⟨hholds, hnumbers⟩ := h₀.holds
  refine hholds.prepare_ok.mpr ⟨?_, rfl, laterRecovery_applied⟩
  rw [hnumbers]
  exact List.nodup_singleton _

theorem directories_ne : recovery.directory ≠ laterRecovery.directory := by decide +kernel

end Sample

/-- The sample's report crashed once and was tried again. -/
theorem retries_recover_sample : ∃ w : World Sample.Text,
    (w.store.loadCurrentBasic = .ok ⟨Pointer.initial, Sample.initial, none⟩ ∧
      ∃ w', (apply (Sample.report Sample.healthy 15) Sample.config).run w.later =
        .returned (Sample.recovery.state, Sample.recovery.event) w') ∨
      w.store.validateLineage = .ok [] := by
  obtain ⟨w₀, h₀⟩ := Sample.initialized
  obtain ⟨hprepare, -⟩ := Sample.prepared h₀
  have hload := h₀.holds.1.loadCurrentBasic
  have hcrash : ((apply (Sample.report Sample.healthy 15) Sample.config).exec [.crash] w₀.later).Ends
      w₀.later := rfl
  have hretries : Retries (Sample.report Sample.healthy 15) Sample.config w₀ w₀.later :=
    .again .start hcrash
  rcases retries_recover h₀ .start (Sample.settled h₀) Sample.offered hprepare hretries with
    ⟨hsame, w', hrun, -⟩ | ⟨-, hvalid, -⟩
  · exact ⟨w₀.later, .inl ⟨hsame.trans hload, w', hrun⟩⟩
  · exact ⟨w₀.later, .inr hvalid⟩

-- ---------------------------------------------------------------------------
-- An abandoned generation
-- ---------------------------------------------------------------------------

section
variable {T : Type} [RecoveryText T] [Hashing]

omit [Hashing] in
/-- The call can crash between the generation and the pointer. -/
theorem publishReport_crashes {s : StateStore T} (previous : RecoveryLifecycleState)
    (hfree : s.generations.lookup a.directory = none) :
    ∃ s', (publishReport previous a).Crashes s s' ∧ s'.currentJson = s.currentJson ∧
      s'.generations = s.generations ++ [(a.directory, .directory (commitFiles a))] := by
  let s₁ := s.mkdtemp.2
  let key := s.mkdtemp.1
  have hkey : s₁.preparedFiles key = some [] := List.lookup_cons_self
  have hclear : (clearDestination previous (Pointer.ofEvent a.state.generation a.event)).run s =
      .returned () s := by
    rw [clearDestination, Prog.run_read_bind s (a := s.generations.lookup a.directory) rfl, hfree]
    rfl
  obtain ⟨s', hreaches, hpointer, hgenerations⟩ := stageAndCommit_reaches hkey hfree
  refine ⟨s', (Prog.Reaches.of_returned hclear _).crashes ?_, hpointer, hgenerations⟩
  refine (Prog.Reaches.op (a := key) s rfl _).crashes (.handle ?_ _)
  exact hreaches.crashes (.bind .here _)

theorem apply_crashes {w : World T} (hlock : w.lock = false)
    (ha : w.store.prepare report config = .ok (previous, a))
    (hfree : w.store.generations.lookup a.directory = none) :
    ∃ w', (apply report config).Crashes w w' ∧
      w'.store.currentJson = w.store.currentJson ∧
      w'.store.generations = w.store.generations ++ [(a.directory, .directory (commitFiles a))] := by
  obtain ⟨s', hcrash, hpointer, hgenerations⟩ := publishReport_crashes previous hfree
  let locked : World T := { w with lock := true }
  refine ⟨World.storePart.put locked s', ?_, hpointer, hgenerations⟩
  rw [apply, ensureRoot]
  refine (Prog.Reaches.of_returned (run_touch w) _).crashes ?_
  refine (Prog.Reaches.of_returned (by rw [run_await, if_pos (by simp [hlock])]) _).crashes ?_
  refine Prog.Crashes.ensuring ?_ _
  refine (Prog.Reaches.read (f := fun w : World T => w.store.prepare report config) locked
    ha _).crashes ?_
  exact (Prog.Crashes.within World.storePart (s := locked) hcrash).bind _

/-- Two reports whose transitions are defined, each with a generation of its
own: if the call with the first crashes and is not tried again, the call with
the second returns, and no later one does. -/
theorem abandoned_blocks {w₀ w : World T} (h₀ : Initialized w₀ policy initial)
    (h : Runs policy w₀ w) (hsettled : w.store.Settled)
    (ho : Offered policy report config) (ha : w.store.prepare report config = .ok (previous, a))
    (ho' : Offered policy report' config')
    (ha' : w.store.prepare report' config' = .ok (previous', a'))
    (hne : a.directory ≠ a'.directory) :
    ∃ w₁ w₂, (apply report config).Crashes w.later w₁ ∧
      w₁.store.loadCurrentBasic = w.store.loadCurrentBasic ∧
      (apply report' config').run w₁.later = .returned (a'.state, a'.event) w₂ ∧
      ∀ w₃, Runs policy w₂ w₃ → w₃.store = w₂.store ∧ w₃.store.validateLineage ≠ .ok [] := by
  obtain ⟨commits, state, sha, hw⟩ := h.holds h₀.holds.1
  obtain ⟨hnodup, rfl, happly⟩ := hw.prepare_ok.mp ha
  obtain ⟨-, rfl, happly'⟩ := hw.prepare_ok.mp ha'
  obtain ⟨hok, hv, hgen, hname⟩ := hw.next ho happly
  obtain ⟨hok', hv', hgen', hname'⟩ := hw.next ho' happly'
  have hlength : previous'.generation = commits.length :=
    hw.replayed.generation hw.bound.generation
  have hle : ∀ e ∈ w.store.generations, entryNumber e ≤ commits.length := fun e he =>
    hlength ▸ hsettled _ hw.loadCurrentBasic e he
  have hfree : w.store.generations.lookup a.directory = none := by
    by_contra hfound
    obtain ⟨entry, hentry⟩ := Option.ne_none_iff_exists'.mp hfound
    have hle := hle _ (Entries.mem_of_lookup hentry)
    rw [entryNumber_named hname] at hle
    omega
  obtain ⟨w₁, hcrash, hpointer, hgenerations⟩ := apply_crashes (w := w.later) rfl ha hfree
  have hplaced : w₁.store.generations =
      Entries.placed w.store.generations a.directory (.directory (commitFiles a)) := by
    rw [hgenerations, Entries.placed, Entries.without_of_not_found hfree]
    rfl
  have hk : Kept a.directory w.store w₁.store := by
    refine ⟨congrArg _ hpointer, ?_, placed_regular hw.regular ⟨_, hname⟩ hplaced⟩
    rw [StateStore.without, hplaced]
    exact Entries.without_placed
  have hkept := hw.kept hk hname
  have hnodup₁ := hk.nodup hname hnodup fun e he => Nat.lt_succ_of_le (hle e he)
  have hprepare : w₁.later.store.prepare report' config' = .ok (previous', a') :=
    hkept.prepare_ok.mpr ⟨hnodup₁, rfl, happly'⟩
  obtain ⟨w₂, hrun, -, hc⟩ := apply_run (w := w₁.later) hkept.regular rfl hprepare (by omega)
  refine ⟨w₁, w₂, hcrash, hkept.loadCurrentBasic.trans hw.loadCurrentBasic.symm, hrun,
    fun w₃ hr => ?_⟩
  have hnext := hkept.committed hok' hv' hname' hc
  have hdup : ¬ (w₂.store.generations.map entryNumber).Nodup := by
    rw [committed_nodup (hname'.trans (congrArg _ hgen'.symm)) hc]
    rintro ⟨hfresh, -⟩
    refine hfresh (a.directory, .directory (commitFiles a)) (mem_without.mpr ⟨?_, hne⟩) ?_
    · rw [show w₁.later.store = w₁.store from rfl, hplaced]
      exact Entries.mem_placed.mpr (.inl rfl)
    · rw [entryNumber_named hname, hgen']
  have hsame := hnext.blocked hdup hr
  refine ⟨hsame, ?_⟩
  rw [hsame, ne_eq, hnext.validates_iff]
  exact hdup


end

/-- The sample's report is given up for a later one. -/
theorem abandoned_blocks_sample : ∃ w₂ : World Sample.Text,
    w₂.store.validateLineage ≠ .ok [] := by
  obtain ⟨w₀, h₀⟩ := Sample.initialized
  obtain ⟨w₁, w₂, -, -, -, hblocked⟩ := abandoned_blocks h₀ .start (Sample.settled h₀) Sample.offered
    (Sample.prepared h₀).1 ⟨Sample.laterReport_valid, fun _ => rfl⟩ (Sample.laterPrepared h₀)
    Sample.directories_ne
  exact ⟨w₂, (hblocked w₂ .start).2⟩

end Paic.Recovery
