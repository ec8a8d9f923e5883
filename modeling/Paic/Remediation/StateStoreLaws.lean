import Paic.Remediation.ArtifactLaws
import Paic.Remediation.StateStore

/-!
# What a stopped execution leaves

`StateStore.Inv` is what holds of a store between calls. `execute_stops` says
what a call leaves behind wherever it stops: either every generation but the
call's own destination is as it was, with the same pointer (`Kept`), or the
transaction is there in full and the pointer names it (`Committed`). Both
keep the invariant.
-/

namespace Paic.Remediation

open Checks
open Prog (wp_bind wp_mono wp_op wp_read wp_modify wp_touch wp_handle wp_within wp_ofExcept
  wp_ensuring wp_await wp_raise wp_pure run_bind_returned)

section
variable {T : Type} [RemediationText T]

-- ---------------------------------------------------------------------------
-- JSON files
-- ---------------------------------------------------------------------------

theorem confirmReplaced_keeps (value : Json) (e : Error) (I : JsonFile T → Prop) :
    (confirmReplaced value e).Keeps I := by
  intro f hf
  unfold confirmReplaced
  split
  · simp only [Prog.attempt, wp_bind, wp_handle, wp_read, wp_pure]
    refine ⟨hf, fun e => hf, fun found _ => wp_ofExcept.mpr ⟨fun _ _ => hf, fun _ _ => hf⟩⟩
  · exact hf

/-- The file holds what it held, or it was free to be written and holds the
new value. -/
def JsonFile.Written (value : Json) (f g : JsonFile T) : Prop :=
  f.staged = none ∧ g = ⟨some (FileText.json value), none⟩

def JsonFile.Stopped (value : Json) (f g : JsonFile T) : Prop :=
  g.file = f.file ∨ f.Written value g

theorem writeJsonAtomic_wp (value : Json) (f : JsonFile T) :
    (writeJsonAtomic value).wp (fun _ => f.Written value) (fun _ => f.Stopped value)
      (f.Stopped value) f := by
  obtain ⟨file, staged⟩ := f
  cases staged with
  | some text =>
    have hold : JsonFile.Stopped value ⟨file, some text⟩ ⟨file, some text⟩ := .inl rfl
    simp only [writeJsonAtomic, wp_bind, wp_op]
    exact ⟨hold, fun _ => hold, fun _ _ h => absurd h nofun, fun _ _ => hold⟩
  | none =>
    have hold : ∀ staged, JsonFile.Stopped value ⟨file, none⟩ ⟨file, staged⟩ := fun _ => .inl rfl
    have hnew : JsonFile.Written value (⟨file, none⟩ : JsonFile T)
        ⟨some (FileText.json value), none⟩ := ⟨rfl, rfl⟩
    simp only [writeJsonAtomic, wp_bind, wp_op, wp_modify, wp_touch, wp_handle]
    refine ⟨hold _, fun _ => hold _, ?_, fun _ h => absurd h nofun⟩
    rintro _ _ ⟨⟩
    refine ⟨hold _, fun _ => hold _, hold _, fun _ => hold _, hold _, fun _ => hold _, ?_,
      fun _ h => absurd h nofun⟩
    rintro _ _ ⟨⟩
    exact ⟨.inr hnew, fun e => wp_mono (confirmReplaced_keeps value e _ _ hnew) (fun _ _ => id)
      (fun _ _ => .inr) (fun _ => .inr), hnew⟩

theorem writeJsonAtomic_run (value : Json) {f : JsonFile T} (h : f.staged = none) :
    (writeJsonAtomic value).run f = .returned () ⟨some (FileText.json value), none⟩ := by
  obtain ⟨file, staged⟩ := f
  obtain rfl : staged = none := h
  rfl

theorem readJson_json (h : (Json.obj fields).IsRecord) :
    readJson (some (FileText.json (.obj fields) : T)) = .ok fields := by
  simp [readJson, FileText.loads_json _ h]

theorem storeMeta_isRecord : (storeMeta sha state).IsRecord := by
  refine ⟨(by decide : ["incident_id", "origin_manifest_sha256", "schema_version",
    "state_id"].Pairwise (· < ·)), ?_⟩
  simp [Json.isAtom]

namespace Pointer

theorem json_isRecord (p : Pointer) : p.json.IsRecord := by
  obtain ⟨generation, directory, receiptSha256⟩ := p
  refine ⟨(by decide : ["directory", "generation", "receipt_sha256"].Pairwise (· < ·)), ?_⟩
  cases receiptSha256 <;> simp [fields, Json.isAtom, Json.opt]

theorem readPointer_fields (p : Pointer) : readPointer p.fields = .ok p := by
  obtain ⟨generation, directory, receiptSha256⟩ := p
  have hread : readOptStr (Json.opt .str receiptSha256) = some receiptSha256 := by
    cases receiptSha256 <;> rfl
  have hpos : ¬ (generation : Int) < 0 := by omega
  simp [readPointer, fields, Json.get?, sameNames, raiseIf, need, readStr, readInt, hread, hpos,
    pure, Except.pure]

/-- A pointer file tells which pointer was written. -/
theorem json_injective {p q : Pointer}
    (h : (FileText.json p.json : T) = FileText.json q.json) : p = q := by
  have hp := FileText.loads_json (T := T) _ p.json_isRecord
  rw [h, FileText.loads_json _ q.json_isRecord] at hp
  have hfields : q.fields = p.fields := Json.obj.inj (Option.some.inj hp)
  have hq := q.readPointer_fields
  rw [hfields, p.readPointer_fields] at hq
  exact Except.ok.inj hq

end Pointer

-- ---------------------------------------------------------------------------
-- Names of generations
-- ---------------------------------------------------------------------------

theorem entryGeneration_zero : entryGeneration (zeroPadded 0) = .ok 0 := by decide

theorem entryGeneration_of_names (hpos : 0 < n) (hn : n < 10 ^ 20)
    (h : namesGeneration n name = true) : entryGeneration name = .ok n := by
  simp [entryGeneration, namesGeneration_ne_initial hn h, namesGeneration_read hn h, need, raiseIf,
    Nat.pos_iff_ne_zero.mp hpos, pure, Except.pure]

theorem Pointer.ofReceipt_safe {receipt : ExecutionReceipt} (hn : 0 < n)
    (h : isSha256 receipt.receiptSha256 = true) : (ofReceipt n receipt).Safe :=
  ⟨fun h0 => absurd h0 (Nat.pos_iff_ne_zero.mp hn),
    fun _ => ⟨namesGeneration_generationName h, nofun⟩⟩

theorem Pointer.Safe.entryGeneration {p : Pointer} (h : p.Safe) (hlt : p.generation < 10 ^ 20) :
    Remediation.entryGeneration p.directory = .ok p.generation := by
  rcases Nat.eq_zero_or_pos p.generation with h0 | hpos
  · rw [(h.1 h0).1, h0]
    exact entryGeneration_zero
  · exact entryGeneration_of_names hpos hlt (h.2 hpos).1

/-- A numbered name is not the name of a prepared directory. -/
theorem not_prepared (h : entryGeneration name = .ok n) :
    ".prepare-".toList.isPrefixOf name.toList = false := by
  by_contra hp
  rw [Bool.not_eq_false, List.isPrefixOf_iff_prefix] at hp
  obtain ⟨rest, hrest⟩ := hp
  have hne : name ≠ initialName := by
    rintro rfl
    have hhead : some '.' = initialName.toList.head? := by rw [← hrest]; rfl
    exact absurd hhead (by decide)
  have hread : readGeneration name = none := by
    rw [readGeneration, ← hrest]
    split
    · rfl
    · rfl
  simp [entryGeneration, hne, hread, need] at h

end

-- ---------------------------------------------------------------------------
-- What changes, and what stays
-- ---------------------------------------------------------------------------

section
variable {T : Type}

theorem lookup_filter_ne {l : List (String × β)} (h : other ≠ name) :
    (l.filter (·.1 ≠ name)).lookup other = l.lookup other := by
  induction l with
  | nil => rfl
  | cons entry rest ih =>
    obtain ⟨key, value⟩ := entry
    by_cases hk : key = name
    · have hne : (other == key) = false := by simpa [hk] using h
      rw [List.filter_cons_of_neg (by simp [hk]), ih, List.lookup_cons, hne]
    · rw [List.filter_cons_of_pos (by simp [hk]), List.lookup_cons, List.lookup_cons, ih]

theorem emptied_fst (e : String × Entry T) : (emptied name e).1 = e.1 := by
  unfold emptied
  split
  · next h => exact h.symm
  · rfl

theorem filter_emptied (name : String) (l : List (String × Entry T)) :
    (l.map (emptied name)).filter (·.1 ≠ name) = l.filter (·.1 ≠ name) := by
  induction l with
  | nil => rfl
  | cons e rest ih =>
    by_cases he : e.1 = name
    · rw [List.map_cons, List.filter_cons_of_neg (by simp [emptied_fst, he]), ih,
        List.filter_cons_of_neg (by simp [he])]
    · rw [List.map_cons, List.filter_cons_of_pos (by simp [emptied_fst, he]), ih,
        List.filter_cons_of_pos (by simp [he]), emptied, if_neg he]

namespace StateStore

@[simp] theorem preparedDir_setPrepared (s : StateStore T) (key : Nat) (g : Generation T) :
    (s.setPrepared key g).preparedDir key = some g := List.lookup_cons_self

/-- Every entry of `generations` is a directory with a name of its own. -/
structure Regular (s : StateStore T) : Prop where
  unique : (s.generations.map Prod.fst).Nodup
  directories : ∀ e ∈ s.generations, e.2.isDirectory = true

/-- The pointer and all generations but one are as before. -/
structure Kept (name : String) (s s' : StateStore T) : Prop where
  storeJson : s'.storeJson = s.storeJson
  pointer : s'.currentJson.file = s.currentJson.file
  others : s'.without name = s.without name
  regular : s'.Regular

theorem Kept.refl (h : s.Regular) : Kept name s (s : StateStore T) := ⟨rfl, rfl, rfl, h⟩

theorem Kept.generation {s s' : StateStore T} (h : Kept name s s') (hne : other ≠ name) :
    s'.generation other = s.generation other := by
  rw [StateStore.generation, StateStore.generation, ← lookup_filter_ne hne,
    show s'.generations.filter (·.1 ≠ name) = s.generations.filter (·.1 ≠ name) from h.others,
    lookup_filter_ne hne]

theorem mem_without {s : StateStore T} : e ∈ s.without name ↔ e ∈ s.generations ∧ e.1 ≠ name := by
  simp [without]

theorem without_without (s : StateStore T) :
    (s.without name).filter (·.1 ≠ name) = s.without name := by
  simp [without, List.filter_filter]

theorem without_of_not_found {s : StateStore T} (h : s.generations.lookup name = none) :
    s.without name = s.generations := by
  rw [List.lookup_eq_none_iff] at h
  refine List.filter_eq_self.mpr fun e he => ?_
  have hne := h e he
  simp only [bne_iff_ne, ne_eq] at hne
  simpa using fun h : e.1 = name => hne h.symm

theorem Regular.without {s : StateStore T} (h : s.Regular) (name : String) :
    (((s.without name).map Prod.fst).Nodup) ∧ ∀ e ∈ s.without name, e.2.isDirectory = true :=
  ⟨h.unique.sublist (List.filter_sublist.map _), fun e he => h.directories e (mem_without.mp he).1⟩

/-- The destination is not there. -/
structure Cleared (name : String) (s s' : StateStore T) : Prop where
  storeJson : s'.storeJson = s.storeJson
  currentJson : s'.currentJson = s.currentJson
  generations : s'.generations = s.without name

theorem Cleared.kept {s s' : StateStore T} (h : Cleared name s s') (hs : s.Regular) :
    Kept name s s' where
  storeJson := h.storeJson
  pointer := by rw [h.currentJson]
  others := by rw [StateStore.without, h.generations, s.without_without]
  regular := ⟨by rw [h.generations]; exact (hs.without name).1,
    by rw [h.generations]; exact (hs.without name).2⟩

/-- The generations with a new one in the place of the destination. -/
def placed (s : StateStore T) (name : String) (g : Generation T) : List (String × Entry T) :=
  s.without name ++ [(name, .directory g)]

theorem placed_without (s : StateStore T) (g : Generation T) :
    (s.placed name g).filter (·.1 ≠ name) = s.without name := by
  rw [placed, List.filter_append, s.without_without]
  simp

theorem mem_placed {s : StateStore T} :
    e ∈ s.placed name g ↔ e = (name, .directory g) ∨ e ∈ s.generations ∧ e.1 ≠ name := by
  rw [placed, List.mem_append, List.mem_singleton, mem_without, or_comm]

theorem placed_regular {s s' : StateStore T} (hs : s.Regular)
    (h : s'.generations = s.placed name g) : s'.Regular where
  unique := by
    rw [h, placed, List.map_append, List.nodup_append]
    refine ⟨(hs.without name).1, by simp, ?_⟩
    rintro a ha b hb rfl
    obtain ⟨e, he, rfl⟩ := List.mem_map.mp ha
    simp only [List.map_cons, List.map_nil, List.mem_singleton] at hb
    exact (mem_without.mp he).2 hb
  directories e he := by
    rw [h] at he
    rcases mem_placed.mp he with rfl | ⟨he, -⟩
    · rfl
    · exact hs.directories e he

variable [RemediationText T] [Hashing]

/-- The generation of a transaction. -/
def transaction (after : ControlState) (receipt : ExecutionReceipt) : Generation T :=
  ⟨some (controlStateDirectory after), some (executionDirectory receipt)⟩

/-- The transaction is in its place, and the pointer names it. -/
structure Committed (next : Pointer) (after : ControlState) (receipt : ExecutionReceipt)
    (s s' : StateStore T) : Prop where
  storeJson : s'.storeJson = s.storeJson
  written : s.currentJson.Written next.json s'.currentJson
  generations : s'.generations = s.placed next.directory (transaction after receipt)
  state : Storable after
  receipt : StorableReceipt receipt

/-- Where a call may stop. -/
def Stopped (next : Pointer) (after : ControlState) (receipt : ExecutionReceipt)
    (s s' : StateStore T) : Prop :=
  Kept next.directory s s' ∨ Committed next after receipt s s'

end StateStore

end

-- ---------------------------------------------------------------------------
-- Publishing a transaction
-- ---------------------------------------------------------------------------

section
variable {T : Type} [RemediationText T] [Hashing]

open StateStore

theorem stageAndCommit_wp {before : BeforeState} {s s₁ : StateStore T} (hs : s.Regular)
    (h : Cleared next.directory s s₁) :
    (stageAndCommit key plan before after receipt next).wp
      (fun _ => Committed next after receipt s) (fun _ => Stopped next after receipt s)
      (Stopped next after receipt s) s₁ := by
  have stop : ∀ prepared, Stopped next after receipt s { s₁ with prepared } := fun prepared =>
    .inl (Cleared.kept ⟨h.storeJson, h.currentJson, h.generations⟩ hs)
  simp only [stageAndCommit, wp_bind, wp_op, wp_read, wp_ofExcept, wp_touch, wp_within]
  -- the two exports
  refine ⟨stop _, fun _ => stop _, ?_, fun _ _ => stop _⟩
  intro _ s₂ h₂
  obtain ⟨d, hd, hs₂⟩ := bind_eq_ok.mp h₂
  obtain ⟨-, rfl⟩ := Prod.mk.inj (pure_eq_ok.mp hs₂)
  refine ⟨stop _, fun _ => stop _, ?_, fun _ _ => stop _⟩
  intro _ s₃ h₃
  obtain ⟨r, hr, hs₃⟩ := bind_eq_ok.mp h₃
  obtain ⟨-, rfl⟩ := Prod.mk.inj (pure_eq_ok.mp hs₃)
  obtain ⟨hafter, rfl⟩ := exportControlState_ok.mp hd
  obtain ⟨hreceipt, rfl⟩ := exportExecution_ok.mp hr
  -- the checks
  refine ⟨stop _, fun _ => stop _, fun issues _ => ⟨fun _ _ => ⟨fun _ _ => ?_, fun _ _ => stop _⟩,
    fun _ _ => stop _⟩⟩
  -- the rename
  refine ⟨stop _, fun _ => stop _, ?_, fun _ _ => stop _⟩
  intro _ s₄ h₄
  simp only [replaceGeneration, bind_eq_ok, need_ok, raiseIf_ok, pure_eq_ok, Prod.mk.injEq,
    exists_const, true_and] at h₄
  obtain ⟨g, hg, -, rfl⟩ := h₄
  obtain rfl : transaction after receipt = g := by
    simpa [transaction, Option.some.injEq] using hg
  have hplaced : s₁.generations ++ [(next.directory, .directory (transaction after receipt))] =
      s.placed next.directory (transaction after receipt) := by rw [h.generations]; rfl
  have kept : ∀ (f : JsonFile T) prepared, f.file = s.currentJson.file →
      Stopped next after receipt s
        { storeJson := s₁.storeJson
          currentJson := f
          generations := s₁.generations ++
            [(next.directory, .directory (transaction after receipt))]
          prepared } := fun f prepared hf =>
    .inl ⟨h.storeJson, hf, by rw [StateStore.without, hplaced, placed_without],
      placed_regular hs hplaced⟩
  have written : ∀ (f : JsonFile T) prepared, s.currentJson.Written next.json f →
      Committed next after receipt s
        { storeJson := s₁.storeJson
          currentJson := f
          generations := s₁.generations ++
            [(next.directory, .directory (transaction after receipt))]
          prepared } := fun f prepared hf =>
    ⟨h.storeJson, hf, hplaced, hafter, hreceipt⟩
  have hfile : s₁.currentJson.file = s.currentJson.file := by rw [h.currentJson]
  refine ⟨kept _ _ hfile, fun _ => kept _ _ hfile, ?_⟩
  have stopped : ∀ (f : JsonFile T) prepared, s₁.currentJson.Stopped next.json f →
      Stopped next after receipt s
        { storeJson := s₁.storeJson
          currentJson := f
          generations := s₁.generations ++
            [(next.directory, .directory (transaction after receipt))]
          prepared } := by
    rintro f prepared (hf | hf)
    · exact kept f prepared (hf.trans hfile)
    · exact .inr (written f prepared (h.currentJson ▸ hf))
  exact wp_mono (writeJsonAtomic_wp next.json s₁.currentJson)
    (fun _ f hf => written f _ (h.currentJson ▸ hf)) (fun _ f hf => stopped f _ hf)
    (fun f hf => stopped f _ hf)

theorem removeGeneration_wp {s : StateStore T} (hs : s.Regular) (name : String) :
    (removeGeneration name).wp (fun _ => Cleared name s) (fun _ => Kept name s) (Kept name s) s := by
  have hothers := filter_emptied name s.generations
  have hemptied : Kept name s { s with generations := s.generations.map (emptied name) } := by
    refine ⟨rfl, rfl, hothers, ?_, ?_⟩
    · rw [List.map_map, show (Prod.fst ∘ emptied name : String × Entry T → String) = Prod.fst from
        funext emptied_fst]
      exact hs.unique
    · intro e he
      obtain ⟨e', he', rfl⟩ := List.mem_map.mp he
      unfold emptied
      split
      · rfl
      · exact hs.directories e' he'
  simp only [removeGeneration, wp_bind, wp_modify]
  exact ⟨.refl hs, fun _ => .refl hs, hemptied, fun _ => hemptied, rfl, rfl, hothers⟩

theorem clearDestination_wp {s : StateStore T} (hs : s.Regular) (pointer next : Pointer) :
    (clearDestination pointer next).wp (fun _ => Cleared next.directory s)
      (fun _ => Kept next.directory s) (Kept next.directory s) s := by
  simp only [clearDestination, wp_bind, wp_read]
  refine ⟨.refl hs, fun _ => .refl hs, ?_⟩
  rintro found ⟨⟩
  cases hfound : s.generations.lookup next.directory with
  | none =>
    exact ⟨rfl, rfl, (without_of_not_found hfound).symm⟩
  | some entry =>
    dsimp only
    split
    · exact removeGeneration_wp hs next.directory
    · exact .refl hs

theorem publishTransaction_wp {before : BeforeState} {s : StateStore T} (hs : s.Regular)
    (hgen : before.loaded.state.generation = before.pointer.generation)
    (hnext : Pointer.ofReceipt (before.pointer.generation + 1) receipt = next) :
    (publishTransaction plan before after receipt).wp
      (fun r s' => r = (next.directory, receipt) ∧ Committed next after receipt s s')
      (fun _ => Stopped next after receipt s) (Stopped next after receipt s) s := by
  have hdiscard : ∀ {s'} key, Stopped next after receipt s s' →
      Stopped next after receipt s (s'.discard key) := by
    rintro s' key (hk | hc)
    · exact .inl ⟨hk.storeJson, hk.pointer, hk.others, hk.regular.unique, hk.regular.directories⟩
    · exact .inr ⟨hc.storeJson, hc.written, hc.generations, hc.state, hc.receipt⟩
  simp only [publishTransaction, wp_bind, hgen, hnext]
  refine wp_mono (clearDestination_wp hs before.pointer next) (fun _ s₁ h₁ => ?_) (fun _ _ => .inl) (fun _ => .inl)
  have stop₁ : Stopped next after receipt s s₁ := .inl (h₁.kept hs)
  simp only [wp_op]
  refine ⟨stop₁, fun _ => stop₁, ?_, fun _ h => absurd h nofun⟩
  rintro key s₂ ⟨⟩
  rw [wp_handle]
  refine wp_mono (stageAndCommit_wp hs ⟨h₁.storeJson, h₁.currentJson, h₁.generations⟩)
    (fun _ s₃ h₃ => ⟨rfl, h₃⟩) (fun e s₃ h₃ => ?_) (fun _ => id)
  simp only [wp_bind, wp_modify, wp_raise]
  exact ⟨h₃, fun _ => h₃, hdiscard _ h₃⟩

-- ---------------------------------------------------------------------------
-- A call
-- ---------------------------------------------------------------------------

/-- What is allowed at every step of the program inside is allowed while the
lock is taken and given back. -/
theorem withStateLock_wp {p : Prog Error (World T) α} {w : World T}
    {Q : α → StateStore T → Prop} {S : StateStore T → Prop} (hw : S w.store)
    (hQ : ∀ a s, Q a s → S s)
    (h : p.wp (fun a w' => Q a w'.store) (fun _ w' => S w'.store) (fun w' => S w'.store)
      { w with stateLock := true }) :
    (withStateLock p).wp (fun a w' => Q a w'.store) (fun _ w' => S w'.store)
      (fun w' => S w'.store) w := by
  simp only [withStateLock, wp_bind, wp_await, wp_ensuring, wp_modify]
  exact ⟨hw, fun _ => hw, fun _ => wp_mono h
    (fun a w' hq => ⟨hQ a _ hq, fun _ => hQ a _ hq, hq⟩) (fun _ _ hs => ⟨hs, fun _ => hs, hs⟩)
    (fun _ hs => hs)⟩

theorem withApprovalLock_read_wp {f : World T → Except Error α} {w : World T}
    {Q : α → World T → Prop} {S : StateStore T → Prop} (hw : S w.store)
    (h : ∀ a, f { w with approvalLock := true } = .ok a → Q a { w with approvalLock := false }) :
    (withApprovalLock (Prog.read f)).wp Q (fun _ w' => S w'.store) (fun w' => S w'.store) w := by
  simp only [withApprovalLock, wp_bind, wp_await, wp_ensuring, wp_modify, wp_read]
  exact ⟨hw, fun _ => hw, fun _ => ⟨hw, fun _ => ⟨hw, fun _ => hw, hw⟩,
    fun a ha => ⟨hw, fun _ => hw, h a ha⟩⟩⟩

variable [TokenFormat]

/-- What a call computes before it writes anything. -/
structure Authorized (call : ExecuteCall) (w : World T) (before : BeforeState)
    (after : ControlState) (receipt : ExecutionReceipt) : Prop where
  current : w.store.before call.plan = .ok before
  executed : authorized call before w.ledger = .ok (after, receipt)

/-- The pointer a call writes. -/
def nextPointer (before : BeforeState) (receipt : ExecutionReceipt) : Pointer :=
  .ofReceipt (before.pointer.generation + 1) receipt

/-- What a call may leave. -/
def ExecuteCall.Leaves (call : ExecuteCall) (w : World T) (s' : StateStore T) : Prop :=
  s' = w.store ∨ ∃ before after receipt, Authorized call w before after receipt ∧
    Stopped (nextPointer before receipt) after receipt w.store s'

def ExecuteCall.Returns (call : ExecuteCall) (w : World T) (r : String × ExecutionReceipt)
    (s' : StateStore T) : Prop :=
  ∃ before after, Authorized call w before after r.2 ∧ r.1 = (nextPointer before r.2).directory ∧
    Committed (nextPointer before r.2) after r.2 w.store s'

/-- What `before` returns, it has loaded and compared. -/
theorem before_loads {s : StateStore T} {b : BeforeState} (h : s.before plan = .ok b) :
    loadControlState (s.stateDir b.pointer.directory) = .ok b.loaded ∧
      manifestSha256 (s.stateDir b.pointer.directory) = .ok b.manifestSha256 ∧
      b.loaded.state.generation = b.pointer.generation := by
  simp only [StateStore.before, bind_eq_ok, raiseIf_ok, pure_eq_ok, exists_and_left, exists_const,
    ne_eq, Decidable.not_not] at h
  obtain ⟨_, -, _, hload, _, hmanifest, _, -, -, -, -, hgen, rfl⟩ := h
  exact ⟨hload, hmanifest, hgen⟩

theorem execute_wp (call : ExecuteCall) {w : World T} (hs : w.store.Regular) :
    (execute call).wp (fun r w' => call.Returns w r w'.store)
      (fun _ w' => call.Leaves w w'.store) (fun w' => call.Leaves w w'.store) w := by
  have hstart : call.Leaves w w.store := .inl rfl
  simp only [execute, ensureRegularRoot, wp_bind, wp_touch]
  refine ⟨hstart, fun _ => hstart, withStateLock_wp (Q := fun r => call.Returns w r) hstart ?_ ?_⟩
  · rintro r s ⟨before, after, hauth, -, hc⟩
    exact .inr ⟨before, after, r.2, hauth, .inr hc⟩
  · simp only [wp_bind, wp_read]
    refine ⟨hstart, fun _ => hstart, fun before hbefore => ?_⟩
    refine withApprovalLock_read_wp hstart ?_
    rintro ⟨after, receipt⟩ hok
    have hauth : Authorized call w before after receipt := ⟨hbefore, hok⟩
    rw [wp_within]
    refine wp_mono (publishTransaction_wp hs (before_loads hbefore).2.2 rfl) ?_ ?_ ?_
    · rintro _ s ⟨rfl, hc⟩
      exact ⟨before, after, hauth, rfl, hc⟩
    · exact fun _ _ hstop => .inr ⟨before, after, receipt, hauth, hstop⟩
    · exact fun _ hstop => .inr ⟨before, after, receipt, hauth, hstop⟩

end

end Paic.Remediation
