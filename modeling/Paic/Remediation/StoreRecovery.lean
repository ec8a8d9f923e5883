import Paic.Lib.Entries
import Paic.Remediation.SampleStore

/-!
# What a store recovers from

A call may stop at any step. The state it leaves is the one before the call or
the one after it, but what it leaves beside that state is not always harmless:
the `.tmp` file of the pointer blocks every later call, and a generation that
no pointer names has the number of the next one. `execute_recovers` says which
later calls succeed.
-/

namespace Paic.Remediation

open Checks
open Prog (exec_wp wp_bind wp_read wp_mono run_bind_returned run_touch run_read run_handle)
open StateStore

-- ---------------------------------------------------------------------------
-- The numbers of the generations
-- ---------------------------------------------------------------------------

/-- The number of an entry that has one. -/
def entryNumber (e : String × Entry T) : Nat :=
  match entryGeneration e.1 with
  | .ok n => n
  | .error _ => 0

theorem entryNumber_of_ok {e : String × Entry T} (h : entryGeneration e.1 = .ok n) :
    entryNumber e = n := by rw [entryNumber, h]

theorem addRoot_numbered {e : String × Entry T} (hn : entryGeneration e.1 = .ok n)
    (hd : e.2.isDirectory = true) :
    addRoot roots e = .ok roots' ↔ n ∉ roots.map Prod.fst ∧ roots' = roots ++ [(n, e.1)] := by
  rw [addRoot, not_prepared hn, hn, hd]
  simp only [Bool.false_eq_true, ↓reduceIte, bind_eq_ok, raiseIf_ok, pure_eq_ok, Except.ok.injEq,
    exists_and_left, exists_eq_left', exists_const, reduceCtorEq, not_false_eq_true, true_and]
  exact and_congr Iff.rfl eq_comm

/-- The loop ends when no number comes twice. -/
theorem addRoot_loop {entries : List (String × Entry T)}
    (hn : ∀ e ∈ entries, ∃ n, entryGeneration e.1 = .ok n)
    (hd : ∀ e ∈ entries, e.2.isDirectory = true) (hroots : (roots.map Prod.fst).Nodup) :
    loop addRoot roots entries = .ok roots' ↔
      (roots.map Prod.fst ++ entries.map entryNumber).Nodup ∧
        roots' = roots ++ entries.map fun e => (entryNumber e, e.1) := by
  refine Entries.loop_numbers (fun e he roots roots' => ?_) hroots
  obtain ⟨n, hen⟩ := hn e he
  rw [addRoot_numbered hen (hd e he), entryNumber_of_ok hen]

section
variable {T : Type} [RemediationText T] [Hashing]

namespace StateStore.Inv

theorem numbered {s : StateStore T} (h : s.Inv p state) :
    ∀ e ∈ s.generations, ∃ n, Remediation.entryGeneration e.1 = .ok n := fun e he =>
  (h.numbers e he).imp fun _ hn => hn.2

/-- `validate` finds nothing exactly when no two generations have one
number. -/
theorem check_ok {s : StateStore T} (h : s.Inv p state) :
    s.check = .ok () ↔ (s.generations.map entryNumber).Nodup := by
  have hroots : ∀ roots', loop addRoot [] s.generations = .ok roots' ↔
      (s.generations.map entryNumber).Nodup ∧
        roots' = s.generations.map fun e => (entryNumber e, e.1) := by
    intro roots'
    simpa using (addRoot_loop h.numbered h.regular.directories List.nodup_nil :
      loop addRoot [] s.generations = .ok roots' ↔ _)
  constructor
  · intro hcheck
    simp only [StateStore.check, bind_eq_ok] at hcheck
    obtain ⟨_, -, roots, hloop, -⟩ := hcheck
    exact ((hroots roots).mp hloop).1
  · intro hnodup
    obtain ⟨m, hload⟩ := h.loads
    set roots := s.generations.map fun e => (entryNumber e, e.1) with hr
    have hloop : s.generationRoots = .ok roots := (hroots roots).mpr ⟨hnodup, rfl⟩
    -- the pointer's generation is there, and alone has its number
    have hgen : s.generation p.directory ≠ none := by
      intro hnone
      rw [stateDir, hnone] at hload
      exact absurd hload (by rintro ⟨⟩)
    obtain ⟨entry, hentry⟩ : ∃ entry, (p.directory, entry) ∈ s.generations := by
      cases hl : s.generations.lookup p.directory with
      | none => exact absurd (by simp [StateStore.generation, hl]) hgen
      | some entry =>
        obtain ⟨l, r, hsplit, -⟩ := List.lookup_eq_some_iff.mp hl
        exact ⟨entry, by rw [hsplit]; simp⟩
    have hpnumber : entryNumber (p.directory, entry) = p.generation :=
      entryNumber_of_ok h.entryGeneration
    have hkeys : (roots.map Prod.fst).Nodup := by simpa [hr, Function.comp_def] using hnodup
    have hmem : (p.generation, p.directory) ∈ roots :=
      List.mem_map.mpr ⟨_, hentry, by rw [hpnumber]⟩
    have hlookup : (roots.filter (·.1 ≤ p.generation)).lookup p.generation = some p.directory :=
      lookup_of_mem (hkeys.sublist (List.filter_sublist.map _))
        (List.mem_filter.mpr ⟨hmem, by simp⟩)
    have hrange : ∀ n, n ∈ (roots.filter (·.1 ≤ p.generation)).map Prod.fst ↔
        n ∈ List.range (p.generation + 1) := by
      intro n
      rw [List.mem_range, Nat.lt_succ_iff]
      constructor
      · rintro hn
        obtain ⟨r, hr, rfl⟩ := List.mem_map.mp hn
        simpa using (List.mem_filter.mp hr).2
      · intro hn
        obtain ⟨e, he, hen⟩ := h.lineage n hn
        refine List.mem_map.mpr ⟨(n, e.1), List.mem_filter.mpr ⟨?_, by simpa using hn⟩, rfl⟩
        exact List.mem_map.mpr ⟨e, he, by rw [entryNumber_of_ok hen]⟩
    have hreceipt : checkReceipt s p ⟨m, state⟩ = .ok () := by
      cases hp : p.receiptSha256 with
      | none => rw [checkReceipt, hp]
      | some sha =>
        obtain ⟨e, he, hsha, hpayload⟩ := h.receiptLoads sha hp
        simp [checkReceipt, hp, he, hsha, hpayload, raiseIf]
    have hcontiguous : ¬ ((roots.filter (·.1 ≤ p.generation)).lookup p.generation ≠
          some p.directory ∨
        ¬ ((roots.filter (·.1 ≤ p.generation)).map Prod.fst ⊆ List.range (p.generation + 1) ∧
          List.range (p.generation + 1) ⊆ (roots.filter (·.1 ≤ p.generation)).map Prod.fst)) := by
      rw [not_or, not_not, not_not]
      exact ⟨hlookup, fun n hn => (hrange n).mp hn, fun n hn => (hrange n).mpr hn⟩
    simp only [StateStore.check, h.current, hloop, ok_bind, raiseIf_neg hcontiguous, hload,
      raiseIf_neg (not_not.mpr h.generation), hreceipt]

end StateStore.Inv

theorem validate_returns {w : World T} (hw : w.stateLock = false) :
    (∃ w', validate.run w = .returned [] w') ↔ w.store.check = .ok () := by
  let locked : World T := { w with stateLock := true }
  have hread := run_read (fun w : World T => w.store.check) locked
  have hlocked : w.store.check = locked.store.check := rfl
  constructor
  · rintro ⟨w', hrun⟩
    rw [hlocked]
    cases hcheck : locked.store.check with
    | ok => rfl
    | error e =>
      rw [hcheck] at hread
      have hlock : (withStateLock (Prog.read fun w : World T => w.store.check)).run w =
          .raised e w := by
        rw [withStateLock, run_bind_returned (by rw [Prog.run_await, if_pos (by simp [hw])]),
          Prog.run_ensuring, hread]
        show Prog.Outcome.raised e { w with stateLock := false } = _
        rw [← hw]
      have hbody : ((do
          ensureRegularRoot
          withStateLock (Prog.read fun w : World T => w.store.check)
          pure []) : Prog Error (World T) (List String)).run w = .raised e w := by
        rw [ensureRegularRoot, run_bind_returned (run_touch w), Prog.run_bind, hlock]
        rfl
      rw [validate, run_handle, hbody] at hrun
      cases e <;> exact absurd hrun (by rintro ⟨⟩)
  · intro hcheck
    rw [hlocked] at hcheck
    rw [hcheck] at hread
    refine ⟨{ locked with stateLock := false }, ?_⟩
    rw [validate, run_handle, ensureRegularRoot, run_bind_returned (run_touch w),
      run_bind_returned (withStateLock_run hw hread)]
    rfl

theorem validate_unlocked {w : World T} (h : validate.run w = .returned issues w') :
    w.stateLock = false := by
  by_contra hlock
  have hawait : (withStateLock (Prog.read fun w : World T => w.store.check)).run w = .blocked w := by
    rw [withStateLock, Prog.run_bind, Prog.run_await, if_neg (by simpa using hlock)]
    rfl
  rw [validate, run_handle, ensureRegularRoot, run_bind_returned (run_touch w), Prog.run_bind,
    hawait] at h
  exact absurd h (by rintro ⟨⟩)

-- ---------------------------------------------------------------------------
-- Runs
-- ---------------------------------------------------------------------------

variable [TokenFormat]

/-- The calls made on a store, each with the decisions it found. Each may have
stopped at any of its steps. -/
inductive Runs (w₀ : World T) : World T → Prop where
  | start : Runs w₀ w₀
  | call (h : Runs w₀ w) (hr : ((execute call).exec faults (w.later ledger)).Ends w') : Runs w₀ w'

theorem Runs.inv {w₀ w : World T} (h : Runs w₀ w) (h₀ : Initialized w₀ s₀)
    (hgen : s₀.generation = 0) : ∃ p state, w.store.Inv p state := by
  induction h with
  | start => exact ⟨_, _, h₀.inv hgen⟩
  | @call w call faults ledger w' _ hr ih =>
    obtain ⟨p, state, hinv⟩ := ih
    have hinv' : (w.later ledger).store.Inv p state := hinv
    have hleaves : call.Leaves (w.later ledger) w'.store := by
      refine (execute_exec call hinv'.regular faults).ends hr ?_ (fun _ hl => hl) fun hl => hl
      rintro r ⟨before, after, hauth, -, hc⟩
      exact .inr ⟨before, after, r.2, hauth, .inr hc⟩
    rcases hinv'.leaves hleaves with hsame | ⟨after, receipt, -, hnext⟩
    · exact ⟨p, state, hsame⟩
    · exact ⟨_, after, hnext⟩

/-- The current generation is the one before the call, as it was, or the new
one with everything the call computed. -/
def ExecuteCall.BeforeOrAfter (call : ExecuteCall) (w w' : World T) : Prop :=
  (∃ p, w.store.current = .ok p ∧ w'.store.current = .ok p ∧
    w'.store.generation p.directory = w.store.generation p.directory) ∨
  ∃ before after receipt, Authorized call w before after receipt ∧
    w'.store.current = .ok (nextPointer before receipt) ∧
    w'.store.generation (nextPointer before receipt).directory = some (transaction after receipt)

theorem execute_before_or_after {call : ExecuteCall} {w w' : World T} (h : w.store.Inv p state)
    (hr : ((execute call).exec faults w).Ends w') : call.BeforeOrAfter w w' := by
  have committed : ∀ {before after receipt}, Authorized call w before after receipt →
      Committed (nextPointer before receipt) after receipt w.store w'.store →
      call.BeforeOrAfter w w' := by
    intro before after receipt hauth hc
    have hregular := placed_regular h.regular hc.generations
    obtain ⟨hnext, hadv, hpayload, -⟩ := h.authorized hauth
    refine .inr ⟨before, after, receipt, hauth, ?_, ?_⟩
    · rw [hnext] at hc ⊢
      exact (h.committed hadv hpayload hc).current
    · rw [StateStore.generation, lookup_of_mem hregular.unique
        (by rw [hc.generations]; exact mem_placed.mpr (.inl rfl))]
  have left : call.Leaves w w'.store → call.BeforeOrAfter w w' := by
    rintro (hsame | ⟨before, after, receipt, hauth, hk | hc⟩)
    · exact .inl ⟨p, h.current, by rw [hsame]; exact h.current, by rw [hsame]⟩
    · obtain ⟨hnext, -, -, hvalid⟩ := h.authorized hauth
      rw [hnext] at hk
      have hname := h.next_entryGeneration hvalid.receiptSha256
      exact .inl ⟨p, h.current, (h.kept hk hname).current, hk.generation (h.ne_directory hname)⟩
    · exact committed hauth hc
  refine (execute_exec call h.regular faults).ends hr ?_ (fun _ hl => left hl) left
  rintro r ⟨before, after, hauth, -, hc⟩
  exact committed hauth hc

/-- Nothing that earlier calls left is in the way of a call that writes the
pointer `next`. -/
structure StateStore.Unobstructed (s : StateStore T) (next : Pointer) : Prop where
  staged : s.currentJson.staged = none
  fresh : ∀ e ∈ s.without next.directory, entryNumber e ≠ next.generation
  distinct : ((s.without next.directory).map entryNumber).Nodup

/-- The lists of the new state and the id of the receipt fit the artifacts. -/
structure ExecuteCall.Fits (call : ExecuteCall) (state : ControlState) : Prop where
  executed : state.executedPlanHashes.length < 10000
  consumed : state.consumedTokenNonceHashes.length < 10000
  executionId : call.request.executionId.length ≤ 200

/-- The call returns, and `validate` then finds nothing. -/
def ExecuteCall.Succeeds (call : ExecuteCall) (w : World T) : Prop :=
  ∃ r w', (execute call).run w = .returned r w' ∧ ∃ w'', validate.run w' = .returned [] w''

theorem committed_check {s s' : StateStore T} (h : s'.Inv next after)
    (hname : entryGeneration next.directory = .ok next.generation)
    (hc : Committed next after receipt s s') :
    s'.check = .ok () ↔ (∀ e ∈ s.without next.directory, entryNumber e ≠ next.generation) ∧
      ((s.without next.directory).map entryNumber).Nodup := by
  have hnumber : entryNumber (next.directory, .directory (transaction (T := T) after receipt)) =
      next.generation := entryNumber_of_ok hname
  rw [h.check_ok, hc.generations, placed, List.map_append, List.map_cons, List.map_nil, hnumber,
    List.nodup_append]
  constructor
  · rintro ⟨hnodup, -, hne⟩
    exact ⟨fun e he => hne _ (List.mem_map.mpr ⟨e, he, rfl⟩) _ (List.mem_singleton_self _), hnodup⟩
  · rintro ⟨hne, hnodup⟩
    refine ⟨hnodup, List.nodup_singleton _, ?_⟩
    rintro a ha b hb
    obtain ⟨e, he, rfl⟩ := List.mem_map.mp ha
    rw [List.mem_singleton.mp hb]
    exact hne e he

/-- The calls that succeed on a store between two calls. -/
theorem succeeds_iff {call : ExecuteCall} {w : World T} {before : BeforeState}
    (h : w.store.Inv p state) (hlocks : w.stateLock = false ∧ w.approvalLock = false)
    (ha : Authorized call w before after receipt) :
    call.Succeeds w ↔
      w.store.Unobstructed (nextPointer before receipt) ∧ call.Fits before.loaded.state := by
  obtain ⟨hp, hstate, -⟩ := h.before_ok ha.current
  obtain ⟨hnext, hadv, hpayload, hvalid⟩ := h.authorized ha
  obtain ⟨status, -, hexec⟩ := bind_eq_ok.mp ha.executed
  have hname := h.next_entryGeneration hvalid.receiptSha256
  have checks : ∀ {s' : StateStore T}, Committed (nextPointer before receipt) after receipt
      w.store s' → (s'.check = .ok () ↔
        (∀ e ∈ w.store.without (nextPointer before receipt).directory,
          entryNumber e ≠ (nextPointer before receipt).generation) ∧
        ((w.store.without (nextPointer before receipt).directory).map entryNumber).Nodup) := by
    intro s' hc
    rw [hnext] at hc ⊢
    exact committed_check (h.committed hadv hpayload hc) hname hc
  constructor
  · rintro ⟨r, w', hrun, w'', hvalidate⟩
    have hmeets := execute_exec call h.regular []
    rw [show (execute call).exec [] w = .returned r w' from hrun] at hmeets
    obtain ⟨before', after', ha', -, hc⟩ := hmeets
    obtain rfl := Except.ok.inj (ha.current.symm.trans ha'.current)
    obtain ⟨rfl, rfl⟩ := Prod.mk.inj (Except.ok.inj (ha.executed.symm.trans ha'.executed))
    have hlock : w'.stateLock = false := validate_unlocked hvalidate
    obtain ⟨hfresh, hdistinct⟩ := (checks hc).mp ((validate_returns hlock).mp ⟨w'', hvalidate⟩)
    refine ⟨⟨hc.written.1, hfresh, hdistinct⟩, ?_, ?_, ?_⟩
    · have := hc.state.valid.executedCount
      rw [hadv.executed, (sorted_snoc hadv.freshPlan h.valid.uniqueExecuted).2.1, ← hstate] at this
      exact this
    · have := hc.state.valid.consumedCount
      rw [hadv.consumed, (sorted_snoc hadv.freshNonce h.valid.uniqueConsumed).2.1, ← hstate] at this
      exact this
    · rw [← (executePlan_receipt hexec).2.2.1]
      exact hc.receipt.executionId
  · rintro ⟨hfree, hfits⟩
    obtain ⟨m, hload⟩ := h.loads
    obtain ⟨hafter, hreceipt⟩ := executePlan_storable
      (loadControlState_storable (before_loads ha.current).1) hexec hfits.executed hfits.consumed
      hfits.executionId
    obtain ⟨w', hrun, hc, hlock, -⟩ := execute_run h hlocks ha hfree.staged hafter hreceipt
    exact ⟨_, w', hrun, (validate_returns hlock).mpr
      ((checks hc).mpr ⟨hfree.fresh, hfree.distinct⟩)⟩

/-- Wherever earlier calls stopped, the state is whole; and a call that is
authorized succeeds exactly when nothing they left is in its way. -/
theorem execute_recovers {w₀ w : World T} (h₀ : Initialized w₀ s₀) (hgen : s₀.generation = 0)
    (h : Runs w₀ w) :
    (∀ call faults ledger w', ((execute call).exec faults (w.later ledger)).Ends w' →
      call.BeforeOrAfter (w.later ledger) w') ∧
    ∀ call ledger before after receipt,
      Authorized call (w.later ledger) before after receipt →
      (call.Succeeds (w.later ledger) ↔
        w.store.Unobstructed (nextPointer before receipt) ∧ call.Fits before.loaded.state) := by
  obtain ⟨p, state, hinv⟩ := h.inv h₀ hgen
  have hinv' : ∀ ledger, (w.later ledger).store.Inv p state := fun _ => hinv
  constructor
  · intro call faults ledger w' hr
    exact execute_before_or_after (hinv' ledger) hr
  · intro call ledger before after receipt ha
    exact succeeds_iff (hinv' ledger) ⟨rfl, rfl⟩ ha

end

section
local instance recoveryTokens : TokenFormat := Sample.storeTokens

/-- The sample's call on the sample's store, where nothing has happened yet. -/
theorem execute_recovers_sample : ∃ (w₀ : World Sample.Text) (before : BeforeState)
    (receipt : ExecutionReceipt),
    (w₀.store.Unobstructed (nextPointer before receipt) ∧ Sample.call.Fits before.loaded.state) ∧
      Sample.call.Succeeds (w₀.later Sample.ledger) := by
  obtain ⟨w₀, h₀, hdir, hstaged⟩ := Sample.initialized
  have hinv : (w₀.later Sample.ledger).store.Inv .initial Sample.state := h₀.inv rfl
  obtain ⟨before, after, receipt, hauth, hafter, hreceipt⟩ :=
    Sample.call_authorized hinv hdir rfl
  have hiff := (execute_recovers h₀ rfl .start).2 _ _ _ _ _ hauth
  obtain ⟨initial, m, w', hload, hempty, hrun⟩ := h₀
  obtain ⟨sha, hnew⟩ := initializeFrom_new hload hempty hrun
  obtain ⟨-, hadv, -⟩ := hinv.authorized hauth
  obtain ⟨-, hstate, -⟩ := hinv.before_ok hauth.current
  have hnumber : ∀ e ∈ w₀.store.generations, entryNumber e = 0 := by
    rw [hnew.generations]
    intro e he
    rw [List.mem_singleton.mp he]
    exact entryNumber_of_ok entryGeneration_zero
  have hfree : w₀.store.Unobstructed (nextPointer before receipt) := by
    refine ⟨hstaged, ?_, ?_⟩
    · intro e he
      rw [hnumber e (mem_without.mp he).1]
      exact (Nat.succ_ne_zero _).symm
    · refine List.Nodup.sublist (List.filter_sublist.map _) ?_
      rw [hnew.generations]
      exact List.nodup_singleton _
  have hfits : Sample.call.Fits before.loaded.state := by
    rw [hstate]
    refine ⟨?_, ?_, by decide⟩ <;> (simp only [Sample.state, List.length_nil]; omega)
  exact ⟨w₀, before, receipt, ⟨hfree, hfits⟩, hiff.mpr ⟨hfree, hfits⟩⟩

/-- A call crashes between writing the new pointer next to the old one and
replacing it. The call is as valid as before, and never returns again. -/
theorem crashed_store_blocks : ∃ w₀ w : World Sample.Text, Initialized w₀ Sample.state ∧ Runs w₀ w ∧
    (∃ before after receipt, Authorized Sample.call (w.later Sample.ledger) before after receipt) ∧
    ∀ faults r w', (execute Sample.call).exec faults (w.later Sample.ledger) ≠ .returned r w' := by
  obtain ⟨w₀, h₀, hdir, hstaged⟩ := Sample.initialized
  have hinv : (w₀.later Sample.ledger).store.Inv .initial Sample.state := h₀.inv rfl
  obtain ⟨before, after, receipt, hauth, hafter, hreceipt⟩ :=
    Sample.call_authorized hinv hdir rfl
  obtain ⟨w, ⟨faults, hcrash⟩, hleft⟩ := execute_crashes hinv ⟨rfl, rfl⟩ hauth hstaged hafter hreceipt
  have hends : ((execute Sample.call).exec faults (w₀.later Sample.ledger)).Ends w := by
    rw [hcrash]
    rfl
  have hruns : Runs w₀ w := .call .start hends
  -- the crash left the generation as it was
  have hmeets := execute_exec Sample.call hinv.regular faults
  rw [hcrash] at hmeets
  have hafter : (w.later Sample.ledger).store.Inv .initial Sample.state ∧
      w.store.stateDir (zeroPadded 0) = w₀.store.stateDir (zeroPadded 0) := by
    rcases hmeets with hsame | ⟨before', after', receipt', hauth', hk | hc⟩
    · exact ⟨by rw [show (w.later Sample.ledger).store = w.store from rfl, hsame]; exact hinv,
        by rw [hsame]; rfl⟩
    · obtain ⟨hnext, -, -, hvalid⟩ := hinv.authorized hauth'
      rw [hnext] at hk
      have hname := hinv.next_entryGeneration hvalid.receiptSha256
      refine ⟨hinv.kept hk hname, ?_⟩
      have hgen := hk.generation (hinv.ne_directory hname)
      rw [show Pointer.initial.directory = zeroPadded 0 from rfl] at hgen
      rw [stateDir, hgen]
      rfl
    · exact absurd (congrArg JsonFile.staged hc.written.2) hleft
  obtain ⟨b, a, r, hauth', -⟩ := Sample.call_authorized hafter.1 (hafter.2.trans hdir) rfl
  refine ⟨w₀, w, h₀, hruns, ⟨b, a, r, hauth'⟩, ?_⟩
  intro faults' r' w' hrun
  have hmeets' := execute_exec Sample.call hafter.1.regular faults'
  rw [hrun] at hmeets'
  obtain ⟨_, _, -, -, hc⟩ := hmeets'
  exact hleft hc.written.1

end

end Paic.Remediation
