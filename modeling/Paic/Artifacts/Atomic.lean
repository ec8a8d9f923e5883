import Paic.Artifacts.Staging

/-!
# Publication is atomic

Whatever faults a publication meets, the target's name stands for what it
stood for, or for the new directory with all that the block has written.
-/

namespace Paic.Artifacts

open Prog (op read modify touch Keeps keeps_pure keeps_raise keeps_op keeps_read keeps_modify
  keeps_touch wp_bind wp_handle wp_op wp_read wp_modify wp_touch wp_mono wp_pure wp_raise
  execRest execRest_bind execRest_handle execRest_attempt execRest_fst exec_bind_meets
  exec_of_pass wp_execRest run_bind run_handle run_op run_read)

section
variable {p : Publisher} {d : Disk}

-- ---------------------------------------------------------------------------
-- The block
-- ---------------------------------------------------------------------------

theorem unpublished_rework (h : Unpublished p d w) (hs : w.staging = some name)
    (s : Workspace) : Unpublished p d (w.rework p name s) ∧
      (w.rework p name s).staging = some name := by
  have hst := h.staged name hs
  obtain ⟨inode, tree, hfresh, hfind⟩ := hst.directory
  -- Only the entries change: the tree under the staging name, and the lock.
  have hfill : ∀ other, other ≠ name → (w.fill name s.tree).find other = w.find other :=
    fun other hne => World.find_fill hne
  suffices hmade : ∀ w' : World, w'.committed = w.committed → w'.backup = w.backup →
      w'.nextInode = w.nextInode → w'.staging = w.staging → w'.lockFd = w.lockFd →
      w'.lockIdentity = w.lockIdentity →
      (∀ other, other ≠ p.lockName → w'.find other = (w.fill name s.tree).find other) →
      (∀ entry, w'.find p.lockName = some entry → ∃ leaf, entry.node = .leaf leaf) →
      Unpublished p d w' ∧ w'.staging = some name by
    unfold World.rework
    split
    · refine hmade _ (by simp [World.drop]) (by simp [World.drop]) (by simp [World.drop])
        (by simp [World.drop]) (by simp [World.drop]) (by simp [World.drop])
        (fun _ => World.find_drop) fun entry he => ?_
      exact absurd (World.find_drop_self.symm.trans he) (by rintro ⟨⟩)
    · refine hmade _ (by simp [World.put]) (by simp [World.put]) (by simp [World.put])
        (by simp [World.put]) (by simp [World.put]) (by simp [World.put])
        (fun _ => World.find_put) fun entry he => ?_
      obtain rfl := Option.some.inj (World.find_put_self.symm.trans he)
      exact ⟨.file [], rfl⟩
  intro w' hc hb hi hst' hfd hid hfound hlock
  refine ⟨⟨hc.trans h.committed, hb.trans h.backup, hi ▸ h.fresh, ?_, ?_⟩, hst'.trans hs⟩
  · intro other hother hne
    have hne' : other ≠ name := fun heq => hne (hst'.trans (hs.trans (congrArg some heq.symm)))
    exact ((hfound other hother).trans (hfill other hne')).trans
      (h.others other hother fun heq => hne (hst'.trans heq))
  · intro other ho
    obtain rfl : name = other := Option.some.inj (hs.symm.trans (hst'.symm.trans ho))
    refine ⟨hst.beside, hst.absent, ⟨inode, s.tree, hfresh, ?_⟩, ?_, hlock⟩
    · exact (hfound name hst.beside.2).trans (World.find_fill_self hfind)
    · obtain ⟨own, hown⟩ := hst.held
      exact ⟨own, hfd.trans hown.1, hid.trans hown.2⟩

theorem keeps_inside (name : String) (block : Prog Failure Workspace α) :
    (inside p name block).Keeps fun w => Unpublished p d w ∧ w.staging = some name := by
  induction block with
  | done a => exact keeps_pure a
  | raise e => exact keeps_raise e
  | step ready act next raised ihn ihr =>
    intro w hw
    exact ⟨hw, fun e => ihr e w hw, fun _ => ihn _ _ (unpublished_rework hw.1 hw.2 _)⟩

-- ---------------------------------------------------------------------------
-- Committing
-- ---------------------------------------------------------------------------

/-- What the staging directory holds when it comes to the commit. -/
structure Written (p : Publisher) (d : Disk) (name : String) (tree : Tree) (w : World) :
    Prop where
  unpublished : Unpublished p d w
  staging : w.staging = some name
  directory : ∃ inode, d.nextInode ≤ inode ∧ w.find name = some ⟨inode, .directory tree⟩

theorem written_of (h : Unpublished p d w) (hs : w.staging = some name) :
    Written p d name (w.tree name) w := by
  obtain ⟨inode, tree, hfresh, hfind⟩ := (h.staged name hs).directory
  exact ⟨h, hs, inode, hfresh, by simp only [World.tree, hfind]⟩

theorem Written.anchor (h : Written p d name tree w) (anchored : Bool) :
    Written p d name tree { w with anchored := anchored } :=
  ⟨h.1.anchor anchored, h.2, h.3⟩

theorem ok_of_map {x : Except Failure World} {f : World → World}
    (h : (x.map fun w => ((), f w)) = .ok ((), w')) : ∃ w, x = .ok w ∧ w' = f w := by
  cases x with
  | error e => exact absurd h nofun
  | ok w => exact ⟨w, rfl, (Prod.mk.inj (Except.ok.inj h)).2.symm⟩

theorem swap_wp (h : Written p d name tree w) : (swap p name).wp (fun _ => New p d tree)
    (fun _ => Written p d name tree) (Written p d name tree) w := by
  have hanchor : ∀ w b, Written p d name tree w → Written p d name tree { w with anchored := b } :=
    fun _ b h => h.anchor b
  refine (keeps_targetExists hanchor p).wp_bind h (fun there w hw => ?_) (fun _ _ => id) fun _ => id
  have hbeside := (hw.1.staged name hw.2).beside
  obtain ⟨inode, hfresh, hfind⟩ := hw.directory
  have hreplace : (do
      parentFd
      op fun w => (w.replace name p.name).map fun w =>
        ((), { w with committed := true, staging := none }) : Steps Unit).wp
      (fun _ => New p d tree) (fun _ => Written p d name tree) (Written p d name tree) w := by
    refine (keeps_openParentAnchor hanchor).wp_bind hw (fun _ w hw => ?_) (fun _ _ => id) fun _ => id
    rw [wp_op]
    refine ⟨hw, fun _ => hw, fun _ w' hop => ?_, fun _ _ => hw⟩
    obtain ⟨inode, hfresh, hfind⟩ := hw.directory
    obtain ⟨moved, hmoved, rfl⟩ := ok_of_map hop
    have hput : moved = (w.drop name).put p.name ⟨inode, .directory tree⟩ := by
      unfold World.replace at hmoved
      rw [hfind] at hmoved
      split at hmoved <;> simp_all
    subst hput
    refine ⟨rfl, fun other ho => ?_, inode, hfresh, World.find_put_self⟩
    have hb : w.backup = some other := by simpa [World.put, World.drop] using ho
    exact absurd (hw.1.backup.symm.trans hb) (by rintro ⟨⟩)
  cases there with
  | false => exact hreplace
  | true =>
    refine keeps_touch.wp_bind hw (fun _ w hw => ?_) (fun _ _ => id) fun _ => id
    refine (keeps_openParentAnchor hanchor).wp_bind hw (fun _ w hw => ?_) (fun _ _ => id) fun _ => id
    rw [wp_op]
    refine ⟨hw, fun _ => hw, fun _ w' hop => ?_, fun _ _ => hw⟩
    obtain ⟨inode, hfresh, hfind⟩ := hw.directory
    obtain ⟨moved, hmoved, rfl⟩ := ok_of_map hop
    unfold World.exchange at hmoved
    split at hmoved
    · next left right hleft hright =>
      obtain rfl := Option.some.inj (hfind.symm.trans hright)
      obtain rfl := Except.ok.inj hmoved
      refine ⟨rfl, fun other ho => ?_, inode, hfresh, ?_⟩
      · obtain rfl : name = other := by simpa [World.put] using ho
        exact hbeside
      · exact (World.find_put hbeside.1.symm).trans World.find_put_self
    · exact absurd hmoved (by rintro ⟨⟩)

/-- What may be seen when a commit fails. -/
def Failed (p : Publisher) (d : Disk) (name : String) (tree : Tree) (w : World) : Prop :=
  Written p d name tree w ∨ New p d tree w

theorem commit_wp (h : Written p d name tree w) : (commit p).wp (fun _ => New p d tree)
    (fun _ => Failed p d name tree) (Failed p d name tree) w := by
  rw [commit, wp_bind, wp_read]
  refine ⟨.inl h, fun _ => .inl h, fun staging hs => ?_⟩
  obtain rfl : some name = staging := h.staging.symm.trans (Except.ok.inj hs)
  have hsync : (syncPayload name).Keeps (Written p d name tree) :=
    (keeps_validateParentAnchor fun _ b h => h.anchor b).bind fun _ =>
      (keeps_read _).bind fun _ => (keeps_fsyncPayloadTree _).bind fun _ =>
        keeps_touch.bind fun _ => keeps_validateParentAnchor fun _ b h => h.anchor b
  have hbackup : ∀ w, Failed p d name tree w → w.committed = false → w.backup = none :=
    fun w hw hc => hw.elim (fun h => h.1.backup) fun h =>
      absurd (h.committed.symm.trans hc) nofun
  have hsettle : ∀ w, New p d tree w → settle.wp (fun _ => New p d tree)
      (fun _ => Failed p d name tree) (Failed p d name tree) w := fun w hw =>
    new_robust.keeps_settle.wp hw (fun _ _ => id) (fun _ _ => .inr) fun _ => .inr
  have hsteps : (commitSteps p name).wp (fun _ => New p d tree)
      (fun _ => Failed p d name tree) (Failed p d name tree) w := by
    refine hsync.wp_bind h (fun _ w hw => ?_) (fun _ _ => .inl) fun _ => .inl
    rw [wp_bind]
    exact wp_mono (swap_wp hw) (fun _ => hsettle) (fun _ _ => .inl) fun _ => .inl
  dsimp only
  rw [wp_bind, wp_handle]
  refine wp_mono hsteps (fun _ w hw => ?_) (fun e w hw => ?_) fun _ => id
  · rw [wp_read]
    exact ⟨.inr hw, fun _ => .inr hw, fun _ _ => hw⟩
  · exact rollback_wp hw (hbackup w hw) e

-- ---------------------------------------------------------------------------
-- Leaving undisturbed
-- ---------------------------------------------------------------------------

theorem run_openParentAnchor (w : World) :
    openParentAnchor.run w = .returned () { w with anchored := true } := by
  cases w with
  | mk ancestors entries nextInode draws staging backup lockFd lockIdentity rollbackFailed
      committed durabilityConfirmed leased anchored =>
    cases anchored <;> rfl

theorem run_parentFd (w : World) : parentFd.run w = .returned () { w with anchored := true } :=
  run_openParentAnchor w

theorem run_validateParentAnchor (w : World) :
    validateParentAnchor.run w = .returned () { w with anchored := true } := by
  cases w with
  | mk ancestors entries nextInode draws staging backup lockFd lockIdentity rollbackFailed
      committed durabilityConfirmed leased anchored =>
    cases anchored <;> cases leased <;> rfl

theorem run_closeParentAnchor (w : World) :
    closeParentAnchor.run w = .returned () { w with anchored := false } := by
  cases w with
  | mk ancestors entries nextInode draws staging backup lockFd lockIdentity rollbackFailed
      committed durabilityConfirmed leased anchored =>
    cases anchored <;> rfl

theorem run_leaveLease (w : World) :
    leaveLease.run w = .returned () { w with leased := false } := by
  cases w with
  | mk ancestors entries nextInode draws staging backup lockFd lockIdentity rollbackFailed
      committed durabilityConfirmed leased anchored =>
    cases leased <;> rfl

theorem run_rmtree (h : w.find name = some ⟨inode, .directory tree⟩) :
    (rmtree name).run w = .returned () (w.drop name) := by
  have hfill : ∀ (trees : List Tree) (w : World), (fillAll name trees >>= fun _ =>
      modify (·.drop name) : Steps Unit).run w = .returned () (w.drop name) := by
    intro trees
    induction trees with
    | nil => exact fun w => rfl
    | cons left rest ih =>
      intro w
      exact (ih (w.fill name left)).trans (congrArg _ World.drop_fill)
  rw [rmtree]
  refine (Prog.run_read_bind (a := tree) w ?_).trans (hfill _ w)
  rw [h]

theorem run_removeStaging (hs : w.staging = some name)
    (h : w.find name = some ⟨inode, .directory tree⟩) :
    removeStaging.run w = .returned [] { w.drop name with staging := none } := by
  have hread : (Except.ok w.staging : Except Failure _) = .ok (some name) := by rw [hs]
  rw [removeStaging, Prog.run_read_bind w hread]
  dsimp only
  rw [run_bind, Prog.run_attempt, run_rmtree h]
  rfl

/-- The world without the lock file, if the lock file is the publisher's. -/
def unlocked (p : Publisher) (w : World) : World :=
  if (w.find p.lockName).isSome ∧ w.lockIdentity = (w.find p.lockName).map (·.inode)
  then w.drop p.lockName else w

theorem find_unlocked (h : name ≠ p.lockName) : (unlocked p w).find name = w.find name := by
  unfold unlocked
  split
  · exact World.find_drop h
  · rfl

theorem find_unlocked_lock (h : (unlocked p w).find p.lockName = some entry) :
    w.lockIdentity ≠ some entry.inode := by
  unfold unlocked at h
  split at h
  · exact absurd (World.find_drop_self.symm.trans h) nofun
  · next hn =>
    rw [h] at hn
    exact fun hid => hn ⟨rfl, hid⟩

theorem unlocked_committed : (unlocked p w).committed = w.committed := by
  unfold unlocked
  split <;> rfl

theorem run_removeOwnLock
    (hlock : ∀ entry, w.find p.lockName = some entry → ∃ leaf, entry.node = .leaf leaf) :
    (removeOwnLock p).run w = .returned [] { unlocked p w with anchored := true } := by
  have hstat : (statEntry p.lockName).run { w with anchored := true } =
      .returned (w.find p.lockName) { w with anchored := true } := rfl
  rw [removeOwnLock, Prog.run_bind_returned (run_parentFd w),
    Prog.run_bind_returned (run_validateParentAnchor _), Prog.run_bind_returned hstat, run_bind,
    run_read]
  dsimp only [Prog.Outcome.andThen]
  unfold unlocked
  split
  · next h =>
    obtain ⟨entry, hentry⟩ := Option.isSome_iff_exists.mp h.1
    obtain ⟨leaf, hleaf⟩ := hlock entry hentry
    have hfind : ({ w with anchored := true } : World).find p.lockName =
        some ⟨entry.inode, .leaf leaf⟩ := hleaf ▸ hentry
    rw [unlinkLock, run_handle, run_op]
    simp only [hfind]
    rfl
  · rfl

theorem run_releaseLock (hfd : w.lockFd = some own)
    (hlock : ∀ entry, w.find p.lockName = some entry → ∃ leaf, entry.node = .leaf leaf) :
    (releaseLock p).run w = .returned () { unlocked p { w with lockFd := none } with
      anchored := true, lockIdentity := none } := by
  have hclose : (closePublicationDescriptor "artifact writer lock").run w = .returned [] w := rfl
  have hread : (Except.ok w.lockFd : Except Failure _) = .ok (some own) := by rw [hfd]
  rw [releaseLock, Prog.run_read_bind w hread]
  dsimp only
  rw [Prog.run_bind_returned hclose, Prog.run_bind_returned (Prog.run_modify _ _), run_bind,
    run_handle, run_removeOwnLock (w := { w with lockFd := none }) hlock]
  rfl

/-- Nothing of the publisher is left: every name but the lock's stands for
what it stood for, and a lock file there is another publisher's. -/
structure Cleaned (p : Publisher) (d : Disk) (own : Option Nat) (w : World) : Prop where
  committed : w.committed = false
  entries : ∀ name, name ≠ p.lockName → w.find name = d.find name
  lock : ∀ entry, w.find p.lockName = some entry → own ≠ some entry.inode

theorem run_exit (h : Unpublished p d w) (hs : w.staging = some name) (e : Failure) :
    ∃ w', (exit p (some e)).run w = .returned (some e) w' ∧ Cleaned p d w.lockIdentity w' := by
  have hst := h.staged name hs
  obtain ⟨inode, tree, -, hfind⟩ := hst.directory
  obtain ⟨own, hfd, -⟩ := hst.held
  let w₁ : World := { w.drop name with staging := none }
  have hlock : ∀ entry, w₁.find p.lockName = some entry → ∃ leaf, entry.node = .leaf leaf :=
    fun entry he => hst.lock entry ((World.find_drop hst.beside.2.symm).symm.trans he)
  have hclear : ((clear p true).handle fun e => pure [e]).run w = .returned [] w₁ := by
    have hread : (Except.ok (w₁.committed, w₁.backup) : Except Failure _) = .ok (false, none) :=
      congrArg Except.ok (Prod.ext h.committed h.backup)
    rw [run_handle, clear, Prog.run_bind_returned (run_removeStaging hs hfind), run_bind,
      run_handle, restoreBackup, Prog.run_read_bind w₁ hread]
    rfl
  have hrelease : (collecting (releaseLock p) some).run w₁ = .returned []
      { unlocked p { w₁ with lockFd := none } with anchored := true, lockIdentity := none } := by
    rw [collecting, run_handle, run_bind, run_releaseLock (w := w₁) hfd hlock]
    rfl
  have hleave : ∀ w, (collecting leaveLease some).run w =
      .returned [] { w with leased := false } := by
    intro w
    rw [collecting, run_handle, run_bind, run_leaveLease]
    rfl
  have hclose : ∀ w, (collecting closeParentAnchor some).run w =
      .returned [] { w with anchored := false } := by
    intro w
    rw [collecting, run_handle, run_bind, run_closeParentAnchor]
    rfl
  have hrun : (exit p (some e)).run w = .returned (some e)
      { unlocked p { w₁ with lockFd := none } with
        lockIdentity := none, leased := false, anchored := false } := by
    rw [exit]
    exact (Prog.run_bind_returned hclear).trans ((Prog.run_bind_returned hrelease).trans
      ((Prog.run_bind_returned (hleave _)).trans (Prog.run_bind_returned (hclose _))))
  refine ⟨_, hrun, ?committed, ?entries, ?lock⟩
  case committed => exact unlocked_committed.trans h.committed
  case entries =>
    intro other hne
    refine (find_unlocked (w := { w₁ with lockFd := none }) hne).trans ?_
    by_cases ho : other = name
    · exact ho ▸ World.find_drop_self.trans hst.absent.symm
    · refine (World.find_drop (w := w) ho).trans (h.others other hne fun heq => ho ?_)
      exact (Option.some.inj (hs.symm.trans heq)).symm
  case lock =>
    intro entry he
    exact find_unlocked_lock (w := { w₁ with lockFd := none }) he

end

-- ---------------------------------------------------------------------------
-- A whole publication
-- ---------------------------------------------------------------------------

section
variable (p : Publisher) (d : Disk) (block : Prog Failure Workspace Unit)
  (faults : List (Prog.Fault Failure))

/-- A publication up to the end of its block. -/
def prepared : Steps String := do
  let staging ← enter p
  inside p staging block
  pure staging

/-- A publication without what it does to clean up. -/
def attempted : Steps PublicationResult := do
  let staging ← enterSteps p
  inside p staging block
  commit p

/-- What the block has written when it comes to the commit. -/
def written : Option Tree :=
  match (prepared p block).exec faults d.world with
  | .returned staging w => some (w.tree staging)
  | _ => none

/-- The target is the new directory, with all that was written and nothing else. -/
def HoldsWritten (w : World) : Prop :=
  ∃ tree, written p d block faults = some tree ∧ HoldsNew p d tree w

/-- The lock file is left as it is, however the run ends. -/
def LeavesLock (entry : Entry) : Prop :=
  ((publish p block).exec faults d.world).Meets
    (fun _ w => w.find p.lockName = some entry) (fun _ w => w.find p.lockName = some entry)
    fun w => w.find p.lockName = some entry

/-- What a publication under faults does to the parent directory. -/
structure Atomic : Prop where
  target : ((publish p block).exec faults d.world).Meets
    (fun _ => HoldsWritten p d block faults)
    (fun _ w => (w.committed = true ↔ HoldsWritten p d block faults w) ∧
      (w.committed = false → HoldsOld p d w))
    fun w => HoldsOld p d w ∨ HoldsWritten p d block faults w
  /-- Where no fault is left for the cleanup of a staging directory. -/
  cleaned : ∀ e w rest name, (attempted p block).execRest faults d.world = (.raised e w, rest) →
    (∀ f ∈ rest, f = .pass) → w.committed = false → w.staging = some name →
    ∃ e' w', (publish p block).exec faults d.world = .raised e' w' ∧
      Cleaned p d w.lockIdentity w'
  /-- A lock that was there before. -/
  locked : ∀ entry, d.find p.lockName = some entry → LeavesLock p d block faults entry
  /-- A lock that came in the place of the publisher's own. -/
  rival : ∀ entry, ((prepared p block).exec faults d.world).state.find p.lockName = some entry →
    ((prepared p block).exec faults d.world).state.lockIdentity ≠ some entry.inode →
    LeavesLock p d block faults entry

end

section
variable {p : Publisher} {d : Disk} {block : Prog Failure Workspace Unit}
  {faults : List (Prog.Fault Failure)}

/-- The end of a run, from wherever it cleans up. -/
theorem finish_meets {I : World → Prop} (h : Robust p I) (hw : I w)
    (result : Except Failure PublicationResult) :
    ((finish p result).exec faults w).Meets (fun _ => I) (fun _ => I) I := by
  have hfinish : (finish p result).Keeps I := by
    cases result with
    | ok result => exact (h.keeps_exit none).bind fun _ => keeps_pure _
    | error e => exact (h.keeps_exit (some e)).bind fun _ => keeps_raise _
  exact Prog.exec_wp.mp (hfinish w hw) faults

theorem Meets.mono {o : Prog.Outcome Failure World α} (h : o.Meets Q E C)
    (hq : ∀ a s, Q a s → Q' a s) (he : ∀ e s, E e s → E' e s) (hc : ∀ s, C s → C' s) :
    o.Meets Q' E' C' := by
  cases o with
  | returned a s => exact hq a s h
  | raised e s => exact he e s h
  | crashed s => exact hc s h
  | blocked s => trivial

/-- To finish with an exception is to raise one. -/
theorem exec_error_meets {I : World → Prop} (he : ∀ w, I w → E w) (hc : ∀ w, I w → C w)
    (h : Robust p I) (hw : I w) (e : Failure) :
    ((finish p (.error e)).exec faults w).Meets Q (fun _ => E) C := by
  refine Prog.exec_wp.mp ?_ faults
  refine (h.keeps_exit (some e)).wp_bind hw (fun noted w hw => ?_) (fun _ w hw => he w hw)
    fun w hw => hc w hw
  exact he w hw

/-- What the body of the `with` statement comes to, `finish` ends. -/
theorem body_meets {body : Steps PublicationResult}
    (h : (body.execRest faults w).1.Meets
      (fun result w' => ∀ rest, ((finish p (.ok result)).exec rest w').Meets Q E C)
      (fun e w' => ∀ rest, ((finish p (.error e)).exec rest w').Meets Q E C) C) :
    ((body.attempt >>= finish p).exec faults w).Meets Q E C := by
  rw [exec_bind_meets, execRest_attempt]
  rcases hr : body.execRest faults w with ⟨o, rest⟩
  rw [hr] at h
  cases o with
  | returned result w' => exact h rest
  | raised e w' => exact h rest
  | crashed w' => exact h
  | blocked w' => trivial

theorem old_raised (h : Old p d w) :
    (w.committed = true ↔ HoldsWritten p d block faults w) ∧ (w.committed = false → HoldsOld p d w) :=
  ⟨iff_of_false (by simp [h.committed]) fun ⟨_, _, hnew⟩ => holdsOld_not_new p d h.target hnew,
    fun _ => h.target⟩

theorem new_raised (hw : written p d block faults = some tree) (h : New p d tree w) :
    (w.committed = true ↔ HoldsWritten p d block faults w) ∧ (w.committed = false → HoldsOld p d w) :=
  ⟨iff_of_true h.committed ⟨tree, hw, h.target⟩, fun hc => absurd (h.committed.symm.trans hc) nofun⟩

theorem exec_prepared : (prepared p block).exec faults d.world =
    match (enter p).execRest faults d.world with
    | (.returned staging w, rest) =>
      ((inside p staging block).execRest rest w).1.andThen fun _ w => .returned staging w
    | (.raised e w, _) => .raised e w
    | (.crashed w, _) => .crashed w
    | (.blocked w, _) => .blocked w := by
  rw [← execRest_fst, prepared, execRest_bind]
  rcases (enter p).execRest faults d.world with ⟨o, rest⟩
  cases o with
  | returned staging w =>
    dsimp only
    rw [execRest_bind]
    rcases (inside p staging block).execRest rest w with ⟨o, rest⟩
    cases o <;> rfl
  | raised e w | crashed w | blocked w => rfl

theorem publication_target : ((publish p block).exec faults d.world).Meets
    (fun _ => HoldsWritten p d block faults)
    (fun _ w => (w.committed = true ↔ HoldsWritten p d block faults w) ∧
      (w.committed = false → HoldsOld p d w))
    fun w => HoldsOld p d w ∨ HoldsWritten p d block faults w := by
  have henter := wp_execRest (enter_wp p d) faults
  have hprepared := @exec_prepared p d block faults
  rw [publish, exec_bind_meets]
  rcases hr : (enter p).execRest faults d.world with ⟨o, rest⟩
  rw [hr] at henter hprepared
  cases o with
  | raised e w => exact old_raised henter
  | crashed w => exact .inl (Old.target henter)
  | blocked w => trivial
  | returned staging w =>
    have hinside := wp_execRest (keeps_inside staging block w henter) rest
    dsimp only at hprepared
    refine body_meets ?_
    rw [execRest_bind]
    rcases hri : (inside p staging block).execRest rest w with ⟨o, rest⟩
    rw [hri] at hinside hprepared
    have hkeep : ∀ w', Old p d w' → ∀ e rest, ((finish p (.error e)).exec rest w').Meets
        (fun _ => HoldsWritten p d block faults)
        (fun _ w => (w.committed = true ↔ HoldsWritten p d block faults w) ∧
          (w.committed = false → HoldsOld p d w))
        fun w => HoldsOld p d w ∨ HoldsWritten p d block faults w := fun w' h e rest =>
      exec_error_meets (fun _ => old_raised) (fun _ h => .inl h.target) old_robust h e
    cases o with
    | raised e w => exact hkeep w (Unpublished.old hinside.1) e
    | crashed w => exact .inl (Unpublished.old hinside.1).target
    | blocked w => trivial
    | returned _ w =>
      have hwritten : written p d block faults = some (w.tree staging) := by
        rw [written, hprepared]
        rfl
      have hnew : ∀ w', New p d (w.tree staging) w' → HoldsWritten p d block faults w' :=
        fun w' h => ⟨_, hwritten, h.target⟩
      refine Meets.mono (wp_execRest (commit_wp (written_of hinside.1 hinside.2)) rest)
        (fun result w' h rest => ?_) (fun e w' h rest => ?_) fun w' h => ?_
      · exact Meets.mono (finish_meets new_robust h (.ok result)) (fun _ w' => hnew w')
          (fun _ _ => new_raised hwritten) fun w' h => .inr (hnew w' h)
      · rcases h with hold | hdone
        · exact hkeep w' hold.1.old e rest
        · exact exec_error_meets (fun _ => new_raised hwritten) (fun w' h => .inr (hnew w' h))
            new_robust hdone e
      · exact h.imp (fun h => h.1.old.target) fun h => hnew w' h

theorem run_finish (h : Unpublished p d w) (hs : w.staging = some name) (e : Failure) :
    ∃ w', (finish p (.error e)).run w = .raised e w' ∧ Cleaned p d w.lockIdentity w' := by
  obtain ⟨w', hrun, hcleaned⟩ := run_exit h hs e
  exact ⟨w', Prog.run_bind_returned hrun, hcleaned⟩

theorem run_abortEnter (h : Unpublished p d w) (hs : w.staging = some name) (e : Failure) :
    ∃ e' w', (abortEnter p e >>= fun e => .raise (enterError p e) : Steps String).run w =
      .raised e' w' ∧ Cleaned p d w.lockIdentity w' := by
  obtain ⟨w', hrun, hcleaned⟩ := run_exit h hs e
  refine ⟨enterError p e, w', Prog.run_bind_returned ?_, hcleaned⟩
  rw [abortEnter, run_handle, run_bind, hrun]
  rfl

theorem publication_cleaned
    (hraised : (attempted p block).execRest faults d.world = (.raised e w, rest))
    (hrest : ∀ f ∈ rest, f = .pass) (hcommitted : w.committed = false)
    (hstaging : w.staging = some name) :
    ∃ e' w', (publish p block).exec faults d.world = .raised e' w' ∧
      Cleaned p d w.lockIdentity w' := by
  have henter := wp_execRest (enterSteps_wp p d) faults
  rw [attempted, execRest_bind] at hraised
  rw [← execRest_fst, publish, execRest_bind, enter, execRest_handle]
  rcases hr : (enterSteps p).execRest faults d.world with ⟨o, left⟩
  rw [hr] at henter hraised
  cases o with
  | crashed w | blocked w => exact absurd (congrArg Prod.fst hraised) (by rintro ⟨⟩)
  | raised e' w' =>
    simp only [Prod.mk.injEq, Prog.Outcome.raised.injEq] at hraised
    obtain ⟨⟨rfl, rfl⟩, rfl⟩ := hraised
    obtain ⟨e'', w'', hrun, hcleaned⟩ := run_abortEnter henter hstaging e'
    have hexec := (exec_of_pass _ hrest w').trans hrun
    rw [← execRest_fst] at hexec
    refine ⟨e'', w'', ?_, hcleaned⟩
    dsimp only
    rcases hx : (abortEnter p e' >>= fun e => .raise (enterError p e) : Steps String).execRest
        left w' with ⟨o, rest⟩
    rw [hx] at hexec
    obtain rfl := hexec
    rfl
  | returned staging w' =>
    dsimp only at hraised ⊢
    have hblock : (inside p staging block >>= fun _ => commit p).wp (fun _ _ => True)
        (fun _ w => Unpublished p d w ∨ w.committed = true) (fun _ => True) w' := by
      refine (keeps_inside staging block).wp_bind henter (fun _ w hw => ?_)
        (fun _ _ h => .inl h.1) fun _ _ => trivial
      refine wp_mono (commit_wp (written_of hw.1 hw.2)) (fun _ _ _ => trivial) (fun _ _ h => ?_)
        fun _ _ => trivial
      exact h.imp Written.unpublished New.committed
    have hmeets := wp_execRest hblock left
    rw [hraised] at hmeets
    have hunpublished : Unpublished p d w :=
      hmeets.resolve_right (by simp [hcommitted])
    obtain ⟨w'', hrun, hcleaned⟩ := run_finish hunpublished hstaging e
    refine ⟨e, w'', ?_, hcleaned⟩
    rw [execRest_bind, execRest_attempt, hraised]
    dsimp only
    rw [execRest_fst]
    exact (exec_of_pass _ hrest w).trans hrun

-- ---------------------------------------------------------------------------
-- The locks of others
-- ---------------------------------------------------------------------------

theorem enterSteps_locked {entry : Entry} (hlock : d.find p.lockName = some entry) :
    (enterSteps p).wp (fun _ _ => False) (fun _ => Idle d) (Idle d) d.world := by
  refine (keeps_prepare p).wp_bind d.idle (fun _ w hw => ?_) (fun _ _ => id) fun _ => id
  rw [wp_bind, takeLock, wp_bind, openLock, wp_op]
  have hfind := (hw.entries p.lockName).trans hlock
  refine ⟨hw, fun _ => hw, fun _ w' hop => ?_, fun _ _ => hw⟩
  simp only [hfind] at hop
  exact absurd hop (by rintro ⟨⟩)

theorem publication_locked {entry : Entry} (hlock : d.find p.lockName = some entry) :
    LeavesLock p d block faults entry := by
  have henter : (enter p).wp (fun _ _ => False) (fun _ => Rival p entry) (Rival p entry)
      d.world := by
    rw [enter, wp_handle]
    refine wp_mono (enterSteps_locked hlock) (fun _ _ => id) (fun e w hw => ?_)
      fun _ h => h.rival hlock
    exact rival_robust.abortEnter_wp (hw.rival hlock) e
  have hpublish : (publish p block).wp (fun _ _ => False) (fun _ => Rival p entry)
      (Rival p entry) d.world := by
    rw [publish, wp_bind]
    exact wp_mono henter (fun _ _ h => h.elim) (fun _ _ => id) fun _ => id
  exact Meets.mono (Prog.exec_wp.mp hpublish faults) (fun _ _ h => h.elim) (fun _ _ => Rival.lock)
    fun _ => Rival.lock

theorem Rival.anchor {entry : Entry} (h : Rival p entry w) (anchored : Bool) :
    Rival p entry { w with anchored := anchored } := ⟨h.1, h.2, h.3, h.4⟩

theorem rival_swap {entry : Entry} (hbeside : Beside p name) :
    (swap p name).Keeps (Rival p entry) := by
  have hanchor : ∀ w b, Rival p entry w → Rival p entry { w with anchored := b } :=
    fun _ b h => h.anchor b
  refine (keeps_targetExists hanchor p).bind fun there => .ite (fun _ => ?_) fun _ => ?_
  · refine keeps_touch.bind fun _ => (keeps_openParentAnchor hanchor).bind fun _ => keeps_op ?_
    intro w _ w' h hop
    obtain ⟨moved, hmoved, rfl⟩ := ok_of_map hop
    unfold World.exchange at hmoved
    split at hmoved
    · obtain rfl := Except.ok.inj hmoved
      refine ⟨?_, h.foreign, fun other ho => ?_, by rintro ⟨⟩⟩
      · exact (World.find_put hbeside.2.symm).trans
          ((World.find_put (lockName_ne_name p)).trans h.lock)
      · obtain rfl : name = other := by simpa [World.put] using ho
        exact hbeside
    · exact absurd hmoved (by rintro ⟨⟩)
  · refine (keeps_openParentAnchor hanchor).bind fun _ => keeps_op ?_
    intro w _ w' h hop
    obtain ⟨moved, hmoved, rfl⟩ := ok_of_map hop
    have hput : ∃ entry, moved = (w.drop name).put p.name entry := by
      unfold World.replace at hmoved
      split at hmoved
      · exact absurd hmoved (by rintro ⟨⟩)
      · exact ⟨_, (Except.ok.inj hmoved).symm⟩
      · exact ⟨_, (Except.ok.inj hmoved).symm⟩
      · exact absurd hmoved (by rintro ⟨⟩)
      · exact absurd hmoved (by rintro ⟨⟩)
    obtain ⟨_, rfl⟩ := hput
    refine ⟨?_, h.foreign, fun other ho => h.named other (.inr ?_), by rintro ⟨⟩⟩
    · exact (World.find_put (lockName_ne_name p)).trans
        ((World.find_drop hbeside.2.symm).trans h.lock)
    · simpa [World.put, World.drop] using ho

theorem rival_commit {entry : Entry} (h : Rival p entry w) : (commit p).wp
    (fun _ => Rival p entry) (fun _ => Rival p entry) (Rival p entry) w := by
  have hanchor : ∀ w b, Rival p entry w → Rival p entry { w with anchored := b } :=
    fun _ b h => h.anchor b
  rw [commit, wp_bind, wp_read]
  refine ⟨h, fun _ => h, fun staging hs => ?_⟩
  have hs : w.staging = staging := Except.ok.inj hs
  cases staging with
  | none => exact h
  | some name =>
    have hsync : (syncPayload name).Keeps (Rival p entry) :=
      (keeps_validateParentAnchor hanchor).bind fun _ => (keeps_read _).bind fun _ =>
        (keeps_fsyncPayloadTree _).bind fun _ => keeps_touch.bind fun _ =>
          keeps_validateParentAnchor hanchor
    have hsteps : (commitSteps p name).Keeps (Rival p entry) :=
      hsync.bind fun _ => (rival_swap (h.named name (.inl hs))).bind fun _ =>
        rival_robust.keeps_settle
    dsimp only
    rw [wp_bind, wp_handle]
    refine hsteps.wp h (fun _ w hw => ?_) (fun e w hw => rollback_wp hw hw.backup e) fun _ => id
    exact keeps_read _ w hw

theorem publication_rival {entry : Entry}
    (hlock : ((prepared p block).exec faults d.world).state.find p.lockName = some entry)
    (hforeign : ((prepared p block).exec faults d.world).state.lockIdentity ≠ some entry.inode) :
    LeavesLock p d block faults entry := by
  have henter := wp_execRest (enter_wp p d) faults
  have hprepared := @exec_prepared p d block faults
  rw [LeavesLock, publish, exec_bind_meets]
  rcases hr : (enter p).execRest faults d.world with ⟨o, rest⟩
  rw [hr] at henter hprepared
  cases o with
  | raised e w | crashed w =>
    rw [hprepared] at hlock
    exact hlock
  | blocked w => trivial
  | returned staging w =>
    have hinside := wp_execRest (keeps_inside staging block w henter) rest
    dsimp only at hprepared
    have hold : ∀ w', Unpublished p d w' → w'.find p.lockName = some entry →
        w'.lockIdentity ≠ some entry.inode → Rival p entry w' := fun w' h hlock hforeign =>
      ⟨hlock, hforeign, h.old.named, fun _ => h.old.backup⟩
    have hfinish : ∀ w', Rival p entry w' → ∀ result rest, ((finish p result).exec rest w').Meets
        (fun _ w => w.find p.lockName = some entry) (fun _ w => w.find p.lockName = some entry)
        fun w => w.find p.lockName = some entry := fun w' h result rest =>
      Meets.mono (finish_meets rival_robust h result) (fun _ _ => Rival.lock)
        (fun _ _ => Rival.lock) fun _ => Rival.lock
    refine body_meets ?_
    rw [execRest_bind]
    rcases hri : (inside p staging block).execRest rest w with ⟨o, rest⟩
    rw [hri] at hinside hprepared
    rw [hprepared] at hlock hforeign
    cases o with
    | crashed w => exact hlock
    | blocked w => trivial
    | raised e w => exact hfinish w (hold w hinside.1 hlock hforeign) _
    | returned _ w =>
      exact Meets.mono (wp_execRest (rival_commit (hold w hinside.1 hlock hforeign)) rest)
        (fun _ w' h => hfinish w' h _) (fun _ w' h => hfinish w' h _) fun _ => Rival.lock

/-- Publication is atomic, under any schedule of faults. -/
theorem publication_atomic (p : Publisher) (d : Disk) (block : Prog Failure Workspace Unit)
    (faults : List (Prog.Fault Failure)) : Atomic p d block faults where
  target := publication_target
  cleaned _ _ _ _ := publication_cleaned
  locked _ := publication_locked
  rival _ := publication_rival

end

-- ---------------------------------------------------------------------------
-- A publication that is given up
-- ---------------------------------------------------------------------------

/-- One old directory, to be replaced. -/
def sampleDisk : Disk where
  ancestors := [.directory]
  entries := [("report", ⟨1, .directory (.leaf "_SUCCESS" (.file [1]) .empty)⟩)]
  nextInode := 2
  inodes := by decide

def samplePublisher : Publisher where
  target := "out/report"
  parent := "/srv/out"
  name := "report"
  overwrite := true
  tokenHex := fun n => toString n

/-- A block that writes a file. -/
def sampleBlock : Prog Failure Workspace Unit :=
  modify fun s => { s with tree := .leaf "manifest.json" (.file [2]) s.tree }

/-- A fault after the payload is written, before the rename. -/
def sampleFaults : List (Prog.Fault Failure) :=
  List.replicate 48 .pass ++ [.interrupt { kind := .os, text := "Input/output error" }]

/-- The staging directory of a publication that raised before its rename is gone. -/
theorem publication_atomic_sample : ∃ e w,
    (publish samplePublisher sampleBlock).exec sampleFaults sampleDisk.world = .raised e w ∧
      w.committed = false ∧ w.find ".report.staging-0" = none ∧
      w.find "report" = sampleDisk.find "report" := by
  have hraised : ∃ e w, (attempted samplePublisher sampleBlock).execRest sampleFaults
      sampleDisk.world = (.raised e w, []) ∧ w.committed = false ∧
      w.staging = some ".report.staging-0" := ⟨_, _, rfl, rfl, rfl⟩
  obtain ⟨e, w, hrun, hcommitted, hstaging⟩ := hraised
  obtain ⟨e', w', hexec, hcleaned⟩ :=
    (publication_atomic samplePublisher sampleDisk sampleBlock sampleFaults).cleaned
      e w [] ".report.staging-0" hrun (by simp) hcommitted hstaging
  exact ⟨e', w', hexec, hcleaned.committed, hcleaned.entries _ (by decide),
    hcleaned.entries _ (by decide)⟩

end Paic.Artifacts
