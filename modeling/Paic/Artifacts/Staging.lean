import Paic.Artifacts.PublicationLaws

/-!
# Up to the staged tree

What is old and new under the target's name, and what a publisher has added
to the parent directory when its block begins: the lock and, beside it, the
staging directory.
-/

namespace Paic.Artifacts

open Prog (op read modify touch Keeps keeps_pure keeps_raise keeps_op keeps_read keeps_modify
  keeps_touch wp_bind wp_handle wp_op wp_read wp_modify wp_touch wp_mono wp_pure wp_raise)

-- ---------------------------------------------------------------------------
-- Before and after
-- ---------------------------------------------------------------------------

/-- The parent directory before a run. -/
structure Disk where
  ancestors : List Ancestor
  entries : List (String × Entry)
  nextInode : Nat
  inodes : ∀ e ∈ entries, e.2.inode < nextInode

namespace Disk

def find (d : Disk) (name : String) : Option Entry := d.entries.lookup name

/-- A new publisher. -/
def world (d : Disk) : World :=
  { ancestors := d.ancestors, entries := d.entries, nextInode := d.nextInode }

end Disk

section
variable (p : Publisher) (d : Disk)

/-- The target's name stands for a directory made in the run. -/
def HoldsNew (tree : Tree) (w : World) : Prop :=
  ∃ inode, d.nextInode ≤ inode ∧ w.find p.name = some ⟨inode, .directory tree⟩

def HoldsOld (w : World) : Prop := w.find p.name = d.find p.name

theorem holdsOld_not_new (h : HoldsOld p d w) : ¬ HoldsNew p d tree w := by
  rintro ⟨inode, hfresh, hfind⟩
  have hmem := Entries.mem_of_lookup (h.symm.trans hfind)
  exact absurd (d.inodes _ hmem) (by simpa using hfresh)

/-- The directories a publisher removes are neither its target nor its lock. -/
def Named (w : World) : Prop :=
  ∀ name, w.staging = some name ∨ w.backup = some name → Beside p name

/-- The publication is given up, or not yet made. -/
structure Old (w : World) : Prop where
  committed : w.committed = false
  backup : w.backup = none
  named : Named p w
  target : HoldsOld p d w

structure New (tree : Tree) (w : World) : Prop where
  committed : w.committed = true
  named : Named p w
  target : HoldsNew p d tree w

/-- Another publisher's lock file is in place. -/
structure Rival (entry : Entry) (w : World) : Prop where
  lock : w.find p.lockName = some entry
  foreign : w.lockIdentity ≠ some entry.inode
  named : Named p w
  backup : w.committed = false → w.backup = none

end

section
variable {p : Publisher} {d : Disk}

theorem Named.mono {w w' : World} (h : Named p w)
    (hs : ∀ name, w'.staging = some name ∨ w'.backup = some name →
      w.staging = some name ∨ w.backup = some name) : Named p w' :=
  fun name hname => h name (hs name hname)

theorem old_robust : Robust p (Old p d) where
  anchor _ _ h := ⟨h.1, h.2, h.3, h.4⟩
  lease _ _ h := ⟨h.1, h.2, h.3, h.4⟩
  durable _ h := ⟨h.1, h.2, h.3, h.4⟩
  unstage _ h := ⟨h.1, h.2, h.3.mono (by simp +contextual), h.4⟩
  unback _ h := ⟨h.1, rfl, h.3.mono (by simp +contextual), h.4⟩
  unlockFd _ h := ⟨h.1, h.2, h.3, h.4⟩
  unlockIdentity _ h := ⟨h.1, h.2, h.3, h.4⟩
  fill _ _ _ h hname := ⟨by simpa using h.1, by simpa using h.2, h.3.mono (by simp),
    (World.find_fill (h.3 _ hname).1.symm).trans h.4⟩
  drop _ _ h hname := ⟨h.1, h.2, h.3, (World.find_drop (h.3 _ hname).1.symm).trans h.4⟩
  unlock _ _ h _ _ := ⟨h.1, h.2, h.3, (World.find_drop (lockName_ne_name p).symm).trans h.4⟩
  backup _ h _ := h.2

theorem new_robust : Robust p (New p d tree) where
  anchor _ _ h := ⟨h.1, h.2, h.3⟩
  lease _ _ h := ⟨h.1, h.2, h.3⟩
  durable _ h := ⟨h.1, h.2, h.3⟩
  unstage _ h := ⟨h.1, h.2.mono (by simp +contextual), h.3⟩
  unback _ h := ⟨h.1, h.2.mono (by simp +contextual), h.3⟩
  unlockFd _ h := ⟨h.1, h.2, h.3⟩
  unlockIdentity _ h := ⟨h.1, h.2, h.3⟩
  fill _ _ _ h hname := by
    obtain ⟨inode, hfresh, hfind⟩ := h.3
    exact ⟨by simpa using h.1, h.2.mono (by simp), inode, hfresh,
      (World.find_fill (h.2 _ hname).1.symm).trans hfind⟩
  drop _ _ h hname := by
    obtain ⟨inode, hfresh, hfind⟩ := h.3
    exact ⟨h.1, h.2, inode, hfresh, (World.find_drop (h.2 _ hname).1.symm).trans hfind⟩
  unlock _ _ h _ _ := by
    obtain ⟨inode, hfresh, hfind⟩ := h.3
    exact ⟨h.1, h.2, inode, hfresh, (World.find_drop (lockName_ne_name p).symm).trans hfind⟩
  backup _ h hc := absurd (h.1.symm.trans hc) nofun

theorem rival_robust {entry : Entry} : Robust p (Rival p entry) where
  anchor _ _ h := ⟨h.1, h.2, h.3, h.4⟩
  lease _ _ h := ⟨h.1, h.2, h.3, h.4⟩
  durable _ h := ⟨h.1, h.2, h.3, h.4⟩
  unstage _ h := ⟨h.1, h.2, h.3.mono (by simp +contextual), h.4⟩
  unback _ h := ⟨h.1, h.2, h.3.mono (by simp +contextual), fun _ => rfl⟩
  unlockFd _ h := ⟨h.1, h.2, h.3, h.4⟩
  unlockIdentity _ h := ⟨h.1, nofun, h.3, h.4⟩
  fill _ _ _ h hname := ⟨(World.find_fill (h.3 _ hname).2.symm).trans h.1, by simpa using h.2,
    h.3.mono (by simp), by simpa using h.4⟩
  drop _ _ h hname := ⟨(World.find_drop (h.3 _ hname).2.symm).trans h.1, h.2, h.3, h.4⟩
  unlock _ found h hfind hown := by
    obtain rfl := Option.some.inj (h.1.symm.trans hfind)
    exact absurd hown h.2
  backup _ h hc := h.4 hc

-- ---------------------------------------------------------------------------
-- Entering
-- ---------------------------------------------------------------------------

/-- A publisher that has done nothing yet to the parent directory. -/
structure Idle (d : Disk) (w : World) : Prop where
  entries : ∀ name, w.find name = d.find name
  fresh : d.nextInode ≤ w.nextInode
  committed : w.committed = false
  backup : w.backup = none
  staging : w.staging = none
  lockFd : w.lockFd = none
  lockIdentity : w.lockIdentity = none

theorem Disk.idle (d : Disk) : Idle d d.world := ⟨fun _ => rfl, Nat.le_refl _, rfl, rfl, rfl, rfl, rfl⟩

/-- The staging directory is in place, and the lock was taken before it. -/
structure Staged (p : Publisher) (d : Disk) (name : String) (w : World) : Prop where
  beside : Beside p name
  absent : d.find name = none
  directory : ∃ inode tree, d.nextInode ≤ inode ∧ w.find name = some ⟨inode, .directory tree⟩
  held : ∃ own, w.lockFd = some own ∧ w.lockIdentity = some own
  lock : ∀ entry, w.find p.lockName = some entry → ∃ leaf, entry.node = .leaf leaf

/-- Only the lock and the staging directory are new in the parent directory. -/
structure Unpublished (p : Publisher) (d : Disk) (w : World) : Prop where
  committed : w.committed = false
  backup : w.backup = none
  fresh : d.nextInode ≤ w.nextInode
  others : ∀ name, name ≠ p.lockName → w.staging ≠ some name → w.find name = d.find name
  staged : ∀ name, w.staging = some name → Staged p d name w

theorem Unpublished.old (h : Unpublished p d w) : Old p d w where
  committed := h.committed
  backup := h.backup
  named name hname := (h.staged name (hname.resolve_right (by simp [h.backup]))).beside
  target := h.others _ (lockName_ne_name p).symm fun hs => (h.staged _ hs).beside.1 rfl

theorem Unpublished.anchor (h : Unpublished p d w) (anchored : Bool) :
    Unpublished p d { w with anchored := anchored } :=
  ⟨h.1, h.2, h.3, h.4, fun name hs => ⟨(h.5 name hs).1, (h.5 name hs).2, (h.5 name hs).3,
    (h.5 name hs).4, (h.5 name hs).5⟩⟩

theorem Idle.unpublished (h : Idle d w) : Unpublished p d w where
  committed := h.committed
  backup := h.backup
  fresh := h.fresh
  others name _ _ := h.entries name
  staged _ hs := absurd (h.staging.symm.trans hs) nofun

theorem Idle.rival {entry : Entry} (h : Idle d w) (hlock : d.find p.lockName = some entry) :
    Rival p entry w where
  lock := (h.entries _).trans hlock
  foreign := by simp [h.lockIdentity]
  named name hname := by simp [h.staging, h.backup] at hname
  backup _ := h.backup

theorem keeps_prepare (p : Publisher) : (prepare p).Keeps (Idle d) := by
  have hanchor : ∀ w anchored, Idle d w → Idle d { w with anchored := anchored } :=
    fun w _ h => ⟨h.1, h.2, h.3, h.4, h.5, h.6, h.7⟩
  have hparents : ∀ n, (makeParents n).Keeps (Idle d) := by
    intro n
    induction n with
    | zero => exact keeps_touch
    | succ n ih =>
      exact ih.bind fun _ => keeps_modify fun w h => ⟨h.1, h.2, h.3, h.4, h.5, h.6, h.7⟩
  refine (keeps_assertSafeTarget p).bind fun _ => (keeps_read _).bind fun n =>
    (hparents n).bind fun _ => (keeps_assertSafeTarget p).bind fun _ => ?_
  refine (keeps_modify fun w h => ⟨h.1, h.2, h.3, h.4, h.5, h.6, h.7⟩).bind fun _ =>
    keeps_touch.bind fun _ => (keeps_openParentAnchor hanchor).bind fun _ =>
    (keeps_validateParentAnchor hanchor).bind fun _ => ?_
  refine (keeps_targetExists hanchor p).bind fun _ =>
    .ite (fun _ => (keeps_raise _).bind fun _ => ?_) fun _ => ?_
  all_goals
    refine (keeps_openParentAnchor hanchor).bind fun _ => (keeps_statEntry _).bind fun entry => ?_
    rcases entry with _ | ⟨_, _ | _ | _ | _⟩
    · exact keeps_openParentAnchor hanchor
    · exact (keeps_raise _).bind fun _ => keeps_openParentAnchor hanchor
    · exact keeps_openParentAnchor hanchor
    · exact (keeps_raise _).bind fun _ => keeps_openParentAnchor hanchor
    · exact (keeps_raise _).bind fun _ => keeps_openParentAnchor hanchor

-- ---------------------------------------------------------------------------
-- The lock and the staging directory
-- ---------------------------------------------------------------------------

/-- The lock is taken; the staging directory is still to come. -/
structure Locked (p : Publisher) (d : Disk) (w : World) : Prop where
  unpublished : Unpublished p d w
  staging : w.staging = none
  held : ∃ own, w.lockFd = some own ∧ w.lockIdentity = some own
  lock : ∀ entry, w.find p.lockName = some entry → ∃ leaf, entry.node = .leaf leaf

theorem Locked.anchor (h : Locked p d w) (anchored : Bool) :
    Locked p d { w with anchored := anchored } :=
  ⟨h.1.anchor anchored, h.2, h.3, h.4⟩

theorem takeLock_wp (h : Idle d w) : (takeLock p).wp (fun _ => Locked p d)
    (fun _ => Unpublished p d) (Unpublished p d) w := by
  rw [takeLock, wp_bind, openLock, wp_op]
  refine ⟨h.unpublished, fun _ => h.unpublished, fun _ w' hop => ?_, fun _ _ => h.unpublished⟩
  cases hfind : w.find p.lockName with
  | some entry => simp only [hfind] at hop; exact absurd hop nofun
  | none =>
    simp only [hfind] at hop
    obtain ⟨-, rfl⟩ := Prod.mk.inj (Except.ok.inj hop)
    have hothers : ∀ name, name ≠ p.lockName →
        (w.create p.lockName (.leaf (.file []))).find name = d.find name := fun name hne =>
      (World.find_create hne).trans (h.entries name)
    have hopen : ∀ identity, Unpublished p d
        { w.create p.lockName (.leaf (.file [])) with
          lockFd := some w.nextInode, lockIdentity := identity } := fun identity =>
      ⟨h.committed, h.backup, Nat.le_succ_of_le h.fresh, fun name hne _ => hothers name hne,
        fun name hs => absurd (h.staging.symm.trans hs) nofun⟩
    rw [wp_bind, wp_modify]
    refine ⟨hopen w.lockIdentity, fun _ => hopen w.lockIdentity, ?_⟩
    have hlocked : Locked p d { w.create p.lockName (.leaf (.file [])) with
        lockFd := some w.nextInode, lockIdentity := some w.nextInode } := by
      refine ⟨hopen _, h.staging, ⟨_, rfl, rfl⟩, fun entry he => ⟨.file [], ?_⟩⟩
      obtain rfl := Option.some.inj (World.find_create_self.symm.trans he)
      rfl
    have hkeeps : (do
        touch
        touch
        validateParentAnchor : Steps Unit).Keeps (Locked p d) :=
      keeps_touch.bind fun _ => keeps_touch.bind fun _ =>
        keeps_validateParentAnchor fun w b h => h.anchor b
    exact hkeeps.wp hlocked (fun _ _ => id) (fun _ _ => Locked.unpublished) fun _ =>
      Locked.unpublished

theorem mkdirStaging_wp (h : Locked p d w) (hname : Beside p name) :
    (mkdirStaging name).wp
      (fun made w' => if made then Unpublished p d w' ∧ w'.staging = some name else Locked p d w')
      (fun _ => Unpublished p d) (Unpublished p d) w := by
  have hhandler : ∀ e : Failure, (if e.kind = .fileExists then pure false else .raise e :
      Steps Bool).wp
        (fun made w' => if made then Unpublished p d w' ∧ w'.staging = some name else Locked p d w')
        (fun _ => Unpublished p d) (Unpublished p d) w := by
    intro e
    split
    · exact h
    · exact h.unpublished
  rw [mkdirStaging, wp_handle, wp_op]
  refine ⟨h.unpublished, hhandler, fun made w' hop => ?_, fun e _ => hhandler e⟩
  cases hfind : w.find name with
  | some entry => simp only [hfind] at hop; exact absurd hop nofun
  | none =>
    simp only [hfind] at hop
    obtain ⟨rfl, rfl⟩ := Prod.mk.inj (Except.ok.inj hop)
    have hu := h.unpublished
    have hfound : ∀ other, other ≠ name → (w.create name (.directory .empty)).find other =
        w.find other := fun other hne => World.find_create hne
    refine ⟨⟨hu.committed, hu.backup, Nat.le_succ_of_le hu.fresh, ?_, ?_⟩, rfl⟩
    · intro other hlock hne
      exact (hfound other fun heq => hne (congrArg some heq.symm)).trans
        (hu.others other hlock (by simp [h.staging]))
    · intro other hs
      obtain rfl := Option.some.inj hs
      refine ⟨hname, ?_, ⟨w.nextInode, .empty, hu.fresh, World.find_create_self⟩, h.held, ?_⟩
      · exact (hu.others _ hname.2 (by simp [h.staging])).symm.trans hfind
      · intro entry he
        exact h.lock entry ((hfound _ hname.2.symm).symm.trans he)

theorem makeStaging_wp (n : Nat) (h : Locked p d w) : (makeStaging p n).wp
    (fun name w' => Unpublished p d w' ∧ w'.staging = some name)
    (fun _ => Unpublished p d) (Unpublished p d) w := by
  induction n generalizing w with
  | zero => exact h.unpublished
  | succ n ih =>
    rw [makeStaging, wp_bind, wp_op]
    refine ⟨h.unpublished, fun _ => h.unpublished, fun name w' hop => ?_, fun _ _ => h.unpublished⟩
    obtain ⟨rfl, rfl⟩ := Prod.mk.inj (Except.ok.inj hop)
    have hdraw : Locked p d { w with draws := w.draws + 1 } :=
      ⟨⟨h.1.1, h.1.2, h.1.3, h.1.4, fun name hs => absurd (h.staging.symm.trans hs) nofun⟩,
        h.2, h.3, h.4⟩
    refine (keeps_openParentAnchor fun w b h => h.anchor b).wp_bind hdraw (fun _ w' hw' => ?_)
      (fun _ _ => Locked.unpublished) fun _ => Locked.unpublished
    rw [wp_bind]
    refine wp_mono (mkdirStaging_wp hw' (stagingName_beside p _)) (fun made w'' hw'' => ?_)
      (fun _ _ => id) fun _ => id
    cases made with
    | true => exact hw''
    | false => exact ih hw''

theorem enterSteps_wp (p : Publisher) (d : Disk) : (enterSteps p).wp
    (fun name w => Unpublished p d w ∧ w.staging = some name)
    (fun _ => Unpublished p d) (Unpublished p d) d.world := by
  refine (keeps_prepare p).wp_bind d.idle (fun _ w hw => ?_) (fun _ _ => Idle.unpublished)
    fun _ => Idle.unpublished
  rw [wp_bind]
  refine wp_mono (takeLock_wp hw) (fun _ w hw => ?_) (fun _ _ => id) fun _ => id
  rw [wp_bind]
  refine wp_mono (makeStaging_wp 128 hw) (fun name w hw => ?_) (fun _ _ => id) fun _ => id
  have hanchor : ∀ w anchored, Unpublished p d w ∧ w.staging = some name →
      Unpublished p d { w with anchored := anchored } ∧ w.staging = some name :=
    fun w anchored h => ⟨h.1.anchor anchored, h.2⟩
  refine (keeps_validateParentAnchor hanchor).wp_bind hw (fun _ w hw => ?_) (fun _ _ => And.left)
    fun _ => And.left
  exact keeps_touch.wp_bind hw (fun _ _ => id) (fun _ _ => And.left) fun _ => And.left

/-- To enter is to have a staging directory, or to leave the target as it was. -/
theorem enter_wp (p : Publisher) (d : Disk) : (enter p).wp
    (fun name w => Unpublished p d w ∧ w.staging = some name)
    (fun _ => Old p d) (Old p d) d.world := by
  rw [enter, wp_handle]
  refine wp_mono (enterSteps_wp p d) (fun _ _ => id) (fun e w hw => ?_) fun _ => Unpublished.old
  exact old_robust.abortEnter_wp hw.old e

end

end Paic.Artifacts
