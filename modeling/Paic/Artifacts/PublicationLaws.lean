import Paic.Artifacts.Publication
import Paic.Lib.Parts

/-!
# What the publisher's parts keep

`Robust` says of an invariant what leaving a publication may do to it;
whatever is robust outlives `__exit__` with any faults.
-/

namespace Paic.Artifacts

open Entries (without placed lookup_without lookup_without_self lookup_placed lookup_placed_self
  without_placed)
open Prog (op read modify touch Keeps keeps_pure keeps_raise keeps_op keeps_read keeps_modify
  keeps_touch wp_bind wp_handle wp_op wp_read wp_modify wp_touch wp_mono wp_pure wp_raise)

-- ---------------------------------------------------------------------------
-- The names
-- ---------------------------------------------------------------------------

theorem lockName_ne_name (p : Publisher) : p.lockName ≠ p.name := by
  intro h
  have hl := congrArg String.length h
  simp only [Publisher.lockName, String.length_append] at hl
  have : ".lock".length = 5 := by decide
  omega

theorem stagingName_ne_name (p : Publisher) (draw : Nat) : p.stagingName draw ≠ p.name := by
  intro h
  have hl := congrArg String.length h
  simp only [Publisher.stagingName, String.length_append] at hl
  have : ".staging-".length = 9 := by decide
  omega

theorem stagingName_ne_lockName (p : Publisher) (draw : Nat) :
    p.stagingName draw ≠ p.lockName := by
  intro h
  have hl := congrArg String.toList h
  simp only [Publisher.stagingName, Publisher.lockName, String.toList_append, List.append_assoc,
    List.append_cancel_left_eq] at hl
  exact absurd (congrArg (fun l => l[1]?) hl) (by simp)

/-- A name for a directory beside the target and its lock. -/
def Beside (p : Publisher) (name : String) : Prop := name ≠ p.name ∧ name ≠ p.lockName

theorem stagingName_beside (p : Publisher) (draw : Nat) : Beside p (p.stagingName draw) :=
  ⟨stagingName_ne_name p draw, stagingName_ne_lockName p draw⟩

-- ---------------------------------------------------------------------------
-- Finding entries
-- ---------------------------------------------------------------------------

namespace World
variable {w : World} {name other : String} {left : Tree}

@[simp] theorem find_put_self : (w.put name entry).find name = some entry := lookup_placed_self

theorem find_put (h : other ≠ name) : (w.put name entry).find other = w.find other :=
  lookup_placed h

@[simp] theorem find_drop_self : (w.drop name).find name = none := lookup_without_self

theorem find_drop (h : other ≠ name) : (w.drop name).find other = w.find other :=
  lookup_without h

@[simp] theorem find_create_self : (w.create name node).find name = some ⟨w.nextInode, node⟩ :=
  lookup_placed_self

theorem find_create (h : other ≠ name) : (w.create name node).find other = w.find other :=
  lookup_placed h

theorem find_fill (h : other ≠ name) : (w.fill name left).find other = w.find other := by
  unfold fill
  split
  · exact find_put h
  · rfl

theorem fill_of_directory (h : w.find name = some ⟨inode, .directory t⟩) :
    w.fill name left = w.put name ⟨inode, .directory left⟩ := by
  simp only [fill, h]

@[simp] theorem fill_committed : (w.fill name left).committed = w.committed := by
  unfold fill
  split <;> rfl

@[simp] theorem fill_lockFd : (w.fill name left).lockFd = w.lockFd := by
  unfold fill
  split <;> rfl

@[simp] theorem fill_lockIdentity : (w.fill name left).lockIdentity = w.lockIdentity := by
  unfold fill
  split <;> rfl

@[simp] theorem fill_nextInode : (w.fill name left).nextInode = w.nextInode := by
  unfold fill
  split <;> rfl

theorem find_fill_self (h : w.find name = some ⟨inode, .directory t⟩) :
    (w.fill name left).find name = some ⟨inode, .directory left⟩ := by
  rw [fill_of_directory h]
  exact find_put_self

theorem drop_fill : (w.fill name left).drop name = w.drop name := by
  unfold fill
  split
  · simp only [put, drop, without_placed]
  · rfl

@[simp] theorem fill_staging : (w.fill name left).staging = w.staging := by
  unfold fill
  split <;> rfl

@[simp] theorem fill_backup : (w.fill name left).backup = w.backup := by
  unfold fill
  split <;> rfl

end World

-- ---------------------------------------------------------------------------
-- Parts that leave the entries alone
-- ---------------------------------------------------------------------------

section
variable {I : World → Prop}

theorem keeps_collecting {q : Steps Unit} {caught : Failure → Option Failure} (h : q.Keeps I) :
    (collecting q caught).Keeps I := by
  refine (h.bind fun _ => keeps_pure _).handle fun e => ?_
  cases caught e with
  | none => exact keeps_raise _
  | some failure => exact keeps_pure _

theorem keeps_wrapping {q : Steps α} {wrap : Failure → Failure} (h : q.Keeps I) :
    (wrapping q wrap).Keeps I := h.handle fun _ => keeps_raise _

theorem keeps_raiseCleanupErrors (errors : List Failure) : (raiseCleanupErrors errors).Keeps I := by
  cases errors with
  | nil => exact keeps_pure _
  | cons first later => exact keeps_raise _

theorem keeps_fsyncPayloadTree (tree : Tree) : (fsyncPayloadTree tree).Keeps I := by
  induction tree with
  | empty => exact keeps_touch.bind fun _ => keeps_touch
  | leaf name leaf rest ih =>
    refine keeps_touch.bind fun _ => ?_
    cases leaf with
    | file content => exact keeps_touch.bind fun _ => keeps_touch.bind fun _ => ih
    | symlink | other => exact (keeps_raise _).bind fun _ => ih
  | directory name inside rest ihi ihr =>
    exact keeps_touch.bind fun _ => ihi.bind fun _ => ihr

theorem keeps_statEntry (name : String) : (statEntry name).Keeps I :=
  (keeps_read _).handle fun _ => .ite (fun _ => keeps_pure _) fun _ => keeps_raise _

theorem keeps_assertSafeTarget (p : Publisher) : (assertSafeTarget p).Keeps I := keeps_read _

variable (anchor : ∀ w anchored, I w → I { w with anchored := anchored })
include anchor

theorem keeps_openParentAnchor : openParentAnchor.Keeps I := by
  refine (keeps_read _).bind fun anchored => .ite (fun _ => keeps_pure _) fun _ => ?_
  refine (keeps_touch.handle fun _ => keeps_raise _).bind fun _ => ?_
  refine Keeps.handle ?_ fun e => ?_
  · exact keeps_touch.bind fun _ => keeps_touch.bind fun _ => keeps_modify fun w h => anchor w _ h
  · exact (keeps_collecting keeps_touch).bind fun _ => keeps_raise _

theorem keeps_validateParentAnchor : validateParentAnchor.Keeps I := by
  refine (keeps_openParentAnchor anchor).bind fun _ => ?_
  refine (keeps_wrapping keeps_touch).bind fun _ => (keeps_wrapping keeps_touch).bind fun _ => ?_
  exact (keeps_read _).bind fun leased => .ite (fun _ => keeps_touch) fun _ => keeps_pure _

theorem keeps_closeParentAnchor : closeParentAnchor.Keeps I := by
  refine Keeps.bind (keeps_op ?_) fun anchored =>
    .ite (fun _ => keeps_wrapping keeps_touch) fun _ => keeps_pure _
  intro w b w' h heq
  obtain ⟨-, rfl⟩ := Prod.mk.inj (Except.ok.inj heq)
  exact anchor w _ h

theorem keeps_targetExists (p : Publisher) : (targetExists p).Keeps I := by
  refine (keeps_openParentAnchor anchor).bind fun _ => (keeps_statEntry _).bind fun entry => ?_
  match entry with
  | none => exact keeps_pure _
  | some ⟨_, .leaf _⟩ => exact keeps_raise _
  | some ⟨_, .directory _⟩ => exact keeps_pure _

end

theorem keeps_rmtree {J : World → Prop} (name : String) (fill : ∀ w tree, J w → J (w.fill name tree))
    (drop : ∀ w, J w → J (w.drop name)) : (rmtree name).Keeps J := by
  have hfill : ∀ trees, (fillAll name trees).Keeps J := by
    intro trees
    induction trees with
    | nil => exact keeps_pure _
    | cons tree rest ih => exact (keeps_modify fun w h => fill w tree h).bind fun _ => ih
  exact (keeps_read _).bind fun _ => (hfill _).bind fun _ => keeps_modify drop

/-- A look at an entry sees it, sees nothing, or raises. -/
theorem statEntry_wp (hq : Q (w.find name) w) (hnone : Q none w) (he : ∀ e, E e w) (hc : C w) :
    (statEntry name).wp Q E C w := by
  rw [statEntry, wp_handle, wp_read]
  refine ⟨hc, fun e => ?_, fun entry h => ?_⟩
  · split
    · exact hnone
    · exact he _
  · obtain rfl := Except.ok.inj h
    exact hq

-- ---------------------------------------------------------------------------
-- Leaving
-- ---------------------------------------------------------------------------

/-- What may happen to the world once the new tree is in place or given up. -/
structure Robust (p : Publisher) (I : World → Prop) : Prop where
  anchor : ∀ w anchored, I w → I { w with anchored := anchored }
  lease : ∀ w leased, I w → I { w with leased := leased }
  durable : ∀ w, I w → I { w with durabilityConfirmed := true }
  unstage : ∀ w, I w → I { w with staging := none }
  unback : ∀ w, I w → I { w with backup := none }
  unlockFd : ∀ w, I w → I { w with lockFd := none }
  unlockIdentity : ∀ w, I w → I { w with lockIdentity := none }
  fill : ∀ w name tree, I w → w.staging = some name ∨ w.backup = some name → I (w.fill name tree)
  drop : ∀ w name, I w → w.staging = some name ∨ w.backup = some name → I (w.drop name)
  unlock : ∀ w entry, I w → w.find p.lockName = some entry → w.lockIdentity = some entry.inode →
    I (w.drop p.lockName)
  backup : ∀ w, I w → w.committed = false → w.backup = none

section
variable {p : Publisher} {I : World → Prop} (h : Robust p I)
include h

theorem Robust.keeps_removeStaging : removeStaging.Keeps I := by
  have hunstage : (modify fun w => { w with staging := none } : Steps Unit).Keeps I :=
    keeps_modify h.unstage
  intro w hw
  rw [removeStaging, wp_bind, wp_read]
  refine ⟨hw, fun _ => hw, fun staging hs => ?_⟩
  have hs : w.staging = staging := Except.ok.inj hs
  cases staging with
  | none => exact hw
  | some name =>
    have hrm : (rmtree name).Keeps fun w => I w ∧ w.staging = some name :=
      keeps_rmtree name (fun w tree hw => ⟨h.fill w name tree hw.1 (.inl hw.2), by simpa using hw.2⟩)
        fun w hw => ⟨h.drop w name hw.1 (.inl hw.2), hw.2⟩
    refine hrm.attempt.wp_bind ⟨hw, hs⟩ (fun removed w' hw' => ?_) (fun _ _ => And.left)
      fun _ => And.left
    suffices hk : Keeps I _ from hk w' hw'.1
    cases removed with
    | ok _ => exact hunstage.bind fun _ => keeps_pure _
    | error e =>
      exact .ite (fun _ => hunstage.bind fun _ => keeps_pure _) fun _ =>
        .ite (fun _ => keeps_pure _) fun _ => keeps_raise _

theorem Robust.keeps_restoreBackup (failed : Bool) : (restoreBackup p failed).Keeps I := by
  intro w hw
  rw [restoreBackup, wp_bind, wp_read]
  refine ⟨hw, fun _ => hw, fun fields hf => ?_⟩
  obtain rfl : (w.committed, w.backup) = fields := Except.ok.inj hf
  cases hc : w.committed with
  | true => exact hw
  | false =>
    rw [h.backup w hw hc]
    exact hw

theorem Robust.keeps_clear (failed : Bool) : (clear p failed).Keeps I :=
  h.keeps_removeStaging.bind fun _ =>
    ((h.keeps_restoreBackup failed).handle fun _ => keeps_pure _).bind fun _ => keeps_pure _

theorem Robust.keeps_unlink {entry : Entry} {w : World} (hw : I w)
    (hfind : w.find p.lockName = some entry) (hown : w.lockIdentity = some entry.inode) :
    (unlinkLock p).wp (fun _ => I) (fun _ => I) I w := by
  have hhandler : ∀ e : Failure, (if e.kind = .fileNotFound then pure []
      else if e.isOs then pure [publicationError "cannot remove artifact writer lock"]
      else .raise e : Steps (List Failure)).Keeps I := fun e =>
    .ite (fun _ => keeps_pure _) fun _ => .ite (fun _ => keeps_pure _) fun _ => keeps_raise _
  rw [unlinkLock, wp_handle, wp_op]
  refine ⟨hw, fun e => hhandler e w hw, ?_, fun e _ => hhandler e w hw⟩
  intro errors w' hop
  rw [hfind] at hop
  match entry, hop with
  | ⟨_, .leaf _⟩, hop =>
    obtain ⟨rfl, rfl⟩ := Prod.mk.inj (Except.ok.inj hop)
    exact h.unlock w _ hw hfind hown

theorem Robust.keeps_removeOwnLock : (removeOwnLock p).Keeps I := by
  refine (keeps_openParentAnchor h.anchor).bind fun _ =>
    (keeps_validateParentAnchor h.anchor).bind fun _ => ?_
  intro w hw
  rw [wp_bind]
  have hlook : ∀ current, current = w.find p.lockName ∨ current = none →
      (do
        let lockIdentity ← read fun w => .ok w.lockIdentity
        if current.isSome ∧ lockIdentity = current.map (·.inode) then unlinkLock p
        else pure [] : Steps (List Failure)).wp (fun _ => I) (fun _ => I) I w := by
    intro current hcurrent
    rw [wp_bind, wp_read]
    refine ⟨hw, fun _ => hw, fun identity hi => ?_⟩
    obtain rfl : w.lockIdentity = identity := Except.ok.inj hi
    split
    · next hown =>
      obtain ⟨entry, rfl⟩ := Option.isSome_iff_exists.mp hown.1
      exact h.keeps_unlink hw (hcurrent.resolve_right nofun).symm hown.2
    · exact hw
  exact statEntry_wp (hlook _ (.inl rfl)) (hlook _ (.inr rfl)) (fun _ => hw) hw

theorem Robust.keeps_releaseLock : (releaseLock p).Keeps I := by
  refine (keeps_read _).bind fun lockFd => ?_
  cases lockFd with
  | none => exact keeps_pure _
  | some fd =>
    refine (keeps_collecting keeps_touch).bind fun _ => (keeps_modify h.unlockFd).bind fun _ => ?_
    refine Keeps.bind (h.keeps_removeOwnLock.handle fun e => ?_) fun _ => ?_
    · exact .ite (fun _ => keeps_pure _) fun _ =>
        .ite (fun _ => keeps_pure _) fun _ => keeps_raise _
    · exact (keeps_modify h.unlockIdentity).bind fun _ => keeps_raiseCleanupErrors _

theorem Robust.keeps_leaveLease : leaveLease.Keeps I := by
  refine Keeps.bind (keeps_op ?_) fun leased => .ite (fun _ => keeps_touch) fun _ => keeps_pure _
  intro w b w' hw heq
  obtain ⟨-, rfl⟩ := Prod.mk.inj (Except.ok.inj heq)
  exact h.lease w _ hw

/-- Leaving keeps a robust invariant, whatever its operations raise. -/
theorem Robust.keeps_exit (bodyError : Option Failure) : (exit p bodyError).Keeps I := by
  refine ((h.keeps_clear _).handle fun _ => keeps_pure _).bind fun clearing => ?_
  refine (keeps_collecting h.keeps_releaseLock).bind fun releasing => ?_
  refine (keeps_collecting h.keeps_leaveLease).bind fun leaving => ?_
  refine (keeps_collecting (keeps_closeParentAnchor h.anchor)).bind fun closing => ?_
  cases bodyError with
  | none => exact (keeps_raiseCleanupErrors _).bind fun _ => keeps_pure _
  | some e => exact keeps_pure _

theorem Robust.abortEnter_wp {w : World} (hw : I w) (e : Failure) :
    (abortEnter p e >>= fun e => .raise (enterError p e) : Steps String).wp Q (fun _ => I) I w := by
  have habort : (abortEnter p e).Keeps I :=
    ((h.keeps_exit _).bind fun _ => keeps_pure _).handle fun _ => keeps_pure _
  exact habort.wp_bind hw (fun _ _ => id) (fun _ _ => id) fun _ => id

-- ---------------------------------------------------------------------------
-- After the rename, and after giving it up
-- ---------------------------------------------------------------------------

theorem Robust.keeps_removeBackup : removeBackup.Keeps I := by
  intro w hw
  rw [removeBackup, wp_bind, wp_read]
  refine ⟨hw, fun _ => hw, fun backup hb => ?_⟩
  have hb : w.backup = backup := Except.ok.inj hb
  cases backup with
  | none => exact hw
  | some name =>
    have hrm : (rmtree name).Keeps fun w => I w ∧ w.backup = some name :=
      keeps_rmtree name (fun w tree hw => ⟨h.fill w name tree hw.1 (.inr hw.2), by simpa using hw.2⟩)
        fun w hw => ⟨h.drop w name hw.1 (.inr hw.2), hw.2⟩
    refine hrm.wp_bind ⟨hw, hb⟩ (fun _ w' hw' => ?_) (fun _ _ => And.left) fun _ => And.left
    suffices hk : Keeps I _ from hk w' hw'.1
    exact (keeps_modify h.unback).bind fun _ =>
      (keeps_openParentAnchor h.anchor).bind fun _ => keeps_touch

theorem Robust.keeps_settle : settle.Keeps I :=
  keeps_touch.bind fun _ => (keeps_openParentAnchor h.anchor).bind fun _ =>
    (keeps_modify h.durable).bind fun _ => keeps_touch.bind fun _ =>
      h.keeps_removeBackup.bind fun _ => keeps_validateParentAnchor h.anchor

omit h in
/-- `rollback` raises, and its restoring branch is never taken: a backup is
there only of what is committed. -/
theorem rollback_wp {w : World} (hw : I w) (hb : w.committed = false → w.backup = none)
    (e : Failure) : (rollback p e).wp Q (fun _ => I) I w := by
  rw [rollback, wp_bind, wp_read]
  refine ⟨hw, fun _ => hw, fun fields hf => ?_⟩
  obtain rfl : (w.committed, w.backup) = fields := Except.ok.inj hf
  have hgiveUp : (do
      let state ← read fun w : World => Except.ok w.commitState
      .raise (publicationError s!"artifact publication failed ({state}): {e.text}") :
        Steps Unit).wp Q (fun _ => I) I w := by
    rw [wp_bind, wp_read]
    exact ⟨hw, fun _ => hw, fun _ _ => hw⟩
  cases hc : w.committed with
  | true => exact hgiveUp
  | false =>
    rw [hb hc]
    exact hgiveUp

end

end Paic.Artifacts
