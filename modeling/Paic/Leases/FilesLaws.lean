import Paic.Leases.Files

/-!
# The table of descriptors

Every function of the operating system leaves the open descriptors as they
are, returning or raising, but for those that acquire one and the release
of one. An acquisition that fails leaves none behind.
-/

namespace Paic.Leases

open Routine

/-- Returning or raising, no descriptor is opened or closed. -/
abbrev Quiet (m : SysM α) : Prop := Keeps Sys.table m

theorem quiet_call (f : Kernel → Except OsError α) : Quiet (call f) := by
  intro sys
  unfold After call
  cases f sys.kernel <;> rfl

theorem quiet_ask (f : Kernel → α) : Quiet (ask f) := quiet_call _

theorem quiet_wrapping {m : SysM α} (h : Quiet m) (caught : Exc → Bool) (wrapped : Exc → Exc) :
    Quiet (wrapping caught wrapped m) :=
  keeps_handle h fun _ => keeps_throw

theorem quiet_validateParentPath (parent : Path) : Quiet (validateParentPath parent) := by
  unfold validateParentPath
  induction ancestors parent with
  | nil => exact keeps_pure
  | cons current rest ih =>
    rw [List.forM_eq_forM, List.forM_cons]
    refine keeps_bind (keeps_handle (keeps_bind (quiet_call _) fun _ => keeps_raiseIf) ?_)
      fun _ => ih
    intro exc
    split
    · exact keeps_pure
    · exact keeps_throw

theorem quiet_validateParentInfo (info : Stat) : Quiet (validateParentInfo info) :=
  keeps_bind keeps_raiseIf fun _ => keeps_bind (quiet_ask _) fun _ => keeps_raiseIf

theorem quiet_entryIsReplaceable (path : Path) : Quiet (entryIsReplaceable path) := by
  refine keeps_ite (fun _ => keeps_pure) fun _ => ?_
  refine keeps_bind (quiet_wrapping ?_ _ _) fun _ => keeps_bind (quiet_ask _) fun _ => ?_
  · exact keeps_bind (quiet_call _) fun _ => keeps_bind (quiet_call _) fun _ => keeps_pure
  · exact keeps_ite (fun _ => keeps_pure) fun _ =>
      keeps_ite (fun _ => quiet_ask _) fun _ => keeps_pure

theorem quiet_stableDomain (parent : Path) : Quiet (stableDomain parent) := by
  unfold stableDomain
  generalize parent.length = turns
  induction turns generalizing parent with
  | zero => exact keeps_pure
  | succ turns ih =>
    refine keeps_ite (fun _ => keeps_bind (quiet_entryIsReplaceable _) fun _ => ?_) fun _ => keeps_pure
    exact keeps_ite (fun _ => ih _) fun _ => keeps_pure

theorem quiet_makeParent (parent : Path) : Quiet (makeParent parent) :=
  quiet_wrapping (quiet_call _) _ _

theorem quiet_revalidateDirectory (path : Path) (fd : Nat) (expected : Stat) (message : String) :
    Quiet (revalidateDirectory path fd expected message) := by
  refine keeps_bind (quiet_wrapping ?_ _ _) fun _ => keeps_raiseIf
  exact keeps_bind (quiet_validateParentPath _) fun _ => keeps_bind (quiet_call _) fun _ =>
    keeps_bind (quiet_call _) fun _ => keeps_pure

theorem quiet_coordinationFile (directoryFd : Nat) (name : String) :
    Quiet (coordinationFile directoryFd name) := by
  refine keeps_handle ?_ fun exc => ?_
  · exact keeps_bind (quiet_call _) fun _ => keeps_bind keeps_raiseIf fun _ =>
      keeps_bind (quiet_ask _) fun _ => keeps_bind keeps_raiseIf fun _ => keeps_pure
  · split
    · exact keeps_pure
    · exact keeps_throw

theorem quiet_revalidateLockFile (directoryPath : Path) (directoryFd : Nat) (path : Path)
    (fd : Nat) (directoryInfo : Stat) :
    Quiet (revalidateLockFile directoryPath directoryFd path fd directoryInfo) := by
  refine keeps_bind (quiet_wrapping ?_ _ _) fun _ => keeps_bind (quiet_ask _) fun _ => keeps_raiseIf
  exact keeps_bind (quiet_call _) fun _ => keeps_bind (quiet_call _) fun _ =>
    keeps_bind (quiet_call _) fun _ => keeps_bind (quiet_call _) fun _ => keeps_pure

theorem quiet_readIdentity (fd : Nat) : Quiet (readIdentity fd) := by
  refine keeps_bind (quiet_wrapping (quiet_call _) _ _) fun raw => keeps_bind keeps_raiseIf fun _ => ?_
  refine keeps_ite (fun _ => keeps_pure) fun _ => ?_
  split
  · exact keeps_pure
  · exact keeps_throw

theorem quiet_writeIdentity (fd : Nat) (value : Identity) : Quiet (writeIdentity fd value) :=
  quiet_wrapping (quiet_call _) _ _

theorem quiet_lock (fd : Nat) (exclusive : Bool) (timeoutSeconds : Option Rat) (phase : String) :
    Quiet (lock fd exclusive timeoutSeconds phase) := by
  cases timeoutSeconds with
  | none => exact quiet_wrapping (quiet_call _) _ _
  | some seconds =>
    refine keeps_bind keeps_raiseIf fun _ => keeps_bind (quiet_ask _) fun poll => ?_
    cases poll
    · exact keeps_pure
    · exact keeps_throw
    · exact keeps_throw

-- ---------------------------------------------------------------------------
-- Opening and closing
-- ---------------------------------------------------------------------------

/-- The routine opens one descriptor, or raises and leaves none open. -/
def Opens (m : SysM α) (fd : α → Nat) : Prop :=
  ∀ sys, After m sys (fun a sys' => fd a ∉ sys.table ∧ sys'.table = fd a :: sys.table)
    fun _ sys' => sys'.table = sys.table

theorem opens_openDescriptor (target : Target) : Opens (openDescriptor target) id := by
  intro sys
  unfold After openDescriptor
  cases h : sys.kernel.opens target sys.table with
  | ok fd => exact ⟨sys.kernel.opens_fresh h, rfl⟩
  | error error => rfl

theorem after_close (fd : Nat) (sys : Sys) :
    After (close fd) sys (fun _ sys' => sys'.table = sys.table.erase fd)
      fun _ sys' => sys'.table = sys.table.erase fd := by
  unfold After close
  cases sys.kernel.close fd <;> rfl

/-- The table once a descriptor, if there is one, is closed. -/
def without (table : List Nat) : Option Nat → List Nat
  | none => table
  | some fd => table.erase fd

theorem after_releaseDescriptor (name : String) (fd : Option Nat) (locked : Bool) (sys : Sys) :
    After (releaseDescriptor name fd locked) sys (fun _ sys' => sys'.table = without sys.table fd)
      fun _ _ => False := by
  cases fd with
  | none => rfl
  | some fd =>
    have hclose : ∀ (unlocked : Except Exc Unit) (sys' : Sys), sys'.table = sys.table →
        After (attempt (close fd) >>= fun closed => pure (releaseError name unlocked closed)) sys'
          (fun _ sys'' => sys''.table = without sys.table (some fd)) fun _ _ => False := by
      intro unlocked sys' hsys
      rw [after_bind, after_attempt]
      exact (after_close fd sys').mono (fun _ _ h => hsys ▸ h) fun _ _ h => hsys ▸ h
    have hunlock : Quiet (onlyIf locked (call fun kernel => kernel.unlock fd)) :=
      keeps_ite (fun _ => quiet_call _) fun _ => keeps_pure
    rw [releaseDescriptor, after_bind, after_attempt]
    exact (hunlock sys).mono (fun _ sys' h => hclose _ sys' h) fun _ sys' h => hclose _ sys' h

theorem after_abandon (name : String) (fd : Option Nat) (exc : Exc) (sys : Sys)
    {Q : α → Sys → Prop} :
    After (abandon name fd exc) sys Q fun _ sys' => sys'.table = without sys.table fd := by
  rw [abandon, after_bind]
  refine (after_releaseDescriptor name fd false sys).mono (fun error sys' h => ?_) fun _ _ => False.elim
  cases error with
  | none => exact h
  | some error => exact h

theorem opens_acquiring {before : SysM α} {target : α → Target} {check : α → Nat → SysM β}
    {fdOf : β → Nat} (hbefore : Quiet before)
    (hcheck : ∀ a fd sys, After (check a fd) sys (fun b sys' => fdOf b = fd ∧ sys'.table = sys.table)
      fun _ sys' => sys'.table = sys.table)
    (name : String) (wrapped : Exc → Exc) :
    Opens (acquiring name wrapped before target check) fdOf := by
  intro sys
  rw [acquiring, after_handle, after_bind]
  have hlast : ∀ (e : Exc) (sys' : Sys), sys'.table = sys.table →
      After (if e.isOs then abandon name none (wrapped e) else throw e) sys'
        (fun b sys' => fdOf b ∉ sys.table ∧ sys'.table = fdOf b :: sys.table)
        fun _ sys' => sys'.table = sys.table := by
    intro e sys' h
    split
    · exact (after_abandon name none _ sys').mono (fun _ _ h => h) fun _ _ h' => h'.trans h
    · exact h
  refine (hbefore sys).mono (fun a sys₁ h₁ => ?_) hlast
  rw [after_bind]
  refine (opens_openDescriptor (target a) sys₁).mono ?_ fun e sys₂ h₂ => hlast e sys₂ (h₂.trans h₁)
  rintro fd sys₂ ⟨hfresh, h₂⟩
  rw [h₁, id] at hfresh h₂
  rw [after_handle]
  refine (hcheck a fd sys₂).mono (fun b sys₃ h₃ => ⟨?_, ?_⟩) fun e sys₃ h₃ => ?_
  · rw [h₃.1]
    exact hfresh
  · rw [h₃.1, h₃.2, h₂]
  · refine (after_abandon name (some fd) _ sys₃).mono (fun _ _ h => h) fun e' sys₄ h₄ => ?_
    refine hlast e' sys₄ (h₄.trans ?_)
    rw [h₃, h₂]
    exact List.erase_cons_head fd sys.table

theorem opens_openDirectory (path : Path) (isPrivate : Bool) :
    Opens (openDirectory path isPrivate) Prod.fst := by
  intro sys
  rw [openDirectory, after_bind]
  refine (quiet_validateParentPath path sys).mono (fun _ sys₁ h₁ => ?_) fun _ _ h => h
  rw [← h₁]
  refine opens_acquiring keeps_pure (fun _ fd sys₂ => ?_) _ _ sys₁
  rw [after_bind]
  refine (quiet_call _ sys₂).mono (fun info sys₃ h₃ => ?_) fun _ _ h => h
  have hchecked : Quiet (validateOpened isPrivate info) :=
    keeps_ite (fun _ => quiet_validateParentInfo info) fun _ => keeps_raiseIf
  rw [after_bind]
  refine (hchecked sys₃).mono (fun _ sys₄ h₄ => ?_) fun _ _ h => h.trans h₃
  rw [after_bind]
  refine (quiet_call _ sys₄).mono (fun current sys₅ h₅ => ?_) fun _ _ h => (h.trans h₄).trans h₃
  have h : sys₅.table = sys₂.table := (h₅.trans h₄).trans h₃
  rw [after_bind, after_raiseIf]
  exact ⟨fun _ => h, fun _ => ⟨rfl, h⟩⟩

theorem opens_openParent (parent : Path) : Opens (openParent parent) Prod.fst := by
  intro sys
  rw [openParent, after_bind]
  refine (quiet_validateParentPath parent sys).mono (fun _ sys₁ h₁ => ?_) fun _ _ h => h
  rw [after_bind]
  refine (quiet_makeParent parent sys₁).mono (fun _ sys₂ h₂ => ?_) fun _ _ h => h.trans h₁
  rw [← h₁, ← h₂]
  exact opens_openDirectory parent true sys₂

theorem quiet_validateLockFile (directoryFd : Nat) (name : String) (directoryInfo : Stat)
    (before : Option Stat) (fd : Nat) :
    Quiet (validateLockFile directoryFd name directoryInfo before fd) :=
  keeps_bind (quiet_call _) fun _ => keeps_bind (quiet_ask _) fun _ =>
    keeps_bind keeps_raiseIf fun _ => keeps_bind (quiet_call _) fun _ =>
    keeps_bind (quiet_call _) fun _ => keeps_bind keeps_raiseIf fun _ => keeps_raiseIf

theorem opens_openLockFile (directoryFd : Nat) (path : Path) (directoryInfo : Stat) :
    Opens (openLockFile directoryFd path directoryInfo) id := by
  refine opens_acquiring (quiet_coordinationFile _ _) (fun before fd sys => ?_) _ _
  rw [after_bind]
  exact (quiet_validateLockFile _ _ _ _ _ sys).mono (fun _ _ h => ⟨rfl, h⟩) fun _ _ h => h

end Paic.Leases
