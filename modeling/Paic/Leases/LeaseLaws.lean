import Paic.Leases.ActiveLaws
import Paic.Leases.FilesLaws

/-!
# Acquiring and releasing a lease

Until a lease becomes active it touches none of the four maps: `Pending`
holds through every step of the acquisition, whichever of them raises. Then
it is `Held`. Releasing leads from both back to the maps as they were, and
closes the descriptors the lease had opened.
-/

namespace Paic.Leases

open Routine

-- ---------------------------------------------------------------------------
-- The descriptors of a lease
-- ---------------------------------------------------------------------------

def holding (fd : Option Nat) (n : Nat) : Nat := if fd = some n then 1 else 0

@[simp] theorem holding_none (n : Nat) : holding none n = 0 := rfl

def ArtifactLease.holds (lease : ArtifactLease) (n : Nat) : Nat :=
  holding lease.rootFd n + holding lease.leaseFd n + holding lease.identityFd n +
    holding lease.parentFd n + holding lease.domainFd n + holding lease.gateFd n

theorem count_open (fd n : Nat) (table : List Nat) :
    (fd :: table).count n = holding (some fd) n + table.count n := by
  rw [List.count_cons, holding, Nat.add_comm]
  simp

theorem count_without (fd : Option Nat) (n : Nat) (table : List Nat) :
    (without table fd).count n = table.count n - holding fd n := by
  cases fd with
  | none => rfl
  | some fd =>
    rw [without, List.count_erase, holding]
    simp

theorem without_nodup {table : List Nat} (h : table.Nodup) (fd : Option Nat) :
    (without table fd).Nodup := by
  cases fd with
  | none => exact h
  | some fd => exact h.sublist List.erase_sublist

/-- The open descriptors are those of the lease and, each once, `frame`. -/
structure Owns (frame : Nat → Nat) (sys : Sys) (lease : ArtifactLease) : Prop where
  nodup : sys.table.Nodup
  count : ∀ n, sys.table.count n = lease.holds n + frame n

section
variable {frame : Nat → Nat} {sys sys' : Sys} {lease lease' : ArtifactLease}

theorem Owns.quiet (h : Owns frame sys lease) (hsys : sys'.table = sys.table)
    (hlease : ∀ n, lease'.holds n = lease.holds n) : Owns frame sys' lease' := by
  refine ⟨hsys ▸ h.nodup, fun n => ?_⟩
  rw [hsys, hlease]
  exact h.count n

theorem Owns.opened {fd : Nat} (h : Owns frame sys lease) (hfresh : fd ∉ sys.table)
    (hsys : sys'.table = fd :: sys.table)
    (hlease : ∀ n, lease'.holds n = lease.holds n + holding (some fd) n) :
    Owns frame sys' lease' := by
  refine ⟨hsys ▸ List.nodup_cons.mpr ⟨hfresh, h.nodup⟩, fun n => ?_⟩
  have hcount := h.count n
  rw [hsys, count_open, hlease]
  omega

theorem Owns.closed {fd : Option Nat} (h : Owns frame sys lease)
    (hsys : sys'.table = without sys.table fd)
    (hlease : ∀ n, lease.holds n = lease'.holds n + holding fd n) : Owns frame sys' lease' := by
  refine ⟨hsys ▸ without_nodup h.nodup fd, fun n => ?_⟩
  have hcount := h.count n
  rw [hlease] at hcount
  rw [hsys, count_without]
  omega

/-- A descriptor of the lease is not one of the frame. -/
theorem Owns.apart (h : Owns frame sys lease) {n : Nat} (hn : 0 < lease.holds n) : frame n = 0 := by
  have hcount := h.count n
  have hle := List.nodup_iff_count_le_one.mp h.nodup n
  omega

end

-- ---------------------------------------------------------------------------
-- A lease that is not active
-- ---------------------------------------------------------------------------

/-- The fields that only some steps of the acquisition set. -/
structure Kept where
  root : Path
  exclusive : Bool
  domainKey : Option Path
  parentInfo : Option Stat
  domainFd : Option Nat
  gateFd : Option Nat
  leaseFd : Option Nat
  identityFd : Option Nat

def ArtifactLease.kept (lease : ArtifactLease) : Kept :=
  ⟨lease.root, lease.exclusive, lease.domainKey, lease.parentInfo, lease.domainFd, lease.gateFd,
    lease.leaseFd, lease.identityFd⟩

structure Pending (base : Active) (frame : Nat → Nat) (kept : Kept) (scene : Scene) : Prop where
  maps : scene.maps = base
  active : scene.self.active = false
  reentrant : scene.self.reentrant = false
  parent : scene.self.parentInfo = none → scene.self.parentFd = none
  kept : scene.self.kept = kept
  owns : Owns frame scene.sys scene.self

section
variable {base : Active} {frame : Nat → Nat} {kept : Kept} {scene : Scene} {α : Type}

theorem after_quiet {m : SysM α} (hm : Quiet m) {Q : α → Scene → Prop} {E : Exc → Scene → Prop}
    (hq : ∀ a sys, sys.table = scene.sys.table → Q a { scene with sys := sys })
    (he : ∀ e sys, sys.table = scene.sys.table → E e { scene with sys := sys }) :
    After (system m) scene Q E := by
  rw [system, after_within]
  exact (hm scene.sys).mono (fun a sys h => hq a sys h) fun e sys h => he e sys h

theorem after_opens {m : SysM α} {fd : α → Nat} (hm : Opens m fd) {Q : α → Scene → Prop}
    {E : Exc → Scene → Prop}
    (hq : ∀ a sys, fd a ∉ scene.sys.table → sys.table = fd a :: scene.sys.table →
      Q a { scene with sys := sys })
    (he : ∀ e sys, sys.table = scene.sys.table → E e { scene with sys := sys }) :
    After (system m) scene Q E := by
  rw [system, after_within]
  exact (hm scene.sys).mono (fun a sys h => hq a sys h.1 h.2) fun e sys h => he e sys h

theorem Pending.quiet (h : Pending base frame kept scene) {sys : Sys}
    (hsys : sys.table = scene.sys.table) : Pending base frame kept { scene with sys := sys } :=
  { h with owns := h.owns.quiet hsys fun _ => rfl }

theorem pending_system {m : SysM α} (hm : Quiet m) :
    Maintains (Pending base frame kept) (system m) := fun _ h =>
  after_quiet hm (fun _ _ hsys => h.quiet hsys) fun _ _ hsys => h.quiet hsys

theorem pending_self : Maintains (Pending base frame kept) self := fun _ h => h

theorem pending_maps : Maintains (Pending base frame kept) maps := fun _ h => h

/-- An assignment to fields of the lease that no step but its own reads. -/
theorem pending_setSelf {f : ArtifactLease → ArtifactLease}
    (hf : ∀ lease, (f lease).active = lease.active ∧ (f lease).reentrant = lease.reentrant ∧
      (f lease).parentFd = lease.parentFd ∧ (f lease).rootFd = lease.rootFd ∧
      (f lease).kept = lease.kept) :
    Maintains (Pending base frame kept) (setSelf f) := by
  intro scene h
  obtain ⟨hactive, hreentrant, hparent, hroot, hkept⟩ := hf scene.self
  rw [after_setSelf]
  refine ⟨h.maps, hactive.trans h.active, hreentrant.trans h.reentrant, ?_, hkept.trans h.kept, ?_⟩
  all_goals simp only [ArtifactLease.kept, Kept.mk.injEq] at hkept
  · dsimp only
    rw [hkept.2.2.2.1, hparent]
    exact h.parent
  · refine h.owns.quiet rfl fun n => ?_
    simp only [ArtifactLease.holds, hroot, hparent, hkept]

theorem pending_validateCurrentParent : Maintains (Pending base frame kept) validateCurrentParent :=
  maintains_bind pending_self fun _ => maintains_bind maintains_need fun _ =>
    maintains_bind maintains_need fun _ => pending_system (quiet_revalidateDirectory _ _ _ _)

theorem pending_ensureParent (h : Pending base frame kept scene) :
    After ensureParent scene
      (fun _ scene' => ∃ info, Pending base frame { kept with parentInfo := some info } scene')
      fun _ scene' => Pending base frame kept scene' := by
  rw [ensureParent, after_bind, after_self, after_onlyIf]
  refine ⟨fun hc => ?_, fun hc => ?_⟩
  · have hnone : scene.self.parentFd = none := hc.elim id h.parent
    rw [after_bind]
    refine after_opens (opens_openParent _) (fun opened sys hfresh hsys => ?_)
      fun _ _ hsys => h.quiet hsys
    obtain ⟨fd, info⟩ := opened
    dsimp only
    rw [after_setSelf]
    refine ⟨info, h.maps, h.active, h.reentrant, nofun, ?_, h.owns.opened hfresh hsys fun n => ?_⟩
    · rw [← h.kept]
      rfl
    · simp only [ArtifactLease.holds, hnone, holding_none]
      omega
  · obtain ⟨info, hinfo⟩ := Option.ne_none_iff_exists'.mp fun hnone => hc (.inr hnone)
    have hsame : { kept with parentInfo := some info } = kept := by
      rw [← h.kept, ← hinfo]
      rfl
    exact ⟨info, hsame ▸ h⟩

theorem pending_dropRoot (rootFd : Nat) (h : Pending base frame kept scene)
    (hroot : scene.self.rootFd = some rootFd) :
    After (dropRoot rootFd) scene
      (fun _ scene' => Pending base frame kept scene' ∧ scene'.self.rootFd = none)
      fun _ scene' => Pending base frame kept scene' := by
  rw [dropRoot, after_bind, system, after_within]
  refine (after_releaseDescriptor _ _ _ _).mono (fun error sys hsys => ?_) fun _ _ => False.elim
  rw [after_bind, after_setSelf]
  have hdropped : Pending base frame kept
      { scene with sys := sys, self := { scene.self with rootFd := none, rootInfo := none } } := by
    refine ⟨h.maps, h.active, h.reentrant, h.parent, h.kept, h.owns.closed hsys fun n => ?_⟩
    simp only [ArtifactLease.holds, hroot, holding_none]
    omega
  cases error with
  | none => exact ⟨hdropped, rfl⟩
  | some error => exact hdropped

theorem pending_anchorRoot (parentFd : Nat) (h : Pending base frame kept scene)
    (hroot : scene.self.rootFd = none) :
    After (anchorRoot parentFd) scene (fun _ scene' => Pending base frame kept scene')
      fun _ scene' => Pending base frame kept scene' := by
  rw [anchorRoot, after_bind, after_self, after_bind, system, after_within, after_attempt]
  refine (opens_openDescriptor _ _).mono ?_ ?_
  · rintro fd sys ⟨hfresh, hsys⟩
    dsimp only
    rw [after_bind, after_setSelf]
    have hopened : Pending base frame kept
        { scene with sys := sys, self := { scene.self with rootFd := some fd } } := by
      refine ⟨h.maps, h.active, h.reentrant, h.parent, h.kept,
        h.owns.opened hfresh hsys fun n => ?_⟩
      simp only [ArtifactLease.holds, hroot, holding_none, id]
      omega
    have hrest : ∀ name, Maintains (Pending base frame kept) (do
        let info ← system (call fun kernel => kernel.fstat fd)
        setSelf fun lease => { lease with rootInfo := some info }
        raiseIf (info.kind ≠ .directory) (leaseError "artifact root must be a regular directory")
        let current ← system (call fun kernel => kernel.statAt parentFd name)
        raiseIf (identity info current = false)
          (leaseError "artifact root changed during acquisition")) := fun name =>
      maintains_bind (pending_system (quiet_call _)) fun _ =>
        maintains_bind (pending_setSelf fun _ => ⟨rfl, rfl, rfl, rfl, rfl⟩) fun _ =>
        maintains_bind maintains_raiseIf fun _ =>
        maintains_bind (pending_system (quiet_call _)) fun _ => maintains_raiseIf
    exact hrest _ _ hopened
  · intro exc sys hsys
    have hclosed : Pending base frame kept
        { scene with sys := sys, self := { scene.self with rootFd := none, rootInfo := none } } := by
      refine ⟨h.maps, h.active, h.reentrant, h.parent, h.kept, h.owns.quiet hsys fun n => ?_⟩
      simp only [ArtifactLease.holds, hroot]
    split
    · exact hclosed
    · exact hclosed
    · exact h.quiet hsys
    · contradiction

theorem pending_openRootAnchor : Maintains (Pending base frame kept) openRootAnchor := by
  intro scene h
  rw [openRootAnchor, after_bind, after_self, after_bind, after_raiseIf]
  refine ⟨fun _ => h, fun _ => ?_⟩
  rw [after_bind, after_need]
  refine ⟨fun parentFd _ => ?_, fun _ => h⟩
  cases hroot : scene.self.rootFd with
  | none => exact pending_anchorRoot parentFd h hroot
  | some rootFd =>
    dsimp only
    rw [after_bind, after_need]
    refine ⟨fun rootInfo _ => ?_, fun _ => h⟩
    rw [after_bind]
    refine after_quiet (keeps_attempt (quiet_call _)) (fun current sys hsys => ?_)
      fun _ _ hsys => h.quiet hsys
    split
    · exact h.quiet hsys
    · rw [after_bind]
      refine (pending_dropRoot rootFd (h.quiet hsys) hroot).mono ?_ fun _ _ h => h
      exact fun _ scene' h' => pending_anchorRoot parentFd h'.1 h'.2

/-- Pending, with whatever domain has been found. -/
def Prepared (base : Active) (frame : Nat → Nat) (kept : Kept) (scene : Scene) : Prop :=
  ∃ key, Pending base frame { kept with domainKey := key } scene

theorem Pending.prepared (h : Pending base frame kept scene) : Prepared base frame kept scene :=
  ⟨kept.domainKey, h⟩

theorem prepared_prepareDomain : Maintains (Prepared base frame kept) prepareDomain := by
  have hsystem : ∀ {β : Type} {m : SysM β}, Quiet m →
      Maintains (Prepared base frame kept) (system m) := fun hm =>
    maintains_exists fun _ => pending_system hm
  refine maintains_bind (maintains_exists fun _ => pending_self) fun _ =>
    maintains_bind (hsystem (quiet_validateParentPath _)) fun _ =>
    maintains_bind (hsystem (quiet_makeParent _)) fun _ =>
    maintains_bind (hsystem (quiet_validateParentPath _)) fun _ =>
    maintains_bind (hsystem (quiet_wrapping (quiet_call _) _ _)) fun _ =>
    maintains_bind (hsystem (quiet_validateParentInfo _)) fun _ =>
    maintains_bind (hsystem (quiet_stableDomain _)) fun domain =>
    maintains_bind (maintains_exists fun _ => pending_setSelf fun _ => ⟨rfl, rfl, rfl, rfl, rfl⟩)
      fun _ => maintains_bind maintains_raiseIf fun _ => ?_
  rintro scene ⟨key, h⟩
  rw [after_setSelf]
  refine ⟨some domain, h.maps, h.active, h.reentrant, h.parent, ?_, h.owns.quiet rfl fun _ => rfl⟩
  exact congrArg (fun kept => ({ kept with domainKey := some domain } : Kept)) h.kept

theorem prepared_ensureDomain : Maintains (Prepared base frame kept) ensureDomain :=
  maintains_bind (maintains_exists fun _ => pending_self) fun _ =>
    maintains_onlyIf fun _ => prepared_prepareDomain

-- ---------------------------------------------------------------------------
-- Entering an active domain
-- ---------------------------------------------------------------------------

/-- The lease is in the maps. -/
structure Held (me : Owner) (base : Active) (frame : Nat → Nat) (scene : Scene) : Prop where
  active : scene.self.active = true
  entered : ∃ key info, scene.self.domainKey = some key ∧ scene.self.parentInfo = some info ∧
    scene.maps = Active.entered me base scene.self key info
  owns : Owns frame scene.sys scene.self
  inside : scene.self.reentrant = true → scene.self.domainFd = none ∧ scene.self.gateFd = none ∧
    scene.self.leaseFd = none ∧ scene.self.identityFd = none

theorem after_checkActiveParent {me : Owner} {info : Stat} (hinfo : scene.self.parentInfo = some info) :
    After (checkActiveParent me) scene
      (fun _ scene' => scene' = scene ∧ ∀ entry,
        scene.maps.parents.get scene.self.parent = some entry → entry.owner = me →
          (entry.dev, entry.ino) = (info.dev, info.ino))
      fun _ scene' => scene' = scene := by
  rw [checkActiveParent, after_bind, after_self, after_bind, after_need, hinfo]
  refine ⟨?_, nofun⟩
  rintro _ ⟨⟩
  rw [after_bind, after_maps]
  cases hget : scene.maps.parents.get scene.self.parent with
  | none => exact ⟨rfl, nofun⟩
  | some current =>
    dsimp only
    rw [after_raiseIf]
    refine ⟨fun _ => rfl, fun hc => ⟨rfl, ?_⟩⟩
    rintro _ ⟨⟩ howner
    exact not_not.mp fun hne => hc ⟨howner, hne⟩

/-- The lease is not in the maps. -/
def Unentered (base : Active) (frame : Nat → Nat) (scene : Scene) : Prop :=
  ∃ kept, Pending base frame kept scene

theorem Pending.unentered (h : Pending base frame kept scene) : Unentered base frame scene :=
  ⟨kept, h⟩

/-- No coordination descriptor is open. -/
structure Kept.Closed (kept : Kept) : Prop where
  domainFd : kept.domainFd = none
  gateFd : kept.gateFd = none
  leaseFd : kept.leaseFd = none
  identityFd : kept.identityFd = none

theorem Pending.fields (h : Pending base frame kept scene) :
    scene.self.root = kept.root ∧ scene.self.domainKey = kept.domainKey ∧
      scene.self.parentInfo = kept.parentInfo ∧ scene.self.domainFd = kept.domainFd ∧
      scene.self.gateFd = kept.gateFd ∧ scene.self.leaseFd = kept.leaseFd ∧
      scene.self.identityFd = kept.identityFd := by
  obtain rfl := h.kept
  exact ⟨rfl, rfl, rfl, rfl, rfl, rfl, rfl⟩

theorem held_enterReentrant {me : Owner} {key : Path} {current : ActiveDomain}
    (hbase : Active.Coherent me base) (h : Pending base frame kept scene) (hclosed : kept.Closed)
    (hkey : kept.domainKey = some key) (hcurrent : base.domains.get key = some current)
    (howner : current.owner = me) :
    After (enterReentrant me key current) scene
      (fun _ scene' => Held me base frame scene' ∧ scene'.self.reentrant = true)
      fun _ scene' => Unentered base frame scene' := by
  rw [enterReentrant, after_bind, after_self, after_bind, after_raiseIf]
  refine ⟨fun _ => h.unentered, fun _ => ?_⟩
  rw [after_bind]
  refine (pending_ensureParent h).mono ?_ fun _ _ h => h.unentered
  rintro - scene₁ ⟨info, h₁⟩
  obtain ⟨hroot₁, -, hinfo₁, -⟩ := h₁.fields
  rw [after_bind]
  refine (after_checkActiveParent hinfo₁).mono ?_ fun _ scene₂ heq => heq ▸ h₁.unentered
  rintro - scene₂ ⟨heq, hsame⟩
  subst scene₂
  rw [after_bind, after_self, after_bind]
  refine (maintains_onlyIf (fun _ => pending_openRootAnchor) scene₁ h₁).mono ?_
    fun _ _ h => h.unentered
  intro _ scene₂ h₂
  obtain ⟨hroot₂, hkey₂, hinfo₂, hfds₂⟩ := h₂.fields
  rw [hclosed.domainFd, hclosed.gateFd, hclosed.leaseFd, hclosed.identityFd] at hfds₂
  have hparents : ∀ entry, scene₂.maps.parents.get scene₂.self.parent = some entry →
      entry.owner = me ∧ (entry.dev, entry.ino) = (info.dev, info.ino) := by
    intro entry hentry
    have hparent : scene₂.self.parent = scene₁.self.parent :=
      congrArg Path.parent (hroot₂.trans hroot₁.symm)
    rw [h₂.maps, ← h₁.maps, hparent] at hentry
    have howned := (hbase.parents (h₁.maps ▸ hentry)).1
    exact ⟨howned, hsame entry hentry howned⟩
  rw [after_bind, after_setSelf, after_bind]
  refine After.mono (after_recordActiveParent hinfo₂ hparents) ?_ fun _ _ => False.elim
  rintro - scene₃ rfl
  rw [after_bind]
  refine After.mono after_pushRoot ?_ fun _ _ => False.elim
  rintro - scene₄ rfl
  rw [after_setMaps]
  refine ⟨⟨rfl, ⟨key, info, hkey₂.trans hkey, hinfo₂, ?_⟩, h₂.owns.quiet rfl fun _ => rfl, fun _ => hfds₂⟩, rfl⟩
  dsimp only [Active.entered]
  rw [h₂.maps, hcurrent]
  dsimp only [Active.enteredDomain]
  rw [howner]

-- ---------------------------------------------------------------------------
-- Releasing
-- ---------------------------------------------------------------------------

/-- The lease is not in the maps and can be entered. -/
def Idle (base : Active) (frame : Nat → Nat) (scene : Scene) : Prop :=
  ∃ kept : Kept, kept.Closed ∧ Pending base frame kept scene

theorem Idle.unentered (h : Idle base frame scene) : Unentered base frame scene :=
  let ⟨kept, _, h⟩ := h
  ⟨kept, h⟩

theorem after_raiseFirst {I : Scene → Prop} (h : I scene) (errors : List (Option Exc)) :
    After (raiseFirst errors) scene (fun _ => I) fun _ => I := by
  induction errors with
  | nil => exact h
  | cons error rest ih =>
    cases error with
    | none => exact ih
    | some exc => exact h

theorem after_releaseDescriptors (descriptors : List (String × Option Nat × Bool)) (sys : Sys) :
    After (releaseDescriptors descriptors) sys
      (fun _ sys' => sys'.table =
        descriptors.foldl (fun table descriptor => without table descriptor.2.1) sys.table)
      fun _ _ => False := by
  induction descriptors generalizing sys with
  | nil => rfl
  | cons descriptor rest ih =>
    obtain ⟨name, fd, locked⟩ := descriptor
    rw [releaseDescriptors, after_bind]
    refine (after_releaseDescriptor name fd locked sys).mono (fun error sys₁ h₁ => ?_)
      fun _ _ => False.elim
    rw [after_bind]
    refine (ih sys₁).mono (fun errors sys₂ h₂ => ?_) fun _ _ => False.elim
    rw [List.foldl_cons, ← h₁]
    exact h₂

/-- Nothing but the frame is left. -/
theorem Owns.released {sys sys' : Sys} {lease lease' : ArtifactLease} (h : Owns frame sys lease)
    (hsys : sys'.table =
      lease.descriptors.foldl (fun table descriptor => without table descriptor.2.1) sys.table)
    (hlease : ∀ n, lease'.holds n = 0) : Owns frame sys' lease' := by
  simp only [ArtifactLease.descriptors, List.foldl_cons, List.foldl_nil] at hsys
  refine ⟨?_, fun n => ?_⟩
  · rw [hsys]
    iterate 6 apply without_nodup
    exact h.nodup
  · have hcount := h.count n
    simp only [ArtifactLease.holds] at hcount
    rw [hsys, hlease]
    simp only [count_without]
    omega

theorem after_closeAll (hmaps : scene.maps = base) (hactive : scene.self.active = false)
    (hreentrant : scene.self.reentrant = false) (howns : Owns frame scene.sys scene.self) :
    After (do
        let lease ← self
        let errors ← system (releaseDescriptors lease.descriptors)
        setSelf fun lease => { lease with
          rootFd := none, leaseFd := none, identityFd := none, parentFd := none, domainFd := none
          gateFd := none, rootInfo := none
          leaseLocked := false, domainLocked := false, gateLocked := false }
        raiseFirst errors) scene
      (fun _ => Idle base frame) fun _ => Idle base frame := by
  rw [after_bind, after_self, after_bind, system, after_within]
  refine (after_releaseDescriptors _ _).mono (fun errors sys hsys => ?_) fun _ _ => False.elim
  rw [after_bind, after_setSelf]
  refine after_raiseFirst ?_ errors
  exact ⟨_, ⟨rfl, rfl, rfl, rfl⟩, hmaps, hactive, hreentrant, fun _ => rfl, rfl,
    howns.released hsys fun _ => rfl⟩

theorem idle_releaseOutermost {me : Owner} (h : Pending base frame kept scene) :
    After (releaseOutermost me) scene (fun _ => Idle base frame) fun _ => Idle base frame := by
  rw [releaseOutermost, after_bind]
  refine (after_unmarkActive_idle h.active).mono ?_ fun _ _ => False.elim
  rintro - scene' rfl
  exact after_closeAll h.maps h.active h.reentrant h.owns

/-- The registered roots are descriptors of other leases. -/
def Covers (frame : Nat → Nat) (base : Active) : Prop :=
  ∀ n, base.rootFds.get n ≠ none → 0 < frame n

theorem Held.fresh {me : Owner} (h : Held me base frame scene) (hcovers : Covers frame base) {n : Nat}
    (hroot : scene.self.rootFd = some n) : base.rootFds.get n = none := by
  by_contra hne
  have hpos := hcovers n hne
  have hzero := h.owns.apart (n := n) (by
    simp only [ArtifactLease.holds, hroot, holding, if_true]
    omega)
  omega

theorem Held.quiet {me : Owner} (h : Held me base frame scene) {sys : Sys}
    (hsys : sys.table = scene.sys.table) : Held me base frame { scene with sys := sys } :=
  ⟨h.active, h.entered, h.owns.quiet hsys fun _ => rfl, h.inside⟩

theorem after_validateCurrentParent {Q : Unit → Scene → Prop} {E : Exc → Scene → Prop}
    (hq : ∀ a sys, sys.table = scene.sys.table → Q a { scene with sys := sys })
    (he : ∀ e sys, sys.table = scene.sys.table → E e { scene with sys := sys }) :
    After validateCurrentParent scene Q E := by
  rw [validateCurrentParent, after_bind, after_self, after_bind, after_need]
  refine ⟨fun fd _ => ?_, fun _ => he _ _ rfl⟩
  rw [after_bind, after_need]
  exact ⟨fun info _ => after_quiet (quiet_revalidateDirectory _ _ _ _) hq he, fun _ => he _ _ rfl⟩

/-- The maps are as they were before the lease. -/
theorem after_unmarkActive_held {me : Owner} (hbase : Active.Coherent me base)
    (hcovers : Covers frame base) (h : Held me base frame scene) :
    After (unmarkActive me) scene
      (fun _ scene' => scene' =
        { scene with maps := base, self := { scene.self with active := false } })
      fun _ _ => False := by
  obtain ⟨key, info, hkey, -, hmaps⟩ := h.entered
  exact after_unmarkActive hbase hmaps h.active hkey fun _ hroot => h.fresh hcovers hroot

theorem idle_release_held {me : Owner} (hbase : Active.Coherent me base)
    (hcovers : Covers frame base) (h : Held me base frame scene) :
    After (release me) scene (fun _ => Idle base frame) fun _ => Idle base frame := by
  rw [release, after_bind, after_self]
  cases hreentrant : scene.self.reentrant with
  | false =>
    rw [if_neg Bool.false_ne_true, releaseOutermost, after_bind]
    refine (after_unmarkActive_held hbase hcovers h).mono ?_ fun _ _ => False.elim
    rintro - scene' rfl
    exact after_closeAll rfl rfl hreentrant (h.owns.quiet rfl fun _ => rfl)
  | true =>
    obtain ⟨hdomain, hgate, hlease, hidentity⟩ := h.inside hreentrant
    have hclosing : ∀ (finish : Option Exc → Option Exc → LeaseM Unit) (sys : Sys),
        (∀ rootError closeError scene, Idle base frame scene →
          After (finish rootError closeError) scene (fun _ => Idle base frame)
            fun _ => Idle base frame) → sys.table = scene.sys.table →
        After (do
          unmarkActive me
          let lease ← self
          let rootError ← system (releaseDescriptor "artifact root" lease.rootFd false)
          let closeError ← system (releaseDescriptor "artifact parent" lease.parentFd false)
          setSelf fun lease => { lease with
            rootFd := none, rootInfo := none, parentFd := none, parentInfo := none
            reentrant := false }
          finish rootError closeError) { scene with sys := sys }
          (fun _ => Idle base frame) fun _ => Idle base frame := by
      intro finish sys hfinish hsys
      rw [after_bind]
      refine (after_unmarkActive_held hbase hcovers (h.quiet hsys)).mono ?_ fun _ _ => False.elim
      rintro - scene₁ rfl
      rw [after_bind, after_self, after_bind, system, after_within]
      refine (after_releaseDescriptor _ _ _ _).mono (fun rootError sys₁ h₁ => ?_) fun _ _ => False.elim
      rw [after_bind, system, after_within]
      refine (after_releaseDescriptor _ _ _ _).mono (fun closeError sys₂ h₂ => ?_) fun _ _ => False.elim
      rw [after_bind, after_setSelf]
      have hidle : Idle base frame { sys := sys₂, maps := base, self := { scene.self with
          active := false, rootFd := none, rootInfo := none, parentFd := none
          parentInfo := none, reentrant := false } } := by
        refine ⟨_, ⟨hdomain, hgate, hlease, hidentity⟩, rfl, rfl, rfl, fun _ => rfl, rfl, ?_, fun n => ?_⟩
        · rw [h₂, h₁]
          exact without_nodup (without_nodup (hsys ▸ h.owns.nodup) _) _
        · have hcount := h.owns.count n
          simp only [ArtifactLease.holds, hdomain, hgate, hlease, hidentity] at hcount ⊢
          rw [h₂, count_without, h₁, count_without]
          dsimp only
          rw [hsys]
          simp only [holding_none] at hcount ⊢
          omega
      exact hfinish rootError closeError _ hidle
    rw [if_pos rfl, releaseReentrant, after_bind, after_attempt]
    exact after_validateCurrentParent
      (fun _ sys hsys => hclosing (fun rootError closeError => raiseFirst [rootError, closeError]) sys
        (fun _ _ _ hidle => after_raiseFirst hidle _) hsys)
      fun e sys hsys => hclosing (fun _ _ => throw e) sys (fun _ _ _ hidle => hidle) hsys

theorem idle_release {me : Owner} (h : Unentered base frame scene) :
    After (release me) scene (fun _ => Idle base frame) fun _ => Idle base frame := by
  obtain ⟨kept, h⟩ := h
  rw [release, after_bind, after_self, h.reentrant, if_neg nofun]
  exact idle_releaseOutermost h

/-- The lease is in the maps or not, and the maps are otherwise `base`. -/
def Acquiring (me : Owner) (base : Active) (frame : Nat → Nat) (scene : Scene) : Prop :=
  Unentered base frame scene ∨ Held me base frame scene

theorem idle_releaseAfterFailure {me : Owner}
    (h : After (release me) scene (fun _ => Idle base frame) fun _ => Idle base frame) (exc : Exc) :
    After (releaseAfterFailure me exc) scene (fun _ _ => False) fun _ => Idle base frame := by
  rw [releaseAfterFailure, after_bind, after_attempt]
  exact h.mono (fun _ _ h => h) fun _ _ h => h

theorem idle_release_acquiring {me : Owner} (hbase : Active.Coherent me base)
    (hcovers : Covers frame base) (h : Acquiring me base frame scene) :
    After (release me) scene (fun _ => Idle base frame) fun _ => Idle base frame := by
  cases h with
  | inl h => exact idle_release h
  | inr h => exact idle_release_held hbase hcovers h

end

end Paic.Leases
