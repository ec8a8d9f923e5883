import Paic.Leases.LeaseLaws

/-!
# Entering a lease

An idle lease that is entered is held afterwards, or it is idle again and
the maps are as they were. The one way to something else is through
`_mark_active`, where the parent directory is registered under its path with
another identity.
-/

namespace Paic.Leases

open Routine

section
variable {me : Owner} {base : Active} {frame : Nat → Nat} {kept : Kept} {scene : Scene}

/-- The turnstile is taken for a domain that is not active. -/
structure Gated (base : Active) (frame : Nat → Nat) (kept : Kept) (scene : Scene) : Prop where
  pending : Pending base frame kept scene
  domain : ∃ key, kept.domainKey = some key ∧ base.domains.get key = none
  leaseFd : kept.leaseFd = none
  identityFd : kept.identityFd = none

theorem pending_lockGate (gate : Path) (fd : Nat) (info : Stat) :
    Maintains (Pending base frame kept) (lockGate gate fd info) :=
  maintains_bind pending_self fun _ =>
    maintains_bind (pending_system (quiet_lock _ _ _ _)) fun _ =>
    maintains_bind (pending_setSelf fun _ => ⟨rfl, rfl, rfl, rfl, rfl⟩) fun _ =>
    maintains_bind (pending_system (quiet_revalidateDirectory _ _ _ _)) fun _ =>
    pending_validateCurrentParent

theorem gated_acquireGate (h : Pending base frame kept scene) (hclosed : kept.Closed)
    (hdomain : ∃ key, kept.domainKey = some key ∧ base.domains.get key = none) :
    After (acquireGate me) scene
      (fun _ scene' => ∃ kept', kept'.root = kept.root ∧ Gated base frame kept' scene')
      fun _ scene' => Unentered base frame scene' := by
  rw [acquireGate, after_bind, after_self, after_bind, after_need]
  refine ⟨fun domain _ => ?_, fun _ => h.unentered⟩
  rw [after_bind, after_need]
  refine ⟨fun gate _ => ?_, fun _ => h.unentered⟩
  rw [after_bind]
  refine (pending_ensureParent h).mono ?_ fun _ _ h => h.unentered
  rintro - scene₁ ⟨info, h₁⟩
  obtain ⟨-, -, -, hdomainFd, hgateFd, -⟩ := h₁.fields
  rw [after_bind]
  refine after_opens (opens_openDirectory _ _) (fun opened sys₂ hfresh₂ hsys₂ => ?_)
    fun _ _ hsys => (h₁.quiet hsys).unentered
  obtain ⟨openedFd, openedInfo⟩ := opened
  dsimp only
  rw [after_bind, after_setSelf]
  have h₂ : Pending base frame { kept with parentInfo := some info, domainFd := some openedFd }
      { scene₁ with
        sys := sys₂
        self := { scene₁.self with domainFd := some openedFd, domainInfo := some openedInfo } } := by
    refine ⟨h₁.maps, h₁.active, h₁.reentrant, h₁.parent, ?_, h₁.owns.opened hfresh₂ hsys₂ fun n => ?_⟩
    · exact congrArg (fun kept => ({ kept with domainFd := some openedFd } : Kept)) h₁.kept
    · simp only [ArtifactLease.holds, hdomainFd, hclosed.domainFd, holding_none]
      omega
  rw [after_bind]
  refine after_opens (opens_openDirectory _ _) (fun gated sys₃ hfresh₃ hsys₃ => ?_)
    fun _ _ hsys => (h₂.quiet hsys).unentered
  obtain ⟨gatedFd, gatedInfo⟩ := gated
  dsimp only
  rw [after_bind, after_setSelf]
  have h₃ : Pending base frame
      { kept with parentInfo := some info, domainFd := some openedFd, gateFd := some gatedFd }
      { scene₁ with
        sys := sys₃
        self := { scene₁.self with
          domainFd := some openedFd, domainInfo := some openedInfo
          gateFd := some gatedFd, gateInfo := some gatedInfo } } := by
    refine ⟨h₂.maps, h₂.active, h₂.reentrant, h₂.parent, ?_, h₂.owns.opened hfresh₃ hsys₃ fun n => ?_⟩
    · exact congrArg (fun kept => ({ kept with gateFd := some gatedFd } : Kept)) h₂.kept
    · simp only [ArtifactLease.holds, hgateFd, hclosed.gateFd, holding_none]
      omega
  rw [after_handle]
  refine (pending_lockGate gate gatedFd gatedInfo _ h₃).mono (fun _ scene₄ h₄ => ?_)
    fun exc scene₄ h₄ => ?_
  · refine ⟨_, ?_, h₄, hdomain, hclosed.leaseFd, hclosed.identityFd⟩
    rfl
  · exact (idle_releaseAfterFailure (idle_release h₄.unentered) exc).mono
      (fun _ _ => False.elim) fun _ _ h => h.unentered

/-- What `acquire_intent` leads to. -/
def Intended (me : Owner) (base : Active) (frame : Nat → Nat) (root : Path) (scene : Scene) : Prop :=
  (Held me base frame scene ∧ scene.self.reentrant = true) ∨
    ∃ kept, kept.root = root ∧ Gated base frame kept scene

theorem intended_acquireIntent (hbase : Active.Coherent me base) (h : Idle base frame scene) :
    After (acquireIntent me) scene (fun _ => Intended me base frame scene.self.root)
      fun _ => Unentered base frame := by
  obtain ⟨kept, hclosed, h⟩ := h
  have hroot := h.fields.1
  rw [acquireIntent, after_bind]
  refine (prepared_ensureDomain scene h.prepared).mono ?_ fun _ _ ⟨_, h⟩ => h.unentered
  rintro - scene₁ ⟨found, h₁⟩
  obtain ⟨-, hkey₁, -⟩ := h₁.fields
  have hclosed₁ : ({ kept with domainKey := found } : Kept).Closed :=
    ⟨hclosed.domainFd, hclosed.gateFd, hclosed.leaseFd, hclosed.identityFd⟩
  rw [after_bind, enterReentrantIfSafe, after_bind, after_self, after_bind, after_need]
  refine ⟨fun key hkey => ?_, fun _ => h₁.unentered⟩
  rw [after_bind, after_maps, h₁.maps]
  cases hcurrent : base.domains.get key with
  | none =>
    refine (gated_acquireGate h₁ hclosed₁ ⟨key, hkey₁.symm.trans hkey, hcurrent⟩).mono ?_
      fun _ _ h => h
    rintro - scene₂ ⟨kept', hroot', h₂⟩
    exact .inr ⟨kept', hroot'.trans hroot.symm, h₂⟩
  | some current =>
    have howner := (hbase.domains hcurrent).1
    dsimp only
    rw [if_neg (not_not_intro howner), after_bind]
    exact (held_enterReentrant hbase h₁ hclosed₁ (hkey₁.symm.trans hkey) hcurrent howner).mono
      (fun _ _ h => .inl h) fun _ _ h => h

-- ---------------------------------------------------------------------------
-- The body
-- ---------------------------------------------------------------------------

theorem pending_lockDomain (intent : Intent) (exclusive : Bool) :
    Maintains (Pending base frame kept) (lockDomain intent exclusive) :=
  maintains_bind pending_self fun _ =>
    maintains_bind (pending_system (quiet_lock _ _ _ _)) fun _ =>
    maintains_bind (pending_setSelf fun _ => ⟨rfl, rfl, rfl, rfl, rfl⟩) fun _ =>
    maintains_bind (pending_system (quiet_revalidateDirectory _ _ _ _)) fun _ =>
    pending_validateCurrentParent

theorem pending_recordIdentity (intent : Intent) (identityFd : Nat) (current : Identity) :
    Maintains (Pending base frame kept) (recordIdentity intent identityFd current) :=
  maintains_bind pending_self fun _ =>
    maintains_bind (pending_system (quiet_writeIdentity _ _)) fun _ =>
    maintains_onlyIf fun _ => pending_system (quiet_wrapping (quiet_call _) _ _)

/-- The end of `takeLocks`, once both coordination files are open. -/
theorem pending_lastLocks (intent : Intent) (lease : ArtifactLease) (path : Path) (leaseFd : Nat)
    (identityFd : Nat) (current : Identity) (changed : Bool) :
    Maintains (Pending base frame kept) (do
      onlyIf (lease.exclusive = false) (lockDomain intent changed)
      system (revalidateLockFile lease.parent intent.parentFd path leaseFd intent.parentInfo)
      onlyIf changed (recordIdentity intent identityFd current)
      system (lock leaseFd lease.exclusive lease.timeoutSeconds "artifact data")
      system (revalidateLockFile lease.parent intent.parentFd path leaseFd intent.parentInfo)
      validateCurrentParent
      openRootAnchor
      setSelf fun lease => { lease with leaseLocked := true }) :=
  maintains_bind (maintains_onlyIf fun _ => pending_lockDomain _ _) fun _ =>
    maintains_bind (pending_system (quiet_revalidateLockFile _ _ _ _ _)) fun _ =>
    maintains_bind (maintains_onlyIf fun _ => pending_recordIdentity _ _ _) fun _ =>
    maintains_bind (pending_system (quiet_lock _ _ _ _)) fun _ =>
    maintains_bind (pending_system (quiet_revalidateLockFile _ _ _ _ _)) fun _ =>
    maintains_bind pending_validateCurrentParent fun _ =>
    maintains_bind pending_openRootAnchor fun _ =>
    pending_setSelf fun _ => ⟨rfl, rfl, rfl, rfl, rfl⟩

theorem pending_takeLocks [Hashing] (intent : Intent) (h : Gated base frame kept scene) :
    After (takeLocks intent) scene
      (fun _ scene' => ∃ leaseFd identityFd, Pending base frame
        { kept with leaseFd := leaseFd, identityFd := identityFd } scene')
      fun _ => Unentered base frame := by
  rw [takeLocks, after_bind, after_self, after_bind]
  refine (maintains_onlyIf (fun _ => pending_lockDomain intent true) scene h.pending).mono ?_
    fun _ _ h => h.unentered
  intro _ scene₁ h₁
  obtain ⟨-, -, -, -, -, hleaseFd, hidentityFd⟩ := h₁.fields
  dsimp only
  rw [after_bind]
  refine after_opens (opens_openLockFile _ _ _) (fun leaseFd sys₂ hfresh₂ hsys₂ => ?_)
    fun _ _ hsys => (h₁.quiet hsys).unentered
  rw [after_bind, after_setSelf]
  have h₂ : Pending base frame { kept with leaseFd := some leaseFd }
      { scene₁ with sys := sys₂, self := { scene₁.self with leaseFd := some leaseFd } } := by
    refine ⟨h₁.maps, h₁.active, h₁.reentrant, h₁.parent, ?_, h₁.owns.opened hfresh₂ hsys₂ fun n => ?_⟩
    · exact congrArg (fun kept => ({ kept with leaseFd := some leaseFd } : Kept)) h₁.kept
    · simp only [ArtifactLease.holds, hleaseFd, h.leaseFd, holding_none, id]
      omega
  rw [after_bind]
  refine after_quiet (quiet_call _) (fun leaseInfo sys₃ hsys₃ => ?_)
    fun _ _ hsys => (h₂.quiet hsys).unentered
  have h₃ := h₂.quiet hsys₃
  rw [after_bind]
  refine after_quiet (quiet_ask _) (fun euid sys₄ hsys₄ => ?_)
    fun _ _ hsys => (h₃.quiet hsys).unentered
  have h₄ := h₃.quiet hsys₄
  rw [after_bind]
  refine after_opens (opens_openLockFile _ _ _) (fun identityFd sys₅ hfresh₅ hsys₅ => ?_)
    fun _ _ hsys => (h₄.quiet hsys).unentered
  rw [after_bind, after_setSelf]
  have h₅ : Pending base frame { kept with leaseFd := some leaseFd, identityFd := some identityFd }
      { scene₁ with
        sys := sys₅
        self := { scene₁.self with leaseFd := some leaseFd, identityFd := some identityFd } } := by
    refine ⟨h₄.maps, h₄.active, h₄.reentrant, h₄.parent, ?_, h₄.owns.opened hfresh₅ hsys₅ fun n => ?_⟩
    · exact congrArg (fun kept => ({ kept with identityFd := some identityFd } : Kept)) h₄.kept
    · simp only [ArtifactLease.holds, hidentityFd, h.identityFd, holding_none, id]
      omega
  rw [after_bind]
  refine after_quiet (quiet_readIdentity _) (fun recorded sys₆ hsys₆ => ?_)
    fun _ _ hsys => (h₅.quiet hsys).unentered
  refine (pending_lastLocks intent _ _ _ _ _ _ _ (h₅.quiet hsys₆)).mono (fun _ _ h => ⟨_, _, h⟩)
    fun _ _ h => h.unentered

theorem held_releaseGate (h : Held me base frame scene) (houtside : scene.self.reentrant = false) :
    After releaseGate scene (fun _ => Held me base frame) fun _ => Held me base frame := by
  rw [releaseGate, after_bind, after_self, after_onlyIf]
  refine ⟨fun _ => ?_, fun _ => h⟩
  rw [after_bind, system, after_within]
  refine (after_releaseDescriptor _ _ _ _).mono (fun error sys hsys => ?_) fun _ _ => False.elim
  rw [after_bind, after_setSelf]
  refine after_raiseFirst ?_ _
  refine ⟨h.active, h.entered, h.owns.closed hsys fun n => ?_, fun hinside => ?_⟩
  · simp only [ArtifactLease.holds, holding_none]
    omega
  · exact absurd (houtside.symm.trans hinside) (by rintro ⟨⟩)

theorem intent_parentInfo {lease : ArtifactLease} {intent : Intent}
    (h : lease.intent = some intent) : lease.parentInfo = some intent.parentInfo := by
  simp only [ArtifactLease.intent, Option.bind_eq_bind, Option.bind_eq_some_iff] at h
  obtain ⟨_, _, info, hinfo, _, _, _, _, _, _, h⟩ := h
  split at h
  · obtain rfl := Option.some.inj h
    exact hinfo
  · contradiction

/-- An enter from `scene` calls `_mark_active` on `scene'`. -/
def Arrives [Hashing] (me : Owner) (scene scene' : Scene) : Prop :=
  ∃ scene₁ intent, acquireIntent me scene = .ok () scene₁ ∧ scene₁.self.reentrant = false ∧
    scene₁.self.intent = some intent ∧ takeLocks intent scene₁ = .ok () scene'

/-- Where an enter calls `_mark_active`, its parent path is not active, or
active with the directory that the lease has opened. -/
def ParentKept [Hashing] (me : Owner) (scene : Scene) : Prop :=
  ∀ scene', Arrives me scene scene' → Compatible scene'

theorem held_markActive {key : Path} {info : Stat} (hbase : Active.Coherent me base)
    (h : Pending base frame kept scene) (hkey : kept.domainKey = some key)
    (hnone : base.domains.get key = none) (hinfo : kept.parentInfo = some info)
    (hcompatible : Compatible scene) :
    After (markActive me) scene
      (fun _ scene' => Held me base frame scene' ∧ scene'.self.reentrant = false)
      fun _ _ => False := by
  obtain ⟨-, hkey', hinfo', -⟩ := h.fields
  have hmaps := h.maps
  subst hmaps
  refine (after_markActive hbase (hkey'.trans hkey) hnone (hinfo'.trans hinfo) hcompatible).mono ?_
    fun _ _ => False.elim
  rintro - scene' rfl
  refine ⟨⟨rfl, ⟨key, info, hkey'.trans hkey, hinfo'.trans hinfo, rfl⟩,
    h.owns.quiet rfl fun _ => rfl, fun hinside => ?_⟩, h.reentrant⟩
  exact absurd (h.reentrant.symm.trans hinside) nofun

theorem held_acquireBody [Hashing] {root : Path} (hbase : Active.Coherent me base)
    (hcovers : Covers frame base) (h : Intended me base frame root scene)
    (hkept : ∀ intent scene', scene.self.reentrant = false → scene.self.intent = some intent →
      takeLocks intent scene = .ok () scene' → Compatible scene') :
    After (acquireBody me) scene (fun _ => Held me base frame)
      fun _ => Acquiring me base frame := by
  rw [acquireBody, after_bind, after_self]
  rcases h with ⟨h, hreentrant⟩ | ⟨kept, -, h⟩
  · rw [if_pos hreentrant, after_bind]
    refine after_validateCurrentParent (fun _ sys hsys => ?_) fun _ sys hsys => .inr (h.quiet hsys)
    rw [after_setSelf]
    exact ⟨h.active, h.entered, h.owns.quiet hsys fun _ => rfl, h.inside⟩
  · rw [if_neg (by rw [h.pending.reentrant]; nofun), after_bind, after_need]
    refine ⟨fun intent hintent => ?_, fun _ => .inl h.pending.unentered⟩
    obtain ⟨key, hkey, hnone⟩ := h.domain
    have hinfo : kept.parentInfo = some intent.parentInfo :=
      h.pending.fields.2.2.1.symm.trans (intent_parentInfo hintent)
    rw [after_handle]
    have htry : After (do takeLocks intent; markActive me; releaseGate) scene
        (fun _ => Held me base frame) fun _ => Acquiring me base frame := by
      rw [after_bind]
      refine (pending_takeLocks intent h).outcome.mono ?_ fun _ _ h => .inl h.2
      rintro ⟨⟩ scene₁ ⟨hlocks, leaseFd, identityFd, h₁⟩
      have hcompatible := hkept intent scene₁ h.pending.reentrant hintent hlocks
      rw [after_bind]
      refine (held_markActive hbase h₁ hkey hnone hinfo hcompatible).mono ?_ fun _ _ => False.elim
      rintro - scene₂ ⟨h₂, houtside⟩
      exact (held_releaseGate h₂ houtside).mono (fun _ _ h => h) fun _ _ h => .inr h
    refine htry.mono (fun _ _ h => h) fun exc scene₁ h₁ => ?_
    exact (idle_releaseAfterFailure (idle_release_acquiring hbase hcovers h₁) exc).mono
      (fun _ _ => False.elim) fun _ _ h => .inl h.unentered

/-- An enter holds the lease, or leaves it idle and the maps as they were. -/
theorem held_enter [Hashing] (hbase : Active.Coherent me base) (hcovers : Covers frame base)
    (h : Idle base frame scene) (hkept : ParentKept me scene) :
    After (enter me) scene (fun _ => Held me base frame) fun _ => Idle base frame := by
  rw [enter, after_handle]
  have htry : After (do acquireIntent me; acquireBody me) scene
      (fun _ => Held me base frame) fun _ => Acquiring me base frame := by
    rw [after_bind]
    refine (intended_acquireIntent hbase h).outcome.mono ?_ fun _ _ h => .inl h.2
    rintro ⟨⟩ scene₁ ⟨hintent, h₁⟩
    exact held_acquireBody hbase hcovers h₁ fun intent scene' hreentrant hsome hlocks =>
      hkept scene' ⟨scene₁, intent, hintent, hreentrant, hsome, hlocks⟩
  refine htry.mono (fun _ _ h => h) fun exc scene₁ h₁ => ?_
  exact (idle_releaseAfterFailure (idle_release_acquiring hbase hcovers h₁) exc).mono
    (fun _ _ => False.elim) fun _ _ h => h

/-- A parent path that is not active is no obstacle. -/
theorem parentKept_of_free [Hashing] (hbase : Active.Coherent me base) (h : Idle base frame scene)
    (hfree : base.parents.get scene.self.parent = none) : ParentKept me scene := by
  rintro scene' ⟨scene₁, intent, hintent, houtside, -, hlocks⟩
  rcases (intended_acquireIntent hbase h).ok hintent with ⟨-, hinside⟩ | ⟨kept, hroot, hgated⟩
  · exact absurd (houtside.symm.trans hinside) nofun
  · obtain ⟨leaseFd, identityFd, hpending⟩ := (pending_takeLocks intent hgated).ok hlocks
    intro info _ entry hentry
    have hparent : scene'.self.parent = scene.self.parent :=
      congrArg Path.parent (hpending.fields.1.trans hroot)
    rw [hpending.maps, hparent, hfree] at hentry
    contradiction

/-- Where the condition fails the enter raises, and a domain stays registered
that was not. -/
theorem enter_leaves_domain [Hashing] {scene₂ : Scene} (hbase : Active.Coherent me base)
    (h : Idle base frame scene) (harrives : Arrives me scene scene₂) (hnot : ¬ Compatible scene₂) :
    After (enter me) scene (fun _ _ => False) fun _ scene' => ∃ key,
      base.domains.get key = none ∧ scene'.maps.domains.get key ≠ none := by
  obtain ⟨scene₁, intent, hintent, houtside, hsome, hlocks⟩ := harrives
  rcases (intended_acquireIntent hbase h).ok hintent with ⟨-, hinside⟩ | ⟨kept, -, hgated⟩
  · exact absurd (houtside.symm.trans hinside) (by rintro ⟨⟩)
  obtain ⟨key, hkey, hnone⟩ := hgated.domain
  obtain ⟨leaseFd, identityFd, h₂⟩ := (pending_takeLocks intent hgated).ok hlocks
  obtain ⟨-, hkey₂, -⟩ := h₂.fields
  simp only [Compatible, not_forall] at hnot
  obtain ⟨info, hinfo, entry, hentry, hchanged⟩ := hnot
  -- The domain's entry is there when `_record_active_parent` raises.
  have hmark : After (markActive me) scene₂ (fun _ _ => False) fun _ scene' =>
      Unentered (base.setActiveDomain key (some ⟨scene₂.self.exclusive, 1, me⟩)) frame scene' := by
    have hnone₂ : scene₂.maps.domains.get key = none := h₂.maps ▸ hnone
    refine (after_markActive_changed (hkey₂.trans hkey) hnone₂ hinfo hentry hchanged).mono
      (fun _ _ => False.elim) ?_
    rintro - scene' rfl
    exact ⟨_, by rw [h₂.maps], h₂.active, h₂.reentrant, h₂.parent, h₂.kept, h₂.owns⟩
  have hbody : After (acquireBody me) scene₁ (fun _ _ => False) fun _ scene' =>
      Idle (base.setActiveDomain key (some ⟨scene₂.self.exclusive, 1, me⟩)) frame scene' := by
    rw [acquireBody, after_bind, after_self, houtside, if_neg Bool.false_ne_true, after_bind,
      after_need, hsome]
    refine ⟨?_, by rintro ⟨⟩⟩
    rintro _ ⟨⟩
    rw [after_handle, after_bind]
    refine after_of_ok hlocks ?_
    rw [after_bind]
    exact hmark.mono (fun _ _ => False.elim) fun exc scene' h' =>
      idle_releaseAfterFailure (idle_release h') exc
  rw [enter, after_handle, after_bind]
  refine after_of_ok hintent (hbody.mono (fun _ _ => False.elim) fun exc scene' h' => ?_)
  refine (idle_releaseAfterFailure (idle_release h'.unentered) exc).mono (fun _ _ => False.elim) ?_
  rintro - scene₃ ⟨kept', -, h₃⟩
  refine ⟨key, hnone, ?_⟩
  rw [h₃.maps]
  exact ne_of_eq_of_ne (Dict.get_set.trans (if_pos rfl)) (by rintro ⟨⟩)

theorem idle_exit (hbase : Active.Coherent me base) (hcovers : Covers frame base)
    (h : Held me base frame scene) (exc : Option Exc) :
    After (exit me exc) scene (fun _ => Idle base frame) fun _ => Idle base frame := by
  rw [exit, after_bind, after_attempt]
  refine (idle_release_held hbase hcovers h).mono (fun _ _ h => ?_) fun e scene' h => ?_
  · cases exc <;> exact h
  · cases exc with
    | none => exact h
    | some exc =>
      dsimp only
      split
      · exact h
      · exact h

theorem idle_prepareAnchor (h : Idle base frame scene) :
    After prepareAnchor scene (fun _ => Idle base frame) fun _ => Idle base frame := by
  obtain ⟨kept, hclosed, h⟩ := h
  have hidle : ∀ {kept' scene'}, Pending base frame kept' scene' →
      kept'.domainFd = kept.domainFd → kept'.gateFd = kept.gateFd →
      kept'.leaseFd = kept.leaseFd → kept'.identityFd = kept.identityFd → Idle base frame scene' :=
    fun h hd hg hl hi => ⟨_, ⟨hd.trans hclosed.domainFd, hg.trans hclosed.gateFd,
      hl.trans hclosed.leaseFd, hi.trans hclosed.identityFd⟩, h⟩
  rw [prepareAnchor, after_bind]
  refine (prepared_ensureDomain scene h.prepared).mono ?_ fun _ _ ⟨_, h⟩ => hidle h rfl rfl rfl rfl
  rintro - scene₁ ⟨key, h₁⟩
  rw [after_bind]
  refine (pending_ensureParent h₁).mono ?_ fun _ _ h => hidle h rfl rfl rfl rfl
  rintro - scene₂ ⟨info, h₂⟩
  rw [after_bind, after_self]
  exact (maintains_onlyIf (fun _ => pending_openRootAnchor) scene₂ h₂).mono
    (fun _ _ h => hidle h rfl rfl rfl rfl) fun _ _ h => hidle h rfl rfl rfl rfl

end

end Paic.Leases
