import Paic.Leases.TurnstileLaws

/-!
# Leases exclude each other

Whatever the owners do and in whatever order they are scheduled, an exclusive
lease excludes every lease of another owner on its coordination domain
(`exclusion`), and while an owner has the gate nobody new comes into the domain
(`turnstile_admits_none`).
-/

namespace Paic.Leases.Turnstile

section
variable {Owner Root : Type} [DecidableEq Owner] {layout : Layout Root} {s s' : State Owner Root}

-- ---------------------------------------------------------------------------
-- What a step changes
-- ---------------------------------------------------------------------------

namespace State

@[simp] theorem withStack_stack {stack : List (Lease Root)} :
    (s.withStack o stack).stack = Function.update s.stack o stack := rfl

@[simp] theorem withStack_domains {stack : List (Lease Root)} :
    (s.withStack o stack).domains = s.domains := rfl

@[simp] theorem setDomain_stack : (s.setDomain o domain value).stack = s.stack := rfl

@[simp] theorem setDomain_domains : (s.setDomain o domain value).domains =
    Function.update s.domains o (Function.update (s.domains o) domain value) := rfl

@[simp] theorem markActive_stack : (s.markActive o domain exclusive).stack = s.stack := rfl

@[simp] theorem unmarkActive_stack : (s.unmarkActive o domain).stack = s.stack := by
  unfold unmarkActive
  split <;> rfl

@[simp] theorem leave_stack {ℓ : Lease Root} : (s.leave layout o ℓ rest).stack =
    Function.update s.stack o ({ ℓ with phase := .releasing } :: rest) := by
  unfold leave
  dsimp only
  split
  · rw [unmarkActive_stack]; rfl
  · rfl

variable [DecidableEq Root]

@[simp] theorem advance_stack {ℓ : Lease Root} : (s.advance layout o ℓ rest).stack =
    Function.update s.stack o ((ℓ.next layout (s.recorded ℓ.root)).1 :: rest) := by
  unfold advance
  dsimp only
  split <;> rfl

end State

variable [DecidableEq Root]

theorem Step.others (h : Step layout o s s') (hne : o' ≠ o) : s'.stack o' = s.stack o' := by
  cases h with
  | enter | nest | close | die => exact Function.update_of_ne hne _ _
  | advance => rw [State.advance_stack, Function.update_of_ne hne]
  | leave => rw [State.leave_stack, Function.update_of_ne hne]

/-- The step of an owner changes its stack only, and keeps it tidy. -/
theorem Step.tidy (h : Step layout o s s') (ht : ∀ o, Tidy layout (s.stack o) (s.domains o)) :
    (∀ o', o' ≠ o → s'.stack o' = s.stack o' ∧ s'.domains o' = s.domains o') ∧
      Tidy layout (s'.stack o) (s'.domains o) := by
  have hto := ht o
  cases h with
  | enter root exclusive hopen hdomain =>
    refine ⟨fun o' hne => ⟨Function.update_of_ne hne _ _, rfl⟩, ?_⟩
    rw [State.withStack_stack, Function.update_self]
    exact hto.enter hopen hdomain
  | nest root exclusive hopen hdomain hsafe =>
    refine ⟨fun o' hne => ⟨Function.update_of_ne hne _ _, Function.update_of_ne hne _ _⟩, ?_⟩
    rw [State.setDomain_stack, State.withStack_stack, Function.update_self, State.setDomain_domains,
      Function.update_self]
    exact hto.nest hopen hdomain hsafe
  | @advance ℓ rest hstack hopen hlast hfree =>
    rw [hstack] at hto
    rw [State.advance_stack, Function.update_self]
    by_cases hmark : ℓ.phase = .mark
    · obtain ⟨hmarked, hnone⟩ := hto.mark hmark (s.recorded ℓ.root)
      have hdomains : (s.advance layout o ℓ rest).domains = Function.update s.domains o
          (Function.update (s.domains o) (layout.domain ℓ.root) (some (ℓ.exclusive, 1))) := by
        simp only [State.advance, hmark, State.markActive, State.withStack_domains, hnone]
        rfl
      rw [hdomains, Function.update_self]
      exact ⟨fun o' hne => ⟨Function.update_of_ne hne _ _, Function.update_of_ne hne _ _⟩, hmarked⟩
    · have hdomains : (s.advance layout o ℓ rest).domains = s.domains := by
        unfold State.advance
        dsimp only
        split
        · rfl
        · next h => exact absurd h hmark
        · rfl
      rw [hdomains]
      exact ⟨fun o' hne => ⟨Function.update_of_ne hne _ _, rfl⟩, hto.advance hopen hmark _⟩
  | @leave ℓ rest hstack hphase =>
    rw [hstack] at hto
    rw [State.leave_stack, Function.update_self]
    cases hmarked : ℓ.isMarked with
    | false =>
      have hdomains : (s.leave layout o ℓ rest).domains = s.domains := by
        simp [State.leave, hmarked]
      rw [hdomains]
      exact ⟨fun o' hne => ⟨Function.update_of_ne hne _ _, rfl⟩, hto.leave hmarked⟩
    | true =>
      obtain ⟨x, n, hsome, htidy⟩ := hto.unmark hmarked
      have hdomains : (s.leave layout o ℓ rest).domains = Function.update s.domains o
          (Function.update (s.domains o) (layout.domain ℓ.root)
            (if n ≤ 1 then none else some (x, n - 1))) := by
        simp [State.leave, hmarked, State.unmarkActive, hsome]
      rw [hdomains, Function.update_self]
      exact ⟨fun o' hne => ⟨Function.update_of_ne hne _ _, Function.update_of_ne hne _ _⟩, htidy⟩
  | @close ℓ rest hstack hlast =>
    rw [hstack] at hto
    refine ⟨fun o' hne => ⟨Function.update_of_ne hne _ _, rfl⟩, ?_⟩
    rw [State.withStack_stack, Function.update_self]
    exact hto.close hlast
  | die =>
    refine ⟨fun o' hne => ⟨Function.update_of_ne hne _ _, Function.update_of_ne hne _ _⟩, ?_⟩
    simp only [State.ended, State.withStack_stack, Function.update_self]
    exact ⟨fun _ h => absurd h List.not_mem_nil, fun _ h => absurd h List.not_mem_nil, trivial,
      fun _ => rfl⟩

/-- Where the locks of an owner come from in a step. -/
theorem Step.locks (h : Step layout o s s') :
    (∃ ℓ, s'.stack o = ℓ :: s.stack o ∧ ∀ place m, ¬ ℓ.Holds layout place m) ∨
    (∃ ℓ ℓ' rest, s.stack o = ℓ :: rest ∧ s'.stack o = ℓ' :: rest ∧ ∀ place m,
      ℓ'.Holds layout place m → ℓ.Holds layout place m ∨ s.Grants layout o rest place m) ∨
    s'.stack o <:+ s.stack o := by
  cases h with
  | enter root exclusive =>
    exact .inl ⟨_, Function.update_self .., fun _ _ => Lease.entering_holds⟩
  | nest root exclusive =>
    exact .inl ⟨_, Function.update_self .., fun _ _ => Lease.reentrant_holds⟩
  | @advance ℓ rest hstack hopen hlast hfree =>
    refine .inr (.inl ⟨ℓ, _, rest, hstack, by rw [State.advance_stack, Function.update_self], ?_⟩)
    intro place m hholds
    rcases Lease.next_holds hholds with hold | hrequest
    · exact .inl hold
    · exact .inr (hfree _ hrequest)
  | @leave ℓ rest hstack hphase =>
    refine .inr (.inl ⟨ℓ, _, rest, hstack, by rw [State.leave_stack, Function.update_self], ?_⟩)
    exact fun _ _ hholds => .inl (Lease.releasing_holds hholds)
  | @close ℓ rest hstack hlast =>
    refine .inr (.inr ?_)
    rw [State.withStack_stack, Function.update_self, hstack]
    exact List.suffix_cons _ _
  | die =>
    refine .inr (.inr ?_)
    simp only [State.ended, State.withStack_stack, Function.update_self]
    exact List.nil_suffix

-- ---------------------------------------------------------------------------
-- No two leases have conflicting locks
-- ---------------------------------------------------------------------------

omit [DecidableEq Owner] [DecidableEq Root] in
/-- One of the two leases keeps the other from a lock that it has. -/
def Lease.Conflicts (layout : Layout Root) (ℓ ℓ' : Lease Root) : Prop :=
  ∃ place m, ℓ.Holds layout place m ∧ ℓ'.Blocks layout place m

omit [DecidableEq Owner] [DecidableEq Root] in
theorem Lease.Conflicts.symm {ℓ ℓ' : Lease Root} (h : ℓ.Conflicts layout ℓ') :
    ℓ'.Conflicts layout ℓ := by
  obtain ⟨place, m, hm, m', hm', hor⟩ := h
  exact ⟨place, m', hm', m, hm, hor.symm⟩

structure Inv (layout : Layout Root) (s : State Owner Root) : Prop where
  tidy : ∀ o, Tidy layout (s.stack o) (s.domains o)
  within : ∀ o, (s.stack o).Pairwise fun ℓ ℓ' => ¬ ℓ.Conflicts layout ℓ'
  across : ∀ o o', o ≠ o' → ∀ ℓ ∈ s.stack o, ∀ ℓ' ∈ s.stack o', ¬ ℓ.Conflicts layout ℓ'
  finite : {o | s.stack o ≠ []}.Finite

omit [DecidableEq Owner] [DecidableEq Root] in
theorem Inv.initial (h : s.Initial) : Inv layout s where
  tidy o := by
    rw [h.1 o]
    exact ⟨fun _ h => absurd h List.not_mem_nil, fun _ h => absurd h List.not_mem_nil, trivial,
      h.2 o⟩
  within o := by
    rw [h.1 o]
    exact .nil
  across o o' _ ℓ hℓ := by
    rw [h.1 o] at hℓ
    exact absurd hℓ List.not_mem_nil
  finite := by simp [h.1]

theorem Inv.step (h : Inv layout s) (hs : Step layout o s s') : Inv layout s' := by
  obtain ⟨hothers, htidy⟩ := hs.tidy h.tidy
  have across : (∀ o', o' ≠ o → ∀ ℓ ∈ s'.stack o, ∀ ℓ' ∈ s.stack o', ¬ ℓ.Conflicts layout ℓ') →
      ∀ o₁ o₂, o₁ ≠ o₂ → ∀ ℓ ∈ s'.stack o₁, ∀ ℓ' ∈ s'.stack o₂, ¬ ℓ.Conflicts layout ℓ' := by
    intro hnew o₁ o₂ hne ℓ hℓ ℓ' hℓ'
    by_cases h₁ : o₁ = o
    · subst h₁
      rw [(hothers o₂ hne.symm).1] at hℓ'
      exact hnew o₂ hne.symm ℓ hℓ ℓ' hℓ'
    · rw [(hothers o₁ h₁).1] at hℓ
      by_cases h₂ : o₂ = o
      · subst h₂
        exact fun hc => hnew o₁ h₁ ℓ' hℓ' ℓ hℓ hc.symm
      · rw [(hothers o₂ h₂).1] at hℓ'
        exact h.across o₁ o₂ hne ℓ hℓ ℓ' hℓ'
  have within : (s'.stack o).Pairwise (fun ℓ ℓ' => ¬ ℓ.Conflicts layout ℓ') →
      ∀ o', (s'.stack o').Pairwise fun ℓ ℓ' => ¬ ℓ.Conflicts layout ℓ' := by
    intro hnew o'
    by_cases ho : o' = o
    · exact ho ▸ hnew
    · rw [(hothers o' ho).1]
      exact h.within o'
  have hlocks : (s'.stack o).Pairwise (fun ℓ ℓ' => ¬ ℓ.Conflicts layout ℓ') ∧
      ∀ o', o' ≠ o → ∀ ℓ ∈ s'.stack o, ∀ ℓ' ∈ s.stack o', ¬ ℓ.Conflicts layout ℓ' := by
    rcases hs.locks with ⟨ℓ, hstack, hnone⟩ | ⟨ℓ, ℓ', rest, hstack, hstack', hholds⟩ | hsuffix
    · -- the new lease has no lock
      rw [hstack]
      refine ⟨List.pairwise_cons.mpr ⟨fun _ _ ⟨_, _, hm, _⟩ => hnone _ _ hm, h.within o⟩, ?_⟩
      intro o' hne ℓ₁ h₁ ℓ₂ h₂
      rcases List.mem_cons.mp h₁ with rfl | h₁
      · exact fun ⟨_, _, hm, _⟩ => hnone _ _ hm
      · exact h.across o o' hne.symm ℓ₁ h₁ ℓ₂ h₂
    · -- the innermost lease may have got the lock it asked for
      have hwithin := h.within o
      rw [hstack] at hwithin
      rw [hstack']
      obtain ⟨htop, hrest⟩ := List.pairwise_cons.mp hwithin
      constructor
      · refine List.pairwise_cons.mpr ⟨fun ℓ₂ h₂ ⟨place, m, hm, hblocks⟩ => ?_, hrest⟩
        rcases hholds place m hm with hold | hgrants
        · exact htop ℓ₂ h₂ ⟨place, m, hold, hblocks⟩
        · exact hgrants.1 ℓ₂ h₂ hblocks
      · intro o' hne ℓ₁ h₁ ℓ₂ h₂ hconflict
        rcases List.mem_cons.mp h₁ with rfl | h₁
        · obtain ⟨place, m, hm, hblocks⟩ := hconflict
          rcases hholds place m hm with hold | hgrants
          · exact h.across o o' hne.symm ℓ (hstack ▸ List.mem_cons_self) ℓ₂ h₂
              ⟨place, m, hold, hblocks⟩
          · exact hgrants.2 o' hne ℓ₂ h₂ hblocks
        · exact h.across o o' hne.symm ℓ₁ (hstack ▸ List.mem_cons_of_mem _ h₁) ℓ₂ h₂ hconflict
    · exact ⟨(h.within o).sublist hsuffix.sublist,
        fun o' hne ℓ₁ h₁ => h.across o o' hne.symm ℓ₁ (hsuffix.subset h₁)⟩
  constructor
  case tidy =>
    intro o'
    by_cases ho : o' = o
    · exact ho ▸ htidy
    · rw [(hothers o' ho).1, (hothers o' ho).2]
      exact h.tidy o'
  case within => exact within hlocks.1
  case across => exact across hlocks.2
  case finite =>
    refine (h.finite.insert o).subset fun o' ho' => ?_
    by_cases ho : o' = o
    · exact .inl ho
    · refine .inr ?_
      have hne : s'.stack o' ≠ [] := ho'
      rwa [(hothers o' ho).1] at hne

theorem Runs.inv (h : Runs layout s₀ s) (h₀ : s₀.Initial) : Inv layout s := by
  induction h with
  | start => exact .initial h₀
  | step _ o hs ih => exact ih.step hs

-- ---------------------------------------------------------------------------
-- Exclusion
-- ---------------------------------------------------------------------------

omit [DecidableEq Owner] [DecidableEq Root] in
/-- The lease that locked the domain of an active lease. -/
theorem Inv.lock (h : Inv layout s) (hℓ : ℓ ∈ s.stack o) (hmarked : ℓ.isMarked = true) :
    ∃ first ∈ s.stack o, (ℓ.exclusive = true → first.exclusive = true) ∧
      first.Holds layout (.directory (layout.domain ℓ.root)) first.mode := by
  have htidy := h.tidy o
  obtain ⟨x, n, hregistered, hx, -⟩ := registered_of_mem htidy.covered hℓ hmarked
  obtain ⟨first, hmem, hfirst, hn, hdomain, rfl⟩ := registered_first htidy.covered hregistered
  refine ⟨first, hmem, hx, ?_⟩
  have hok := htidy.ok first hmem
  have hlocked : first.domain = some first.mode := by
    obtain ⟨root, exclusive, phase, gate, domain, data⟩ := first
    cases phase with
    | marked | active => exact hok.2.1
    | nested => exact absurd rfl hn
    | _ => exact absurd hfirst nofun
  rw [← hdomain]
  exact .domain hlocked

omit [DecidableEq Root] in
/-- Only a lease that has the gate gets a lock on the domain. -/
theorem Lease.Ok.next_domain {ℓ : Lease Root} (h : ℓ.Ok)
    (hn : (ℓ.next layout recorded).1.domain ≠ none) : ℓ.domain ≠ none ∨ ℓ.gate = true := by
  obtain ⟨root, exclusive, phase, gate, domain, data⟩ := ℓ
  cases phase with
  | domain | identity | record | downgrade | converting | data | mark | marked => exact .inr h.1
  | turnstile | active | nested => exact .inl hn
  | releasing =>
    refine .inl fun hd => hn ?_
    obtain rfl : domain = none := hd
    cases data <;> rfl

namespace State

/-- The owner has the gate of the domain. -/
def HasGate (layout : Layout Root) (o : Owner) (domain : Path) (s : State Owner Root) : Prop :=
  ∃ ℓ ∈ s.stack o, layout.domain ℓ.root = domain ∧ ℓ.gate = true

/-- The owner has a lock on the domain. -/
def InDomain (layout : Layout Root) (o : Owner) (domain : Path) (s : State Owner Root) : Prop :=
  ∃ ℓ ∈ s.stack o, layout.domain ℓ.root = domain ∧ ℓ.domain ≠ none

end State

theorem Step.admits_none (hinv : Inv layout s) (hs : Step layout other s s')
    (hgate : s.HasGate layout o domain) (hne : o' ≠ o) (hin : s'.InDomain layout o' domain) :
    s.InDomain layout o' domain := by
  obtain ⟨hothers, -⟩ := hs.tidy hinv.tidy
  by_cases ho : o' = other
  · subst ho
    obtain ⟨ℓ', hℓ', hdomain, hlocked⟩ := hin
    have gated : ∀ ℓ ∈ s.stack o', layout.domain ℓ.root = domain → ℓ.gate ≠ true := by
      intro ℓ₁ h₁ hd₁ hg₁
      obtain ⟨ℓ₂, h₂, hd₂, hg₂⟩ := hgate
      refine hinv.across o' o hne ℓ₁ h₁ ℓ₂ h₂ 
        ⟨_, .exclusive, .gate hg₁, .exclusive, ?_, .inl rfl⟩
      rw [hd₁, ← hd₂]
      exact .gate hg₂
    cases hs with
    | enter root exclusive =>
      rw [State.withStack_stack, Function.update_self] at hℓ'
      rcases List.mem_cons.mp hℓ' with rfl | hℓ'
      · exact absurd rfl hlocked
      · exact ⟨ℓ', hℓ', hdomain, hlocked⟩
    | nest root exclusive =>
      rw [State.setDomain_stack, State.withStack_stack, Function.update_self] at hℓ'
      rcases List.mem_cons.mp hℓ' with rfl | hℓ'
      · exact absurd rfl hlocked
      · exact ⟨ℓ', hℓ', hdomain, hlocked⟩
    | @advance ℓ rest hstack hopen hlast hfree =>
      rw [State.advance_stack, Function.update_self] at hℓ'
      rcases List.mem_cons.mp hℓ' with rfl | hℓ'
      · rw [Lease.next_root] at hdomain
        have hmem : ℓ ∈ s.stack o' := hstack ▸ List.mem_cons_self
        rcases ((hinv.tidy o').ok ℓ hmem).next_domain hlocked with hold | hg
        · exact ⟨ℓ, hmem, hdomain, hold⟩
        · exact absurd hg (gated ℓ hmem hdomain)
      · exact ⟨ℓ', hstack ▸ List.mem_cons_of_mem _ hℓ', hdomain, hlocked⟩
    | @leave ℓ rest hstack hphase =>
      rw [State.leave_stack, Function.update_self] at hℓ'
      rcases List.mem_cons.mp hℓ' with rfl | hℓ'
      · exact ⟨ℓ, hstack ▸ List.mem_cons_self, hdomain, hlocked⟩
      · exact ⟨ℓ', hstack ▸ List.mem_cons_of_mem _ hℓ', hdomain, hlocked⟩
    | @close ℓ rest hstack hlast =>
      rw [State.withStack_stack, Function.update_self] at hℓ'
      exact ⟨ℓ', hstack ▸ List.mem_cons_of_mem _ hℓ', hdomain, hlocked⟩
    | die =>
      simp only [State.ended, State.withStack_stack, Function.update_self] at hℓ'
      exact absurd hℓ' List.not_mem_nil
  · rw [State.InDomain, (hothers o' ho).1] at hin
    exact hin

theorem RunsWhile.holds {P : State Owner Root → Prop} (h : RunsWhile layout P s₀ s) : P s := by
  cases h with
  | start hp => exact hp
  | step _ _ _ hp => exact hp

theorem RunsWhile.inv {P : State Owner Root → Prop} (h : RunsWhile layout P s₀ s)
    (h₀ : Inv layout s₀) : Inv layout s := by
  induction h with
  | start => exact h₀
  | step _ o hs _ ih => exact ih.step hs

end

end Paic.Leases.Turnstile
