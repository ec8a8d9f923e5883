import Paic.Leases.Exclusion
import Mathlib

/-!
# When leases wait for each other

Owners that hold a single lease each (with what is nested in it) never wait for
each other in a circle: a lease waits for directories from the top down
(`no_deadlock`). An owner with two is another matter: a writer keeps the gate,
so a lease on another domain behind the same gate waits for its own owner
(`writer_blocks_itself`).
-/

namespace Paic.Leases.Turnstile

section
variable {Owner Root : Type} {layout : Layout Root} {s s' : State Owner Root}

/-- The innermost lease of the first owner waits for a lock that a lease of the
second owner is in the way of. -/
def State.BlockedBy [DecidableEq Owner] (layout : Layout Root) (s : State Owner Root)
    (o o' : Owner) : Prop :=
  ∃ ℓ rest place m, s.stack o = ℓ :: rest ∧
    (ℓ.next layout (s.recorded ℓ.root)).2 = some (place, m) ∧
    ∃ other ∈ if o' = o then rest else s.stack o', other.Blocks layout place m

-- ---------------------------------------------------------------------------
-- What a waiting lease holds
-- ---------------------------------------------------------------------------

theorem Lease.Ok.data_domain {ℓ : Lease Root} (h : ℓ.Ok) (hd : ℓ.data = some m) :
    ℓ.domain = some m := by
  obtain ⟨root, exclusive, phase, gate, domain, data⟩ := ℓ
  cases phase with
  | turnstile | nested | identity | record | data => exact absurd (h.2.2.symm.trans hd) nofun
  | domain | downgrade | converting => exact absurd (h.2.2.1.symm.trans hd) nofun
  | mark | active => exact h.2.1.trans (h.2.2.symm.trans hd)
  | marked => exact h.2.1.trans (h.2.2.1.symm.trans hd)
  | releasing => exact h m hd

/-- What a lease waits for, and what it holds meanwhile: nothing at the gate, the
gate at the domain, the domain in its mode at the lease file. -/
theorem Lease.Ok.waiting {ℓ : Lease Root} (h : ℓ.Ok)
    (hw : (ℓ.next layout recorded).2 = some (place, m)) :
    (place = .directory (layout.domain ℓ.root).parent ∧ ∀ p m, ¬ ℓ.Holds layout p m) ∨
    (place = .directory (layout.domain ℓ.root) ∧
      ∀ p m, ℓ.Holds layout p m → p = .directory (layout.domain ℓ.root).parent) ∨
    place = .leaseFile ℓ.root ∧ m = ℓ.mode ∧ ℓ.domain = some ℓ.mode := by
  obtain ⟨root, exclusive, phase, gate, domain, data⟩ := ℓ
  cases phase with
  | turnstile =>
    obtain ⟨hg, hdomain, hdata⟩ := h
    obtain ⟨rfl, rfl⟩ := Prod.mk.inj (Option.some.inj hw)
    refine .inl ⟨rfl, ?_⟩
    rintro _ _ (hh | hh | hh)
    · exact absurd (hg.symm.trans hh) nofun
    · exact absurd (hdomain.symm.trans hh) nofun
    · exact absurd (hdata.symm.trans hh) nofun
  | domain changed =>
    obtain ⟨-, hdomain, hdata, -⟩ := h
    obtain ⟨rfl, rfl⟩ := Prod.mk.inj (Option.some.inj hw)
    refine .inr (.inl ⟨rfl, ?_⟩)
    rintro _ _ (hh | hh | hh)
    · rfl
    · exact absurd (hdomain.symm.trans hh) nofun
    · exact absurd (hdata.symm.trans hh) nofun
  | converting =>
    obtain ⟨-, hdomain, hdata, -⟩ := h
    obtain ⟨rfl, rfl⟩ := Prod.mk.inj (Option.some.inj hw)
    refine .inr (.inl ⟨rfl, ?_⟩)
    rintro _ _ (hh | hh | hh)
    · rfl
    · exact absurd (hdomain.symm.trans hh) nofun
    · exact absurd (hdata.symm.trans hh) nofun
  | data =>
    obtain ⟨rfl, rfl⟩ := Prod.mk.inj (Option.some.inj hw)
    exact .inr (.inr ⟨rfl, rfl, h.2.1⟩)
  | identity | record | downgrade | mark | marked | active | nested | releasing =>
    exact absurd hw nofun

theorem Lease.waiting_phase {ℓ : Lease Root}
    (hw : (ℓ.next layout recorded).2 = some (place, m)) : ℓ.phase ≠ .nested := by
  rintro hn
  obtain ⟨root, exclusive, phase, gate, domain, data⟩ := ℓ
  obtain rfl : phase = .nested := hn
  exact absurd hw nofun

theorem Covered.nested_nil (h : Covered layout stack) (hn : ∀ ℓ ∈ stack, ℓ.phase = .nested) :
    stack = [] := by
  induction stack with
  | nil => rfl
  | cons ℓ rest ih =>
    obtain ⟨hnested, -, hrest⟩ := h
    obtain rfl := ih hrest fun ℓ' hℓ' => hn ℓ' (List.mem_cons_of_mem _ hℓ')
    obtain ⟨_, _, hsome, -⟩ := hnested (hn ℓ List.mem_cons_self)
    exact absurd hsome nofun

-- ---------------------------------------------------------------------------
-- Owners with one lease each
-- ---------------------------------------------------------------------------

/-- All leases of the owner but one are nested. -/
def State.Single (s : State Owner Root) (o : Owner) : Prop :=
  ((s.stack o).filter fun ℓ => ℓ.phase ≠ .nested).length ≤ 1

theorem Inv.alone (h : Inv layout s) (hsingle : s.Single o) (hstack : s.stack o = ℓ :: rest)
    (hphase : ℓ.phase ≠ .nested) : rest = [] := by
  rw [State.Single, hstack, List.filter_cons_of_pos (by simpa using hphase), List.length_cons] at hsingle
  have hnone : (rest.filter fun ℓ => ℓ.phase ≠ .nested) = [] :=
    List.length_eq_zero_iff.mp (by omega)
  have hcovered := (h.tidy o).covered
  rw [hstack] at hcovered
  refine hcovered.2.2.nested_nil fun ℓ' hℓ' => ?_
  simpa using List.filter_eq_nil_iff.mp hnone ℓ' hℓ'

variable [DecidableEq Owner]

/-- A lease that waits for its lease file waits for nobody. -/
theorem Inv.data_free (h : Inv layout s) (hstack : s.stack o = ℓ :: rest)
    (hlocked : ℓ.domain = some ℓ.mode) (hother : other ∈ if o' = o then rest else s.stack o')
    (hblocks : other.Blocks layout (.leaseFile ℓ.root) ℓ.mode) : False := by
  obtain ⟨m, hm, hor⟩ := hblocks
  have hmem : ℓ ∈ s.stack o := hstack ▸ List.mem_cons_self
  have hin : other ∈ s.stack o' := by
    split at hother
    · next heq => rw [heq, hstack]; exact List.mem_cons_of_mem _ hother
    · exact hother
  -- the other lease has the domain as well
  obtain ⟨hroot, hdata⟩ : other.root = ℓ.root ∧ other.data = some m := by
    generalize hplace : Place.leaseFile ℓ.root = place at hm
    cases hm with
    | gate => exact absurd hplace nofun
    | domain => exact absurd hplace nofun
    | data hd => exact ⟨(Place.leaseFile.inj hplace).symm, hd⟩
  have hdomain := ((h.tidy o').ok other hin).data_domain hdata
  have hconflict : ℓ.Conflicts layout other :=
    ⟨_, _, .domain hlocked, m, hroot ▸ .domain hdomain, hor⟩
  split at hother
  · have hwithin := h.within o
    rw [hstack] at hwithin
    exact (List.pairwise_cons.mp hwithin).1 other hother hconflict
  · next hne => exact h.across o o' (Ne.symm hne) ℓ hmem other hother hconflict

/-- Where a set of owners wait for each other, or one for itself, one of them
holds two leases that are not nested. -/
theorem no_deadlock [DecidableEq Root] (h₀ : s₀.Initial) (h : Runs layout s₀ s) {S : Set Owner}
    (hne : S.Nonempty) (hS : ∀ o ∈ S, ∃ o' ∈ S, s.BlockedBy layout o o') :
    ∃ o ∈ S, ¬ s.Single o := by
  by_contra hnone
  have hsingle : ∀ o ∈ S, s.Single o := fun o ho => not_not.mp fun hn => hnone ⟨o, ho, hn⟩
  obtain ⟨o₀, ho₀⟩ := hne
  have hinv := h.inv h₀
  -- who is in the way waits itself, at its domain
  have middle : ∀ o ∈ S, ∃ o' ∈ S, ∃ ℓ place m rest ℓ', s.stack o = ℓ :: rest ∧
      (ℓ.next layout (s.recorded ℓ.root)).2 = some (place, m) ∧ s.stack o' = [ℓ'] ∧
      place = .directory (layout.domain ℓ'.root).parent ∧
      ∀ place' m', (ℓ'.next layout (s.recorded ℓ'.root)).2 = some (place', m') →
        place' = .directory (layout.domain ℓ'.root) := by
    intro o ho
    obtain ⟨o', ho', ℓ, rest, place, m, hstack, hw, other, hother, m', hm', -⟩ := hS o ho
    obtain ⟨o'', -, ℓ', rest', place', m'', hstack', hw', other', hother', hblocks'⟩ := hS o' ho'
    obtain rfl := hinv.alone (hsingle o ho) hstack (Lease.waiting_phase hw)
    obtain rfl := hinv.alone (hsingle o' ho') hstack' (Lease.waiting_phase hw')
    have hne : o' ≠ o := by
      rintro rfl
      rw [if_pos rfl] at hother
      exact absurd hother List.not_mem_nil
    rw [if_neg hne, hstack', List.mem_singleton] at hother
    subst hother
    refine ⟨o', ho', ℓ, place, m, [], other, hstack, hw, hstack', ?_⟩
    have hok : other.Ok := (hinv.tidy o').ok other (hstack' ▸ List.mem_cons_self)
    rcases hok.waiting hw' with ⟨-, hnone⟩ | ⟨hplace, honly⟩ | ⟨hplace, hmode, hlocked⟩
    · exact absurd hm' (hnone _ _)
    · refine ⟨honly _ _ hm', fun place₁ m₁ h₁ => ?_⟩
      obtain ⟨rfl, rfl⟩ := Prod.mk.inj (Option.some.inj (h₁.symm.trans hw'))
      exact hplace
    · exact (hinv.data_free hstack' hlocked hother' (hplace ▸ hmode ▸ hblocks')).elim
  -- the deepest of the domains that are waited for
  let depth : Owner → Nat := fun o =>
    ((s.stack o).head?.map fun ℓ => (layout.domain ℓ.root).length).getD 0
  let waiting : Set Owner := {o | o ∈ S ∧ ∃ ℓ, s.stack o = [ℓ] ∧ ∀ place m,
    (ℓ.next layout (s.recorded ℓ.root)).2 = some (place, m) →
      place = .directory (layout.domain ℓ.root)}
  have hfinite : waiting.Finite := hinv.finite.subset fun o ⟨_, ℓ, hℓ, _⟩ => by
    show s.stack o ≠ []
    rw [hℓ]
    exact List.cons_ne_nil _ _
  have hnonempty : waiting.Nonempty := by
    obtain ⟨o', ho', ℓ, place, m, rest, ℓ', -, -, hstack', -, hplace⟩ := middle o₀ ho₀
    exact ⟨o', ho', ℓ', hstack', hplace⟩
  obtain ⟨o, ⟨ho, ℓ, hstack, hplace⟩, hmax⟩ := Set.exists_max_image waiting depth hfinite hnonempty
  obtain ⟨o', ho', ℓ₁, place, m, rest, ℓ', hstack₁, hw, hstack', hgate, hplace'⟩ := middle o ho
  obtain ⟨rfl, rfl⟩ := List.cons.inj (hstack₁.symm.trans hstack)
  have hdirectory := Place.directory.inj ((hplace place m hw).symm.trans hgate)
  have hle := hmax o' ⟨ho', ℓ', hstack', hplace'⟩
  have hdeeper : (layout.domain ℓ'.root).parent.length + 1 = (layout.domain ℓ'.root).length := by
    have hgated := layout.gated ℓ'.root
    cases hd : layout.domain ℓ'.root with
    | nil => exact absurd (by rw [hd]; rfl) hgated
    | cons name names => simp [Path.parent]
  simp only [depth, hstack, hstack', List.head?_cons, Option.map_some, Option.getD_some] at hle
  rw [hdirectory] at hle
  omega

-- ---------------------------------------------------------------------------
-- Owners with two leases
-- ---------------------------------------------------------------------------

variable [DecidableEq Root]

/-- Nothing of the owner changes while it waits for itself, until it gives the
waiting lease up. -/
theorem blocked_stays {ℓ : Lease Root} (hstack : s.stack o = ℓ :: rest)
    (hw : ∀ recorded, (ℓ.next layout recorded).2 = some (place, m))
    (hother : other ∈ rest) (hblocks : other.Blocks layout place m) (hr : Runs layout s s') :
    s'.stack o = ℓ :: rest ∨ ∃ t, Runs layout s t ∧ t.stack o = ℓ :: rest ∧
      (Runs layout (t.leave layout o ℓ rest) s' ∨ Runs layout (t.ended o) s') := by
  have hopen : ℓ.isOpen = false := by
    obtain ⟨root, exclusive, phase, gate, domain, data⟩ := ℓ
    cases phase with
    | active | nested => exact absurd (hw true) (by rintro ⟨⟩)
    | _ => rfl
  induction hr with
  | start => exact .inl hstack
  | @step t t' hr o' hs ih =>
    rcases ih with ht | ⟨u, hu, hstack', hgone⟩
    · by_cases ho : o = o'
      · subst ho
        have hready : ∀ ℓ' ∈ (t.stack o).head?, ℓ'.isOpen = true → False := by
          intro ℓ' hℓ' hopen'
          rw [ht] at hℓ'
          obtain rfl := Option.some.inj hℓ'
          exact absurd (hopen.symm.trans hopen') (by rintro ⟨⟩)
        cases hs with
        | enter root exclusive hopen' =>
          exact absurd (hopen' ℓ (by rw [ht]; rfl)) (hready ℓ (by rw [ht]; rfl))
        | nest root exclusive hopen' =>
          exact absurd (hopen' ℓ (by rw [ht]; rfl)) (hready ℓ (by rw [ht]; rfl))
        | advance hstack' hphase hlast hfree =>
          obtain ⟨rfl, rfl⟩ := List.cons.inj (ht.symm.trans hstack')
          exact absurd hblocks ((hfree (place, m) (hw _)).1 other hother)
        | leave hstack' hphase =>
          obtain ⟨rfl, rfl⟩ := List.cons.inj (ht.symm.trans hstack')
          exact .inr ⟨t, hr, ht, .inl .start⟩
        | close hstack' hlast =>
          obtain ⟨rfl, rfl⟩ := List.cons.inj (ht.symm.trans hstack')
          have hphase : ℓ.phase = .releasing := by
            simp only [Lease.isReleased, Bool.and_eq_true, decide_eq_true_eq] at hlast
            exact hlast.1.1.1
          have hnone := hw true
          rw [Lease.next, hphase] at hnone
          exact absurd hnone (by rintro ⟨⟩)
        | die => exact .inr ⟨t, hr, ht, .inr .start⟩
      · exact .inl ((hs.others ho).trans ht)
    · exact .inr ⟨u, hu, hstack', hgone.imp (·.step o' hs) (·.step o' hs)⟩

/-- There is one lease, of this owner. -/
structure State.Only (s : State Owner Root) (o : Owner) (ℓ : Lease Root) : Prop where
  own : s.stack o = [ℓ]
  others : ∀ o', o' ≠ o → s.stack o' = []

theorem State.Only.advance {ℓ : Lease Root} (h : s.Only o ℓ) (hr : Runs layout s₀ s)
    (hopen : ℓ.isOpen = false) (hlast : ℓ.isReleased = false) :
    ∃ s', Runs layout s₀ s' ∧ s'.Only o (ℓ.next layout (s.recorded ℓ.root)).1 ∧
      (ℓ.phase ≠ .record → s'.recorded = s.recorded) := by
  have hgrants : ∀ place m, s.Grants layout o [] place m := fun place m =>
    ⟨fun _ hmem => absurd hmem List.not_mem_nil, fun o' hne ℓ' hℓ' => by
      rw [h.others o' hne] at hℓ'
      exact absurd hℓ' List.not_mem_nil⟩
  refine ⟨_, hr.step o (.advance h.own hopen hlast fun _ _ => hgrants _ _), ⟨?_, fun o' hne => ?_⟩,
    fun hphase => ?_⟩
  · rw [State.advance_stack, Function.update_self]
  · rw [State.advance_stack, Function.update_of_ne hne, h.others o' hne]
  · unfold State.advance
    dsimp only
    split
    · next hrecord => exact absurd hrecord hphase
    · rfl
    · rfl

/-- A writer alone gets its lease. -/
theorem enters (layout : Layout Root) (h₀ : s₀.Initial) (o : Owner) (root : Root) : ∃ s, Runs layout s₀ s ∧
    s.Only o ⟨root, true, .active, true, some .exclusive, some .exclusive⟩ := by
  have h₁ : (s₀.withStack o [Lease.entering root true]).Only o (Lease.entering root true) :=
    ⟨Function.update_self .., fun o' hne => (Function.update_of_ne hne _ _).trans (h₀.1 o')⟩
  have hr₁ : Runs layout s₀ (s₀.withStack o [Lease.entering root true]) := by
    have henter : Step layout o s₀ _ :=
      .enter root true (by rw [h₀.1 o]; exact nofun) (h₀.2 o _)
    rw [h₀.1 o] at henter
    exact .step .start o henter
  obtain ⟨s₂, hr₂, h₂, -⟩ := h₁.advance hr₁ rfl rfl
  obtain ⟨s₃, hr₃, h₃, -⟩ := h₂.advance hr₂ rfl rfl
  obtain ⟨s₄, hr₄, h₄, -⟩ := h₃.advance hr₃ rfl rfl
  obtain ⟨s₅, hr₅, h₅⟩ : ∃ s, Runs layout s₀ s ∧
      s.Only o ⟨root, true, .data, true, some .exclusive, none⟩ := by
    cases hrecorded : s₃.recorded root with
    | true => exact ⟨s₄, hr₄, by simpa [Lease.next, Lease.entering, hrecorded] using h₄⟩
    | false =>
      have h₄ : s₄.Only o ⟨root, true, .record, true, some .exclusive, none⟩ := by
        simpa [Lease.next, Lease.entering, hrecorded] using h₄
      obtain ⟨s₅, hr₅, h₅, -⟩ := h₄.advance hr₄ rfl rfl
      exact ⟨s₅, hr₅, h₅⟩
  obtain ⟨s₆, hr₆, h₆, -⟩ := h₅.advance hr₅ rfl rfl
  obtain ⟨s₇, hr₇, h₇, -⟩ := h₆.advance hr₆ rfl rfl
  exact ⟨s₇, hr₇, h₇⟩

/-- A writer that enters a lease on another domain behind its own gate waits
for itself, whatever the others do, until it gives that lease up. -/
theorem writer_blocks_itself (layout : Layout Root) (h₀ : s₀.Initial) (o : Owner)
    (root root' : Root) (exclusive : Bool)
    (hdomain : layout.domain root ≠ layout.domain root')
    (hgate : (layout.domain root).parent = (layout.domain root').parent) :
    ∃ s, Runs layout s₀ s ∧ s.BlockedBy layout o o ∧ ∀ s', Runs layout s s' →
      s'.stack o = s.stack o ∨ ∃ t ℓ rest, Runs layout s t ∧ t.stack o = s.stack o ∧
        s.stack o = ℓ :: rest ∧ ℓ.root = root' ∧
        (Runs layout (t.leave layout o ℓ rest) s' ∨ Runs layout (t.ended o) s') := by
  obtain ⟨s, hr, honly⟩ := enters layout h₀ o root
  let writer : Lease Root := ⟨root, true, .active, true, some .exclusive, some .exclusive⟩
  have hfree : s.domains o (layout.domain root') = none := by
    rw [((hr.inv h₀).tidy o).domains, honly.own, registered_of_ne hdomain]
    rfl
  have henter : Step layout o s _ :=
    .enter root' exclusive (by rw [honly.own]; rintro ℓ ⟨⟩; rfl) hfree
  have hstack : (s.withStack o (Lease.entering root' exclusive :: s.stack o)).stack o =
      Lease.entering root' exclusive :: [writer] := by
    rw [State.withStack_stack, Function.update_self, honly.own]
  have hblocks : writer.Blocks layout (.directory (layout.domain root').parent) .exclusive :=
    ⟨.exclusive, hgate ▸ .gate rfl, .inl rfl⟩
  refine ⟨_, hr.step o henter, ⟨_, _, _, _, hstack, rfl, writer, ?_, hblocks⟩, fun s' hr' => ?_⟩
  · rw [if_pos rfl]
    exact List.mem_singleton_self _
  · rcases blocked_stays hstack (fun _ => rfl) (List.mem_singleton_self _) hblocks hr' with
      hsame | ⟨t, ht, hstack', hgone⟩
    · exact .inl (hsame.trans hstack.symm)
    · exact .inr ⟨t, _, _, ht, hstack'.trans hstack.symm, hstack, rfl, hgone⟩

end

namespace Sample

/-- Every root has a domain of its own, and all domains have one gate. -/
def layout : Layout String where
  domain root := ["srv", root]
  gated _ := nofun

def idle : State Nat String := ⟨fun _ => [], fun _ _ => none, fun _ => true⟩

theorem idle_initial : idle.Initial := ⟨fun _ => rfl, fun _ _ => rfl⟩

/-- The second owner reads, and the first has the gate and waits to write. -/
theorem turnstile : ∃ s, Runs layout idle s ∧ s.HasGate layout 0 ["srv", "a"] ∧
    s.InDomain layout 1 ["srv", "a"] := by
  have h₁ : (idle.withStack 1 [Lease.entering "a" false]).Only 1 (Lease.entering "a" false) :=
    ⟨by rw [State.withStack_stack, Function.update_self], fun o' hne => by
      rw [State.withStack_stack, Function.update_of_ne hne]; rfl⟩
  have hr₁ : Runs layout idle (idle.withStack 1 [Lease.entering "a" false]) :=
    .step .start 1 (.enter "a" false (by rintro _ ⟨⟩) rfl)
  obtain ⟨s₂, hr₂, h₂, he₂⟩ := h₁.advance hr₁ rfl rfl
  obtain ⟨s₃, hr₃, h₃, -⟩ := h₂.advance hr₂ rfl rfl
  have hrecorded : s₂.recorded "a" = true := by rw [he₂ (by decide)]; rfl
  have h₃ : s₃.Only 1 ⟨"a", false, .domain false, true, none, none⟩ := by
    simpa [Lease.next, Lease.entering, hrecorded] using h₃
  obtain ⟨s₄, hr₄, h₄, -⟩ := h₃.advance hr₃ rfl rfl
  obtain ⟨s₅, hr₅, h₅, -⟩ := h₄.advance hr₄ rfl rfl
  obtain ⟨s₆, hr₆, h₆, -⟩ := h₅.advance hr₅ rfl rfl
  obtain ⟨s₇, hr₇, h₇, -⟩ := h₆.advance hr₆ rfl rfl
  let reader : Lease String := ⟨"a", false, .active, false, some .shared, some .shared⟩
  have hreader : s₇.stack 1 = [reader] := h₇.own
  have hnone : s₇.stack 0 = [] := h₇.others 0 (by decide)
  have hdomain : s₇.domains 0 ["srv", "a"] = none := by
    rw [((hr₇.inv idle_initial).tidy 0).domains, hnone]
    rfl
  have henter : Step layout 0 s₇ _ := .enter "a" true (by rw [hnone]; rintro _ ⟨⟩) hdomain
  rw [hnone] at henter
  let waiting := s₇.withStack 0 [Lease.entering "a" true]
  have hwaiting : waiting.stack 0 = [Lease.entering "a" true] := by
    rw [State.withStack_stack, Function.update_self]
  have hothers : ∀ o, o ≠ 0 → waiting.stack o = s₇.stack o := fun o hne =>
    Function.update_of_ne hne _ _
  have hgate : Step layout 0 waiting _ := .advance hwaiting rfl rfl <| by
    rintro _ ⟨⟩
    refine ⟨fun _ h => absurd h List.not_mem_nil, ?_⟩
    rintro o hne ℓ hℓ ⟨m, hm, _⟩
    rw [hothers o hne] at hℓ
    by_cases ho : o = 1
    · rw [ho, hreader, List.mem_singleton] at hℓ
      subst hℓ
      cases hm with
      | gate h => exact absurd h (by rintro ⟨⟩)
    · rw [h₇.others o ho] at hℓ
      exact absurd hℓ List.not_mem_nil
  refine ⟨_, (hr₇.step 0 henter).step 0 hgate,
    ⟨⟨"a", true, .domain true, true, none, none⟩, ?_, rfl, rfl⟩, reader, ?_, rfl, by rintro ⟨⟩⟩
  · rw [State.advance_stack, Function.update_self]
    exact List.mem_singleton_self _
  · rw [State.advance_stack, Function.update_of_ne (by decide), hothers 1 (by decide), hreader]
    exact List.mem_singleton_self _

end Sample

/-- The owner that waits for itself has two leases. -/
theorem no_deadlock_sample : ∃ s : State Nat String, ¬ s.Single 0 := by
  obtain ⟨s, hr, hblocked, -⟩ := writer_blocks_itself Sample.layout Sample.idle_initial 0
    "a" "b" false (by decide) rfl
  obtain ⟨o, rfl, hnot⟩ := no_deadlock Sample.idle_initial hr (S := {0}) (Set.singleton_nonempty 0)
    (by rintro o rfl; exact ⟨0, rfl, hblocked⟩)
  exact ⟨s, hnot⟩

theorem writer_blocks_itself_sample : ∃ s : State Nat String, s.BlockedBy Sample.layout 0 0 := by
  obtain ⟨s, -, hblocked, -⟩ := writer_blocks_itself Sample.layout Sample.idle_initial 0
    "a" "b" false (by decide) rfl
  exact ⟨s, hblocked⟩

end Paic.Leases.Turnstile
