import Paic.Leases.Turnstile

/-!
# The leases of one owner

Which locks go with what a lease does next (`Lease.Ok`), and what the map of
active domains has to do with the stack of leases (`Tidy`): one lemma for each
kind of step.
-/

namespace Paic.Leases.Turnstile

section
variable {Owner Root : Type} {layout : Layout Root}

-- ---------------------------------------------------------------------------
-- What a lease has locked
-- ---------------------------------------------------------------------------

namespace Lease

/-- The locks that go with what a lease does next. -/
def Ok (ℓ : Lease Root) : Prop :=
  match ℓ.phase with
  | .turnstile | .nested => ℓ.gate = false ∧ ℓ.domain = none ∧ ℓ.data = none
  | .domain changed =>
    ℓ.gate = true ∧ ℓ.domain = none ∧ ℓ.data = none ∧ (ℓ.exclusive = true → changed = true)
  | .identity =>
    ℓ.gate = true ∧ ℓ.domain = (if ℓ.exclusive then some .exclusive else none) ∧ ℓ.data = none
  | .record => ℓ.gate = true ∧ ℓ.domain = some .exclusive ∧ ℓ.data = none
  | .downgrade =>
    ℓ.gate = true ∧ ℓ.domain = some .exclusive ∧ ℓ.data = none ∧ ℓ.exclusive = false
  | .converting => ℓ.gate = true ∧ ℓ.domain = none ∧ ℓ.data = none ∧ ℓ.exclusive = false
  | .data => ℓ.gate = true ∧ ℓ.domain = some ℓ.mode ∧ ℓ.data = none
  | .mark => ℓ.gate = true ∧ ℓ.domain = some ℓ.mode ∧ ℓ.data = some ℓ.mode
  | .marked =>
    ℓ.gate = true ∧ ℓ.domain = some ℓ.mode ∧ ℓ.data = some ℓ.mode ∧ ℓ.exclusive = false
  | .active => ℓ.gate = ℓ.exclusive ∧ ℓ.domain = some ℓ.mode ∧ ℓ.data = some ℓ.mode
  | .releasing => ∀ m, ℓ.data = some m → ℓ.domain = some m

theorem ok_entering (root : Root) (exclusive : Bool) : (entering root exclusive).Ok :=
  ⟨rfl, rfl, rfl⟩

theorem ok_reentrant (root : Root) (exclusive : Bool) : (reentrant root exclusive).Ok :=
  ⟨rfl, rfl, rfl⟩

theorem Ok.next {ℓ : Lease Root} (h : ℓ.Ok) (recorded : Bool) :
    (ℓ.next layout recorded).1.Ok := by
  obtain ⟨root, exclusive, phase, gate, domain, data⟩ := ℓ
  cases phase with
  | turnstile => cases exclusive <;> simp_all [Ok, Lease.next]
  | domain changed => cases exclusive <;> cases changed <;> simp_all [Ok, Lease.next, mode]
  | identity => cases exclusive <;> cases recorded <;> simp_all [Ok, Lease.next, mode]
  | record => cases exclusive <;> simp_all [Ok, Lease.next, mode]
  | downgrade => simp_all [Ok, Lease.next]
  | converting => simp_all [Ok, Lease.next, mode]
  | data => simp_all [Ok, Lease.next, mode]
  | mark => cases exclusive <;> simp_all [Ok, Lease.next, mode]
  | marked => simp_all [Ok, Lease.next, mode]
  | active => exact h
  | nested => exact h
  | releasing =>
    cases data with
    | none => cases domain <;> exact fun m hm => absurd hm nofun
    | some => exact fun m hm => absurd hm nofun

theorem Ok.releasing {ℓ : Lease Root} (h : ℓ.Ok) : ({ ℓ with phase := .releasing } : Lease Root).Ok := by
  obtain ⟨root, exclusive, phase, gate, domain, data⟩ := ℓ
  intro m hm
  have hdata : data = some m := hm
  cases phase with
  | turnstile | nested | identity | record | data => exact absurd (h.2.2.symm.trans hdata) nofun
  | domain | downgrade | converting => exact absurd (h.2.2.1.symm.trans hdata) nofun
  | mark | active => exact h.2.1.trans (h.2.2.symm.trans hdata)
  | marked => exact h.2.1.trans (h.2.2.1.symm.trans hdata)
  | releasing => exact h m hm

@[simp] theorem next_root (ℓ : Lease Root) : (ℓ.next layout recorded).1.root = ℓ.root := by
  unfold Lease.next
  split <;> (try split) <;> (try split) <;> rfl

@[simp] theorem next_exclusive (ℓ : Lease Root) :
    (ℓ.next layout recorded).1.exclusive = ℓ.exclusive := by
  unfold Lease.next
  split <;> (try split) <;> (try split) <;> rfl

/-- What a lease has locked after a step, it had before or asked for. -/
theorem next_holds {ℓ : Lease Root} (h : (ℓ.next layout recorded).1.Holds layout place m) :
    ℓ.Holds layout place m ∨ (ℓ.next layout recorded).2 = some (place, m) := by
  obtain ⟨root, exclusive, phase, gate, domain, data⟩ := ℓ
  cases phase with
  | turnstile =>
    cases h with
    | gate => exact .inr rfl
    | domain h => exact .inl (.domain h)
    | data h => exact .inl (.data h)
  | domain changed =>
    cases h with
    | gate h => exact .inl (.gate h)
    | domain h => exact .inr (by cases h; rfl)
    | data h => exact .inl (.data h)
  | downgrade =>
    cases h with
    | gate h => exact .inl (.gate h)
    | domain h => exact absurd h nofun
    | data h => exact .inl (.data h)
  | converting =>
    cases h with
    | gate h => exact .inl (.gate h)
    | domain h => exact .inr (by cases h; rfl)
    | data h => exact .inl (.data h)
  | data =>
    cases h with
    | gate h => exact .inl (.gate h)
    | domain h => exact .inl (.domain h)
    | data h => exact .inr (by cases h; rfl)
  | marked =>
    cases h with
    | gate h => exact absurd h nofun
    | domain h => exact .inl (.domain h)
    | data h => exact .inl (.data h)
  | releasing =>
    cases data with
    | none =>
      cases domain with
      | none =>
        cases h with
        | gate h => exact absurd h nofun
        | domain h => exact absurd h nofun
        | data h => exact absurd h nofun
      | some =>
        cases h with
        | gate h => exact .inl (.gate h)
        | domain h => exact absurd h nofun
        | data h => exact absurd h nofun
    | some =>
      cases h with
      | gate h => exact .inl (.gate h)
      | domain h => exact .inl (.domain h)
      | data h => exact absurd h nofun
  | identity | record | mark | active | nested =>
    cases h with
    | gate h => exact .inl (.gate h)
    | domain h => exact .inl (.domain h)
    | data h => exact .inl (.data h)

theorem entering_holds {root : Root} {exclusive : Bool} :
    ¬ (entering root exclusive).Holds layout place m := by
  rintro (h | h | h) <;> exact absurd h nofun

theorem reentrant_holds {root : Root} {exclusive : Bool} :
    ¬ (reentrant root exclusive).Holds layout place m := by
  rintro (h | h | h) <;> exact absurd h nofun

theorem releasing_holds {ℓ : Lease Root}
    (h : ({ ℓ with phase := .releasing } : Lease Root).Holds layout place m) :
    ℓ.Holds layout place m := by
  cases h with
  | gate h => exact .gate h
  | domain h => exact .domain h
  | data h => exact .data h

/-- A step that is not the one of `_mark_active` registers nothing. -/
theorem next_isMarked {ℓ : Lease Root} (hopen : ℓ.isOpen = false) (hmark : ℓ.phase ≠ .mark) :
    (ℓ.next layout recorded).1.isMarked = ℓ.isMarked := by
  obtain ⟨root, exclusive, phase, gate, domain, data⟩ := ℓ
  cases phase with
  | turnstile => cases exclusive <;> rfl
  | domain changed => cases exclusive <;> cases changed <;> rfl
  | identity => cases exclusive <;> cases recorded <;> rfl
  | record => cases exclusive <;> rfl
  | mark => exact absurd rfl hmark
  | active => exact absurd hopen nofun
  | nested => exact absurd hopen nofun
  | releasing => cases data <;> cases domain <;> rfl
  | downgrade | converting | data | marked => rfl

theorem next_phase (layout : Layout Root) (recorded : Bool) {ℓ : Lease Root} (hopen : ℓ.isOpen = false) :
    (ℓ.next layout recorded).1.phase ≠ .nested ∧
      ((ℓ.next layout recorded).1.phase = .releasing ↔ ℓ.phase = .releasing) := by
  obtain ⟨root, exclusive, phase, gate, domain, data⟩ := ℓ
  cases phase with
  | turnstile => cases exclusive <;> simp [Lease.next]
  | domain changed => cases exclusive <;> cases changed <;> simp [Lease.next]
  | identity => cases exclusive <;> cases recorded <;> simp [Lease.next]
  | record => cases exclusive <;> simp [Lease.next]
  | mark => cases exclusive <;> simp [Lease.next]
  | active => exact absurd hopen nofun
  | nested => exact absurd hopen nofun
  | releasing => cases data <;> cases domain <;> simp [Lease.next]
  | downgrade | converting | data | marked => simp [Lease.next]

end Lease

-- ---------------------------------------------------------------------------
-- The leases of one owner
-- ---------------------------------------------------------------------------

/-- What the map of active domains has for a domain. -/
def registered (layout : Layout Root) (domain : Path) : List (Lease Root) → Option (Bool × Nat)
  | [] => none
  | ℓ :: rest =>
    if ℓ.isMarked = true ∧ layout.domain ℓ.root = domain then
      match registered layout domain rest with
      | none => some (ℓ.exclusive, 1)
      | some (exclusive, count) => some (exclusive, count + 1)
    else registered layout domain rest

/-- A nested lease has one that it is nested in; the others are the first on
their domain. -/
def Covered (layout : Layout Root) : List (Lease Root) → Prop
  | [] => True
  | ℓ :: rest =>
    (ℓ.phase = .nested → ∃ exclusive count,
      registered layout (layout.domain ℓ.root) rest = some (exclusive, count) ∧
        (ℓ.exclusive = true → exclusive = true)) ∧
    (ℓ.phase ≠ .nested → ℓ.phase ≠ .releasing →
      registered layout (layout.domain ℓ.root) rest = none) ∧
    Covered layout rest

structure Tidy (layout : Layout Root) (stack : List (Lease Root))
    (domains : Path → Option (Bool × Nat)) : Prop where
  ok : ∀ ℓ ∈ stack, ℓ.Ok
  behind : ∀ ℓ ∈ stack.tail, ℓ.isOpen = true
  covered : Covered layout stack
  domains : ∀ domain, domains domain = registered layout domain stack

theorem registered_pos (h : registered layout domain stack = some (exclusive, count)) :
    0 < count := by
  induction stack generalizing exclusive count with
  | nil => exact absurd h nofun
  | cons ℓ rest ih =>
    rw [registered] at h
    split at h
    · cases hrest : registered layout domain rest with
      | none =>
        rw [hrest] at h
        obtain ⟨-, rfl⟩ := Prod.mk.inj (Option.some.inj h)
        exact Nat.one_pos
      | some value =>
        rw [hrest] at h
        obtain ⟨-, rfl⟩ := Prod.mk.inj (Option.some.inj h)
        exact Nat.succ_pos _
    · exact ih h

theorem registered_of_not {ℓ : Lease Root} (h : ℓ.isMarked = false) :
    registered layout domain (ℓ :: rest) = registered layout domain rest := by
  rw [registered, if_neg (by simp [h])]

theorem registered_of_ne {ℓ : Lease Root} (h : layout.domain ℓ.root ≠ domain) :
    registered layout domain (ℓ :: rest) = registered layout domain rest := by
  rw [registered, if_neg fun hd => h hd.2]

/-- Some lease that has locked the domain registered it first. -/
theorem registered_first {stack : List (Lease Root)} (hc : Covered layout stack)
    (h : registered layout domain stack = some (exclusive, count)) :
    ∃ ℓ ∈ stack, ℓ.isMarked = true ∧ ℓ.phase ≠ .nested ∧ layout.domain ℓ.root = domain ∧
      ℓ.exclusive = exclusive := by
  induction stack generalizing exclusive count with
  | nil => exact absurd h nofun
  | cons ℓ rest ih =>
    obtain ⟨hnested, -, hrest⟩ := hc
    have behind : ∀ {x n}, registered layout domain rest = some (x, n) →
        ∃ ℓ' ∈ ℓ :: rest, ℓ'.isMarked = true ∧ ℓ'.phase ≠ .nested ∧
          layout.domain ℓ'.root = domain ∧ ℓ'.exclusive = x := fun hr => by
      obtain ⟨ℓ', hmem, h'⟩ := ih hrest hr
      exact ⟨ℓ', List.mem_cons_of_mem _ hmem, h'⟩
    rw [registered] at h
    split at h
    · next hmarked =>
      obtain ⟨hmarked, rfl⟩ := hmarked
      cases hr : registered layout (layout.domain ℓ.root) rest with
      | none =>
        rw [hr] at h
        obtain ⟨rfl, -⟩ := Prod.mk.inj (Option.some.inj h)
        refine ⟨ℓ, List.mem_cons_self, hmarked, fun hn => ?_, rfl, rfl⟩
        obtain ⟨_, _, hsome, -⟩ := hnested hn
        exact absurd (hr.symm.trans hsome) nofun
      | some value =>
        obtain ⟨x, n⟩ := value
        rw [hr] at h
        obtain ⟨rfl, -⟩ := Prod.mk.inj (Option.some.inj h)
        exact behind hr
    · exact behind h

/-- What a marked lease says about the entry of its domain. -/
theorem registered_of_mem {stack : List (Lease Root)} (hc : Covered layout stack) (hmem : ℓ ∈ stack)
    (hmarked : ℓ.isMarked = true) : ∃ exclusive count,
      registered layout (layout.domain ℓ.root) stack = some (exclusive, count) ∧
        (ℓ.exclusive = true → exclusive = true) ∧
        (ℓ.phase ≠ .nested → exclusive = ℓ.exclusive) := by
  induction stack with
  | nil => exact absurd hmem List.not_mem_nil
  | cons top rest ih =>
    obtain ⟨hnested, hfirst, hrest⟩ := hc
    rcases List.mem_cons.mp hmem with rfl | hmem
    · rw [registered, if_pos ⟨hmarked, rfl⟩]
      by_cases hn : ℓ.phase = .nested
      · obtain ⟨x, n, hr, hx⟩ := hnested hn
        exact ⟨x, n + 1, by rw [hr], hx, fun h => absurd hn h⟩
      · have hnot : ℓ.phase ≠ .releasing := fun hr => by
          simp [Lease.isMarked, hr] at hmarked
        exact ⟨ℓ.exclusive, 1, by rw [hfirst hn hnot], id, fun _ => rfl⟩
    · obtain ⟨x, n, hr, hx, hn⟩ := ih hrest hmem
      rw [registered, hr]
      split
      · exact ⟨x, n + 1, rfl, hx, hn⟩
      · exact ⟨x, n, rfl, hx, hn⟩

namespace Tidy

variable {stack rest : List (Lease Root)} {domains : Path → Option (Bool × Nat)} {ℓ : Lease Root}

theorem push (h : Tidy layout stack domains)
    (hopen : ∀ ℓ ∈ stack.head?, ℓ.isOpen = true) : ∀ ℓ ∈ stack, ℓ.isOpen = true := by
  intro ℓ hℓ
  cases stack with
  | nil => exact absurd hℓ List.not_mem_nil
  | cons top rest =>
    rcases List.mem_cons.mp hℓ with rfl | hℓ
    · exact hopen _ rfl
    · exact h.behind _ hℓ

theorem enter {root : Root} (h : Tidy layout stack domains)
    (hopen : ∀ ℓ ∈ stack.head?, ℓ.isOpen = true) (hdomain : domains (layout.domain root) = none) :
    Tidy layout (Lease.entering root exclusive :: stack) domains where
  ok := List.forall_mem_cons.mpr ⟨Lease.ok_entering _ _, h.ok⟩
  behind := h.push hopen
  covered := ⟨nofun, fun _ _ => (h.domains _).symm.trans hdomain, h.covered⟩
  domains d := (h.domains d).trans (registered_of_not rfl).symm

theorem nest {root : Root} (h : Tidy layout stack domains)
    (hopen : ∀ ℓ ∈ stack.head?, ℓ.isOpen = true)
    (hdomain : domains (layout.domain root) = some (activeExclusive, count))
    (hsafe : exclusive = true → activeExclusive = true) :
    Tidy layout (Lease.reentrant root exclusive :: stack)
      (Function.update domains (layout.domain root) (some (activeExclusive, count + 1))) where
  ok := List.forall_mem_cons.mpr ⟨Lease.ok_reentrant _ _, h.ok⟩
  behind := h.push hopen
  covered := ⟨fun _ => ⟨_, _, (h.domains _).symm.trans hdomain, hsafe⟩,
    fun hn => absurd rfl hn, h.covered⟩
  domains d := by
    by_cases hd : layout.domain root = d
    · subst hd
      rw [Function.update_self, registered, if_pos ⟨rfl, rfl⟩,
        ← h.domains, hdomain]
    · rw [Function.update_of_ne (Ne.symm hd), registered_of_ne hd]
      exact h.domains d

theorem advance (h : Tidy layout (ℓ :: rest) domains) (hopen : ℓ.isOpen = false)
    (hmark : ℓ.phase ≠ .mark) (recorded : Bool) :
    Tidy layout ((ℓ.next layout recorded).1 :: rest) domains where
  ok := List.forall_mem_cons.mpr
    ⟨(h.ok ℓ List.mem_cons_self).next recorded, (List.forall_mem_cons.mp h.ok).2⟩
  behind := h.behind
  covered := by
    obtain ⟨hn, hr⟩ := Lease.next_phase layout recorded hopen
    have hnested : ℓ.phase ≠ .nested := fun he => by simp [Lease.isOpen, he] at hopen
    refine ⟨fun he => absurd he hn, fun _ hnot => ?_, h.covered.2.2⟩
    rw [Lease.next_root]
    exact h.covered.2.1 hnested fun he => hnot (hr.mpr he)
  domains d := by
    rw [h.domains d, registered, registered, Lease.next_isMarked hopen hmark, Lease.next_root,
      Lease.next_exclusive]

theorem mark (h : Tidy layout (ℓ :: rest) domains) (hmark : ℓ.phase = .mark) (recorded : Bool) :
    Tidy layout ((ℓ.next layout recorded).1 :: rest)
      (Function.update domains (layout.domain ℓ.root) (some (ℓ.exclusive, 1))) ∧
      domains (layout.domain ℓ.root) = none := by
  have hrest : registered layout (layout.domain ℓ.root) rest = none :=
    h.covered.2.1 (by simp [hmark]) (by simp [hmark])
  have hopen : ℓ.isOpen = false := by simp [Lease.isOpen, hmark]
  have hmarked : ((ℓ.next layout recorded).1).isMarked = true := by
    obtain ⟨root, exclusive, phase, gate, domain, data⟩ := ℓ
    obtain rfl : phase = .mark := hmark
    cases exclusive <;> rfl
  obtain ⟨hn, hr⟩ := Lease.next_phase layout recorded hopen
  constructor
  · constructor
    case ok =>
      exact List.forall_mem_cons.mpr
        ⟨(h.ok ℓ List.mem_cons_self).next recorded, (List.forall_mem_cons.mp h.ok).2⟩
    case behind => exact h.behind
    case covered =>
      exact ⟨fun he => absurd he hn, fun _ _ => by rw [Lease.next_root]; exact hrest,
        h.covered.2.2⟩
    case domains =>
      intro d
      by_cases hd : layout.domain ℓ.root = d
      · subst hd
        rw [Function.update_self, registered, if_pos ⟨hmarked, by rw [Lease.next_root]⟩, hrest,
          Lease.next_exclusive]
      · rw [Function.update_of_ne (Ne.symm hd), registered_of_ne (by rw [Lease.next_root]; exact hd),
          h.domains, registered_of_ne hd]
  · rw [h.domains, registered_of_not (by simp [Lease.isMarked, hmark])]
    exact hrest

theorem leave (h : Tidy layout (ℓ :: rest) domains) (hmarked : ℓ.isMarked = false) :
    Tidy layout ({ ℓ with phase := .releasing } :: rest) domains where
  ok := List.forall_mem_cons.mpr
    ⟨(h.ok ℓ List.mem_cons_self).releasing, (List.forall_mem_cons.mp h.ok).2⟩
  behind := h.behind
  covered := ⟨nofun, fun _ hn => absurd rfl hn, h.covered.2.2⟩
  domains d := by rw [h.domains, registered_of_not hmarked, registered_of_not rfl]

theorem unmark (h : Tidy layout (ℓ :: rest) domains) (hmarked : ℓ.isMarked = true) :
    ∃ exclusive count, domains (layout.domain ℓ.root) = some (exclusive, count) ∧
      Tidy layout ({ ℓ with phase := .releasing } :: rest) (Function.update domains
        (layout.domain ℓ.root) (if count ≤ 1 then none else some (exclusive, count - 1))) := by
  have hbefore := h.domains (layout.domain ℓ.root)
  rw [registered, if_pos ⟨hmarked, rfl⟩] at hbefore
  have htidy : ∀ value, value = registered layout (layout.domain ℓ.root) rest →
      Tidy layout ({ ℓ with phase := .releasing } :: rest)
        (Function.update domains (layout.domain ℓ.root) value) := by
    rintro value rfl
    constructor
    case ok =>
      exact List.forall_mem_cons.mpr
        ⟨(h.ok ℓ List.mem_cons_self).releasing, (List.forall_mem_cons.mp h.ok).2⟩
    case behind => exact h.behind
    case covered => exact ⟨nofun, fun _ hn => absurd rfl hn, h.covered.2.2⟩
    case domains =>
      intro d
      by_cases hd : layout.domain ℓ.root = d
      · subst hd
        rw [Function.update_self, registered_of_not rfl]
      · rw [Function.update_of_ne (Ne.symm hd), h.domains, registered_of_ne hd,
          registered_of_not rfl]
  cases hrest : registered layout (layout.domain ℓ.root) rest with
  | none =>
    rw [hrest] at hbefore
    exact ⟨_, _, hbefore, htidy _ hrest.symm⟩
  | some value =>
    obtain ⟨exclusive, count⟩ := value
    rw [hrest] at hbefore
    have hpos := registered_pos hrest
    refine ⟨_, _, hbefore, htidy _ ?_⟩
    rw [if_neg (by omega), hrest, Nat.add_sub_cancel]

theorem close (h : Tidy layout (ℓ :: rest) domains) (hlast : ℓ.isReleased = true) :
    Tidy layout rest domains where
  ok := (List.forall_mem_cons.mp h.ok).2
  behind ℓ' hℓ := h.behind ℓ' (List.mem_of_mem_tail hℓ)
  covered := h.covered.2.2
  domains d := by
    have hphase : ℓ.phase = .releasing := by
      simp only [Lease.isReleased, Bool.and_eq_true, decide_eq_true_eq] at hlast
      exact hlast.1.1.1
    rw [h.domains, registered_of_not (by simp [Lease.isMarked, hphase])]

end Tidy

end

end Paic.Leases.Turnstile
