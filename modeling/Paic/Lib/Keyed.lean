import Mathlib

/-!
# Sequential updates of a keyed store

A command names one key and says how the entry there changes, or that it
cannot. A run applies commands one after the other and fails as a whole when
one of them fails. When no two commands share a key, a run depends neither
on their order nor on what the earlier ones did; when every command has an
inverse, the inverses in reverse order take a run back.
-/

namespace Paic.Keyed

structure Commands (κ α ρ : Type) where
  key : α → κ
  change : α → ρ → Option ρ

variable [DecidableEq κ] {c : Commands κ α ρ} {m m' : κ → Option ρ}

/-- What the command makes of the entry at its key. -/
def Commands.result (c : Commands κ α ρ) (m : κ → Option ρ) (a : α) : Option ρ :=
  (m (c.key a)).bind (c.change a)

def Commands.step (c : Commands κ α ρ) (m : κ → Option ρ) (a : α) : Option (κ → Option ρ) :=
  (c.result m a).map fun r => Function.update m (c.key a) (some r)

def Commands.run (c : Commands κ α ρ) (m : κ → Option ρ) : List α → Option (κ → Option ρ)
  | [] => some m
  | a :: rest => (c.step m a).bind fun m' => c.run m' rest

theorem step_eq_some : c.step m a = some m' ↔
    ∃ r r', m (c.key a) = some r ∧ c.change a r = some r' ∧
      m' = Function.update m (c.key a) (some r') := by
  simp only [Commands.step, Commands.result, Option.map_eq_some_iff, Option.bind_eq_some_iff]
  constructor
  · rintro ⟨r', ⟨r, hr, hc⟩, rfl⟩
    exact ⟨r, r', hr, hc, rfl⟩
  · rintro ⟨r, r', hr, hc, rfl⟩
    exact ⟨r', ⟨r, hr, hc⟩, rfl⟩

@[simp] theorem run_nil : c.run m [] = some m := rfl

theorem run_cons : c.run m (a :: rest) = (c.step m a).bind fun m' => c.run m' rest := rfl

theorem run_append : c.run m (xs ++ ys) = (c.run m xs).bind fun m' => c.run m' ys := by
  induction xs generalizing m with
  | nil => rfl
  | cons x xs ih =>
    simp only [List.cons_append, run_cons, Option.bind_assoc]
    exact congrArg _ (funext fun m' => ih)

-- ---------------------------------------------------------------------------
-- Keys that no command shares
-- ---------------------------------------------------------------------------

/-- Keys without a command keep their entries. -/
theorem run_frame (h : c.run m as = some m') (hk : k ∉ as.map c.key) : m' k = m k := by
  induction as generalizing m with
  | nil => simp only [run_nil, Option.some.injEq] at h; rw [h]
  | cons a as ih =>
    simp only [List.map_cons, List.mem_cons, not_or] at hk
    obtain ⟨m₁, hs, hr⟩ := Option.bind_eq_some_iff.mp h
    obtain ⟨r, r', -, -, rfl⟩ := step_eq_some.mp hs
    rw [ih hr hk.2, Function.update_of_ne hk.1]

/-- An update elsewhere does not change what a command makes of its entry. -/
theorem result_update_of_ne (h : c.key a ≠ k) :
    c.result (Function.update m k v) a = c.result m a := by
  rw [Commands.result, Function.update_of_ne h, Commands.result]

/-- Commands on different keys succeed together as soon as each succeeds by
itself, and each leaves at its key what it makes of the entry there. -/
theorem run_of_results (hd : (as.map c.key).Nodup) (h : ∀ a ∈ as, (c.result m a).isSome = true) :
    ∃ m', c.run m as = some m' ∧ ∀ a ∈ as, m' (c.key a) = c.result m a := by
  induction as generalizing m with
  | nil => exact ⟨m, rfl, nofun⟩
  | cons a as ih =>
    obtain ⟨hnew, hd⟩ := List.nodup_cons.mp hd
    obtain ⟨r, hr⟩ := Option.isSome_iff_exists.mp (h a (by simp))
    have hne : ∀ b ∈ as, c.key b ≠ c.key a := fun b hb he =>
      hnew (he ▸ List.mem_map_of_mem hb)
    have hsame : ∀ b ∈ as, c.result (Function.update m (c.key a) (some r)) b = c.result m b :=
      fun b hb => result_update_of_ne (hne b hb)
    obtain ⟨m', hrun, hm'⟩ := ih hd fun b hb => by
      rw [hsame b hb]; exact h b (List.mem_cons_of_mem _ hb)
    refine ⟨m', by simp [run_cons, Commands.step, hr, hrun], fun b hb => ?_⟩
    rcases List.mem_cons.mp hb with rfl | hb
    · rw [run_frame hrun hnew, Function.update_self, hr]
    · rw [hm' b hb, hsame b hb]

/-- When a run of commands on different keys succeeds, each command did. -/
theorem results_of_run (hd : (as.map c.key).Nodup) (h : c.run m as = some m') :
    ∀ a ∈ as, ∃ r, c.result m a = some r ∧ m' (c.key a) = some r := by
  induction as generalizing m with
  | nil => nofun
  | cons a as ih =>
    obtain ⟨hnew, hd⟩ := List.nodup_cons.mp hd
    obtain ⟨m₁, hs, hr⟩ := Option.bind_eq_some_iff.mp h
    obtain ⟨r, hres, rfl⟩ := Option.map_eq_some_iff.mp hs
    intro b hb
    rcases List.mem_cons.mp hb with rfl | hb
    · exact ⟨r, hres, by rw [run_frame hr hnew, Function.update_self]⟩
    · obtain ⟨r', hr', hm'⟩ := ih hd hr b hb
      have hne : c.key b ≠ c.key a := fun he => hnew (he ▸ List.mem_map_of_mem hb)
      rw [result_update_of_ne hne] at hr'
      exact ⟨r', hr', hm'⟩

theorem step_comm (h : c.key a ≠ c.key b) :
    ((c.step m a).bind fun m' => c.step m' b) = (c.step m b).bind fun m' => c.step m' a := by
  simp only [Commands.step]
  cases ha : c.result m a <;> cases hb : c.result m b <;>
    simp [result_update_of_ne h, result_update_of_ne h.symm, ha, hb, Function.update_comm h]

/-- Commands on different keys may run in any order. -/
theorem run_perm (hp : as.Perm bs) (hd : (as.map c.key).Nodup) : c.run m as = c.run m bs := by
  induction hp generalizing m with
  | nil => rfl
  | cons a _ ih =>
    rw [run_cons, run_cons]
    exact congrArg _ (funext fun m' => ih (List.nodup_cons.mp hd).2)
  | swap a b rest =>
    simp only [List.map_cons, List.nodup_cons, List.mem_cons, not_or] at hd
    simp only [run_cons, ← Option.bind_assoc]
    rw [step_comm hd.1.1]
  | trans hp _ ih₁ ih₂ =>
    rw [ih₁ hd, ih₂ ((hp.map c.key).nodup_iff.mp hd)]

-- ---------------------------------------------------------------------------
-- Inverses
-- ---------------------------------------------------------------------------

/-- `inv` takes back a change of every entry that satisfies `P`. -/
structure Inverse (c : Commands κ α ρ) (P : ρ → Prop) (inv : α → α) : Prop where
  key : ∀ a, c.key (inv a) = c.key a
  change : ∀ a r r', P r → c.change a r = some r' → c.change (inv a) r' = some r
  keeps : ∀ a r r', P r → c.change a r = some r' → P r'

theorem Inverse.step (hinv : Inverse c P inv) (hp : ∀ k r, m k = some r → P r)
    (h : c.step m a = some m') :
    c.step m' (inv a) = some m ∧ ∀ k r, m' k = some r → P r := by
  obtain ⟨r, r', hr, hc, rfl⟩ := step_eq_some.mp h
  have hpr := hp _ r hr
  constructor
  · refine step_eq_some.mpr ⟨r', r, ?_, hinv.change a r r' hpr hc, ?_⟩
    · rw [hinv.key, Function.update_self]
    · rw [hinv.key, Function.update_idem, ← hr, Function.update_eq_self]
  · intro k q hq
    by_cases hk : k = c.key a
    · subst hk
      rw [Function.update_self, Option.some.injEq] at hq
      exact hq ▸ hinv.keeps a r r' hpr hc
    · rw [Function.update_of_ne hk] at hq
      exact hp k q hq

/-- The inverses in reverse order take a run back. -/
theorem Inverse.run (hinv : Inverse c P inv) (hp : ∀ k r, m k = some r → P r)
    (h : c.run m as = some m') :
    c.run m' (as.map inv).reverse = some m ∧ ∀ k r, m' k = some r → P r := by
  induction as generalizing m with
  | nil =>
    simp only [run_nil, Option.some.injEq] at h
    subst h
    exact ⟨rfl, hp⟩
  | cons a as ih =>
    obtain ⟨m₁, hs, hr⟩ := Option.bind_eq_some_iff.mp h
    obtain ⟨hback, hp₁⟩ := hinv.step hp hs
    obtain ⟨hrest, hp'⟩ := ih hp₁ hr
    refine ⟨?_, hp'⟩
    rw [List.map_cons, List.reverse_cons, run_append, hrest, Option.bind_some, run_cons, hback]
    rfl

end Paic.Keyed
