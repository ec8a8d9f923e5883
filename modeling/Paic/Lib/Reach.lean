import Mathlib

/-!
# Reachability within a distance

The points within a distance of a start, along a relation. A search that goes
from layer to layer needs the last layer alone, and may stop at an empty one.
-/

namespace Paic.Reach

variable {α : Type*}

/-- A path of some number of steps. -/
inductive Walk (step : α → α → Prop) (start : α) : Nat → α → Prop
  | nil : Walk step start 0 start
  | next : Walk step start n u → step u v → Walk step start (n + 1) v

/-- The distance from the start is at most `n`. -/
def Within (step : α → α → Prop) (start : α) (n : Nat) (v : α) : Prop :=
  ∃ k ≤ n, Walk step start k v

/-- The distance from the start is `n`. -/
def Layer (step : α → α → Prop) (start : α) (n : Nat) (v : α) : Prop :=
  Within step start n v ∧ ∀ m < n, ¬ Within step start m v

variable {step : α → α → Prop} {start u v : α}

theorem within_zero : Within step start 0 v ↔ v = start := by
  constructor
  · rintro ⟨k, hk, hwalk⟩
    obtain rfl := Nat.le_zero.mp hk
    cases hwalk
    rfl
  · rintro rfl
    exact ⟨0, Nat.le_refl 0, .nil⟩

theorem Within.mono (h : Within step start n v) (hle : n ≤ m) : Within step start m v := by
  obtain ⟨k, hk, hwalk⟩ := h
  exact ⟨k, hk.trans hle, hwalk⟩

theorem within_succ : Within step start (n + 1) v ↔
    Within step start n v ∨ ∃ u, Within step start n u ∧ step u v := by
  constructor
  · rintro ⟨k, hk, hwalk⟩
    cases hwalk with
    | nil => exact .inl ⟨0, Nat.zero_le n, .nil⟩
    | next hwalk hstep => exact .inr ⟨_, ⟨_, Nat.le_of_succ_le_succ hk, hwalk⟩, hstep⟩
  · rintro (h | ⟨u, ⟨k, hk, hwalk⟩, hstep⟩)
    · exact h.mono (Nat.le_succ n)
    · exact ⟨k + 1, Nat.succ_le_succ hk, hwalk.next hstep⟩

/-- A point within a distance is in the last layer, or nearer. -/
theorem Within.layer (h : Within step start n v) :
    Layer step start n v ∨ ∃ m < n, Within step start m v := by
  by_cases hnear : ∃ m < n, Within step start m v
  · exact .inr hnear
  · exact .inl ⟨h, fun m hm hwithin => hnear ⟨m, hm, hwithin⟩⟩

/-- Only steps from the last layer lead further. -/
theorem within_succ_layer : Within step start (n + 1) v ↔
    Within step start n v ∨ ∃ u, Layer step start n u ∧ step u v := by
  rw [within_succ]
  constructor
  · rintro (h | ⟨u, hu, hstep⟩)
    · exact .inl h
    · rcases hu.layer with hlayer | ⟨m, hm, hnear⟩
      · exact .inr ⟨u, hlayer, hstep⟩
      · exact .inl ((within_succ.mpr (.inr ⟨u, hnear, hstep⟩)).mono hm)
  · rintro (h | ⟨u, hu, hstep⟩)
    · exact .inl h
    · exact .inr ⟨u, hu.1, hstep⟩

theorem layer_succ : Layer step start (n + 1) v ↔
    Within step start (n + 1) v ∧ ¬ Within step start n v := by
  constructor
  · exact fun h => ⟨h.1, h.2 n (Nat.lt_succ_self n)⟩
  · exact fun h => ⟨h.1, fun m hm hnear => h.2 (hnear.mono (Nat.le_of_lt_succ hm))⟩

/-- Behind an empty layer there is nothing. -/
theorem within_of_stable (hstable : ∀ v, Within step start (n + 1) v → Within step start n v)
    (h : Within step start m v) : Within step start n v := by
  induction m generalizing v with
  | zero => exact h.mono (Nat.zero_le n)
  | succ m ih =>
    rcases within_succ.mp h with h | ⟨u, hu, hstep⟩
    · exact ih h
    · exact hstable v (within_succ.mpr (.inr ⟨u, ih hu, hstep⟩))

end Paic.Reach
