import Mathlib

/-!
# Means of lists

The mean of a list lies between bounds of its elements and grows with them. So
does a mean with weights. The mean of no elements is zero.
-/

namespace Paic.Mean

variable {α K : Type*} [Field K]

def mean (values : List K) : K := values.sum / values.length

@[simp] theorem mean_nil : mean ([] : List K) = 0 := by simp [mean]

theorem mean_perm {xs ys : List K} (h : xs.Perm ys) : mean xs = mean ys := by
  rw [mean, mean, h.sum_eq, h.length_eq]

variable [LinearOrder K] [IsStrictOrderedRing K]

theorem mean_nonneg {values : List K} (h : ∀ x ∈ values, 0 ≤ x) : 0 ≤ mean values :=
  div_nonneg (List.sum_nonneg h) (Nat.cast_nonneg _)

theorem mean_le {values : List K} {c : K} (hc : 0 ≤ c) (h : ∀ x ∈ values, x ≤ c) :
    mean values ≤ c := by
  have hsum : values.sum ≤ c * values.length := by
    have h := List.sum_le_card_nsmul values c h
    rwa [nsmul_eq_mul, mul_comm] at h
  exact div_le_of_le_mul₀ (Nat.cast_nonneg _) hc hsum

theorem mean_mono {l : List α} {f g : α → K} (h : ∀ a ∈ l, f a ≤ g a) :
    mean (l.map f) ≤ mean (l.map g) := by
  have hsum : (l.map f).sum ≤ (l.map g).sum := List.sum_le_sum h
  rw [mean, mean, List.length_map, List.length_map]
  exact div_le_div_of_nonneg_right hsum (Nat.cast_nonneg _)

/-- The mean of a part, times its share of the whole, is at most the mean of the whole. -/
theorem mean_mul_share_le {xs ys : List K} (h : xs.Sublist ys) (hnonneg : ∀ y ∈ ys, 0 ≤ y) :
    mean xs * ((xs.length : K) / ys.length) ≤ mean ys := by
  have hsum : xs.sum ≤ ys.sum := h.sum_le_sum hnonneg
  rcases eq_or_ne (xs.length : K) 0 with hempty | hlength
  · rw [hempty, zero_div, mul_zero]
    exact mean_nonneg hnonneg
  · rw [mean, mean, div_mul_div_cancel₀ hlength]
    exact div_le_div_of_nonneg_right hsum (Nat.cast_nonneg _)

-- ---------------------------------------------------------------------------
-- With weights
-- ---------------------------------------------------------------------------

section
variable {l : List α} {weight value : α → K}

theorem weighted_nonneg (hweight : ∀ a ∈ l, 0 ≤ weight a) (hvalue : ∀ a ∈ l, 0 ≤ value a) :
    0 ≤ (l.map fun a => weight a * value a).sum / (l.map weight).sum := by
  refine div_nonneg (List.sum_nonneg fun x hx => ?_) (List.sum_nonneg fun x hx => ?_)
  · obtain ⟨a, ha, rfl⟩ := List.mem_map.mp hx
    exact mul_nonneg (hweight a ha) (hvalue a ha)
  · obtain ⟨a, ha, rfl⟩ := List.mem_map.mp hx
    exact hweight a ha

theorem weighted_le_one (hweight : ∀ a ∈ l, 0 ≤ weight a) (hvalue : ∀ a ∈ l, value a ≤ 1) :
    (l.map fun a => weight a * value a).sum / (l.map weight).sum ≤ 1 := by
  have hsum : (l.map fun a => weight a * value a).sum ≤ (l.map weight).sum :=
    List.sum_le_sum fun a ha => mul_le_of_le_one_right (hweight a ha) (hvalue a ha)
  refine div_le_one_of_le₀ hsum (List.sum_nonneg fun x hx => ?_)
  obtain ⟨a, ha, rfl⟩ := List.mem_map.mp hx
  exact hweight a ha

end

end Paic.Mean
