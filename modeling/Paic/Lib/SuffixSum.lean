import Mathlib

/-!
# Sums that restart at zero

`side` adds up a list and never falls below zero. It is the greatest sum of a
suffix, and while it is positive it is the sum since it was last zero.
-/

namespace Paic.SuffixSum

variable {α β : Type*} [AddCommMonoid α] [LinearOrder α]

/-- The sum that is carried along. -/
def side (xs : List α) : α := xs.foldl (fun s x => max 0 (s + x)) 0

@[simp] theorem side_nil : side ([] : List α) = 0 := rfl

theorem side_concat (xs : List α) (x : α) : side (xs ++ [x]) = max 0 (side xs + x) := by
  rw [side, List.foldl_concat]
  rfl

theorem side_nonneg (xs : List α) : 0 ≤ side xs := by
  induction xs using List.reverseRecOn with
  | nil => exact le_refl _
  | append_singleton xs x => rw [side_concat]; exact le_max_left _ _

/-- It is the greatest sum of a suffix, of which one is empty. -/
theorem side_isGreatest [IsOrderedAddMonoid α] (xs : List α) :
    IsGreatest {s | ∃ ys, ys <:+ xs ∧ ys.sum = s} (side xs) := by
  induction xs using List.reverseRecOn with
  | nil =>
    refine ⟨⟨[], List.suffix_refl _, rfl⟩, ?_⟩
    rintro _ ⟨ys, hys, rfl⟩
    rw [List.suffix_nil.mp hys]
    exact le_refl _
  | append_singleton xs x ih =>
    rw [side_concat]
    obtain ⟨⟨best, hbest, hsum⟩, hupper⟩ := ih
    constructor
    · rcases le_total (side xs + x) 0 with h | h
      · rw [max_eq_left h]
        exact ⟨[], List.nil_suffix, rfl⟩
      · rw [max_eq_right h]
        exact ⟨best ++ [x], List.suffix_concat_iff.mpr (.inr ⟨best, rfl, hbest⟩), by
          rw [List.sum_append, List.sum_singleton, hsum]⟩
    · rintro _ ⟨ys, hys, rfl⟩
      rcases List.suffix_concat_iff.mp hys with rfl | ⟨zs, rfl, hzs⟩
      · exact le_max_left _ _
      · rw [List.sum_append, List.sum_singleton]
        exact le_max_of_le_right (add_le_add_left (hupper ⟨zs, hzs, rfl⟩) x)

section
variable (value : β → α)

/-- The side was last zero before `first`. -/
structure Since (calls front : List β) (first : β) (back : List β) : Prop where
  split : calls = front ++ first :: back
  zero : side (front.map value) = 0
  positive : ∀ mid, mid <+: back → 0 < side ((front ++ first :: mid).map value)
  sum : side (calls.map value) = ((first :: back).map value).sum

/-- The side with the mark of its last start: a side at zero starts anew. -/
def mark (state : α × Option β) (call : β) : α × Option β :=
  (max 0 (state.1 + value call), if state.1 ≤ 0 then some call else state.2)

variable {value}

theorem foldl_mark_fst (calls : List β) (start : Option β) :
    (calls.foldl (mark value) (0, start)).1 = side (calls.map value) := by
  induction calls using List.reverseRecOn with
  | nil => rfl
  | append_singleton calls call ih =>
    rw [List.foldl_concat, List.map_append, List.map_singleton, side_concat, mark, ih]

/-- The mark of a positive side is the first call since it was zero. -/
theorem foldl_mark (calls : List β) (start : Option β) (h : 0 < side (calls.map value)) :
    ∃ front first back, Since value calls front first back ∧
      (calls.foldl (mark value) (0, start)).2 = some first := by
  induction calls using List.reverseRecOn with
  | nil => exact absurd h (lt_irrefl _)
  | append_singleton calls call ih =>
    have hside : side ((calls ++ [call]).map value) = max 0 (side (calls.map value) + value call) := by
      rw [List.map_append, List.map_singleton, side_concat]
    rw [List.foldl_concat, mark, foldl_mark_fst]
    have hpos := h
    rw [hside, lt_max_iff, or_iff_right (lt_irrefl _)] at hpos
    have hvalue : side ((calls ++ [call]).map value) = side (calls.map value) + value call := by
      rw [hside, max_eq_right (le_of_lt hpos)]
    rcases (side_nonneg (calls.map value)).eq_or_lt with hzero | hcalls
    · refine ⟨calls, call, [], ⟨rfl, hzero.symm, fun mid hmid => ?_, ?_⟩, ?_⟩
      · rwa [List.prefix_nil.mp hmid]
      · rw [hvalue, ← hzero, zero_add, List.map_singleton, List.sum_singleton]
      · exact if_pos (le_of_eq hzero.symm)
    · obtain ⟨front, first, back, hsince, hmark⟩ := ih hcalls
      refine ⟨front, first, back ++ [call], ⟨?_, hsince.zero, fun mid hmid => ?_, ?_⟩, ?_⟩
      · rw [hsince.split, List.append_assoc, List.cons_append]
      · rcases List.prefix_concat_iff.mp hmid with rfl | hmid
        · rwa [hsince.split, List.append_assoc, List.cons_append] at h
        · exact hsince.positive mid hmid
      · rw [hvalue, hsince.sum, ← List.cons_append, List.map_append, List.sum_append,
          List.map_singleton, List.sum_singleton]
      · rw [if_neg (not_le.mpr hcalls)]
        exact hmark

end

end Paic.SuffixSum
