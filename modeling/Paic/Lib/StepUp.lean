import Mathlib

/-!
# The step-up procedure

Values in order, each of them worth more the earlier it stands. The adjusted
value of a rank is the least of what the values from that rank on are worth,
and one. It depends on the value at the rank only, and is at most a level below
one exactly when the step-up procedure of that level rejects the value.
-/

namespace Paic.StepUp

variable {K : Type*} [Field K] [LinearOrder K] [IsStrictOrderedRing K]

/-- What the value of rank `j + 1` is worth. -/
def scaled (s : List K) (j : Fin s.length) : K := s[j] * s.length / (j + 1)

/-- One, and what the values from rank `r + 1` on are worth. -/
def fromRank (s : List K) (r : Nat) : Set K := insert 1 {x | ∃ j, r ≤ j.val ∧ x = scaled s j}

/-- One, and what the values that are not below `p` are worth. -/
def fromValue (s : List K) (p : K) : Set K := insert 1 {x | ∃ j, p ≤ s[j] ∧ x = scaled s j}

/-- The ranks, less one, whose value is below its share of the level. -/
def below (s : List K) (alpha : K) : Set (Fin s.length) := {k | s[k] ≤ (k + 1) * alpha / s.length}

/-- The value is not above that of the largest rank below the level. -/
def Rejects (s : List K) (alpha p : K) : Prop := ∃ k, IsGreatest (below s alpha) k ∧ p ≤ s[k]

/-- The values are in order and not negative. -/
structure Ordered (s : List K) : Prop where
  sorted : s.Pairwise (· ≤ ·)
  nonneg : ∀ x ∈ s, 0 ≤ x

section
variable {s : List K}

omit [IsStrictOrderedRing K] in
theorem Ordered.le (h : Ordered s) {i j : Fin s.length} (hij : i ≤ j) : s[i] ≤ s[j] := by
  rcases lt_or_eq_of_le hij with hlt | rfl
  · exact List.pairwise_iff_getElem.mp h.sorted _ _ _ _ hlt
  · exact le_rfl

omit [IsStrictOrderedRing K] in
theorem Ordered.getElem_nonneg (h : Ordered s) (j : Fin s.length) : 0 ≤ s[j] :=
  h.nonneg _ (List.getElem_mem _)

omit [LinearOrder K] [IsStrictOrderedRing K] in
/-- The values from a rank on are the one there and those from the next on. -/
theorem fromRank_eq (r : Fin s.length) :
    fromRank s r = insert (scaled s r) (fromRank s (r + 1)) := by
  rw [fromRank, fromRank, Set.insert_comm]
  congr 1
  ext x
  constructor
  · rintro ⟨j, hj, rfl⟩
    rcases Nat.lt_or_eq_of_le hj with hlt | heq
    · exact .inr ⟨j, hlt, rfl⟩
    · exact .inl (congrArg _ (Fin.ext heq.symm))
  · rintro (rfl | ⟨j, hj, rfl⟩)
    · exact ⟨r, le_rfl, rfl⟩
    · exact ⟨j, Nat.le_of_succ_le hj, rfl⟩

theorem le_scaled (h : Ordered s) (j : Fin s.length) : s[j] ≤ scaled s j := by
  have hj : (j.val + 1 : K) ≤ s.length := by exact_mod_cast j.isLt
  have hpos : (0 : K) < j.val + 1 := by positivity
  rw [scaled, le_div_iff₀ hpos]
  exact mul_le_mul_of_nonneg_left hj (h.getElem_nonneg j)

/-- Equal values are worth less at a later rank. -/
theorem scaled_le (h : Ordered s) {i j : Fin s.length} (hij : i ≤ j) (heq : s[i] = s[j]) :
    scaled s j ≤ scaled s i := by
  have hle : (i.val + 1 : K) ≤ j.val + 1 := by exact_mod_cast Nat.succ_le_succ hij
  rw [scaled, scaled, heq]
  exact div_le_div_of_nonneg_left (mul_nonneg (h.getElem_nonneg j) (Nat.cast_nonneg _))
    (by positivity) hle

/-- The least of what stands from a rank on is the least of what is not below
the value there. -/
theorem isLeast_fromRank_iff (h : Ordered s) (r : Fin s.length) :
    IsLeast (fromRank s r) q ↔ IsLeast (fromValue s s[r]) q := by
  have hsub : fromRank s r ⊆ fromValue s s[r] := by
    refine Set.insert_subset_insert ?_
    rintro x ⟨j, hj, rfl⟩
    exact ⟨j, h.le hj, rfl⟩
  have hbound : ∀ x ∈ fromValue s s[r], ∃ y ∈ fromRank s r, y ≤ x := by
    rintro x (rfl | ⟨j, hj, rfl⟩)
    · exact ⟨1, Set.mem_insert _ _, le_rfl⟩
    · rcases le_total r j with hrj | hjr
      · exact ⟨_, Set.mem_insert_of_mem _ ⟨j, hrj, rfl⟩, le_rfl⟩
      · have heq : s[j] = s[r] := le_antisymm (h.le hjr) hj
        exact ⟨_, Set.mem_insert_of_mem _ ⟨r, le_rfl, rfl⟩, scaled_le h hjr heq⟩
  constructor
  · rintro ⟨hmem, hlower⟩
    refine ⟨hsub hmem, fun x hx => ?_⟩
    obtain ⟨y, hy, hyx⟩ := hbound x hx
    exact (hlower hy).trans hyx
  · rintro ⟨hmem, hlower⟩
    obtain ⟨y, hy, hyq⟩ := hbound q hmem
    obtain rfl : y = q := le_antisymm hyq (hlower (hsub hy))
    exact ⟨hy, fun x hx => hlower (hsub hx)⟩

omit [IsStrictOrderedRing K] in
theorem le_one (h : IsLeast (fromValue s p) q) : q ≤ 1 := h.2 (Set.mem_insert _ _)

/-- An adjusted value is not below the value itself. -/
theorem le_of_isLeast (hs : Ordered s) (h : IsLeast (fromValue s p) q) (hp : p ≤ 1) : p ≤ q := by
  obtain rfl | ⟨j, hj, rfl⟩ := h.1
  · exact hp
  · exact hj.trans (le_scaled hs j)

omit [IsStrictOrderedRing K] in
theorem isLeast_mono (h : IsLeast (fromValue s p) q) (h' : IsLeast (fromValue s p') q')
    (hle : p ≤ p') : q ≤ q' := by
  refine h'.mono h ?_
  refine Set.insert_subset_insert ?_
  rintro x ⟨j, hj, rfl⟩
  exact ⟨j, hle.trans hj, rfl⟩

/-- Adjusted values below a level are those of the values it rejects. -/
theorem le_level_iff (hs : Ordered s) (h : IsLeast (fromValue s p) q) (halpha : alpha < 1) :
    q ≤ alpha ↔ Rejects s alpha p := by
  have hscaled : ∀ j : Fin s.length, scaled s j ≤ alpha ↔ j ∈ below s alpha := by
    intro j
    have hlength : (0 : K) < s.length := by exact_mod_cast j.val.zero_le.trans_lt j.isLt
    have hpos : (0 : K) < j.val + 1 := by positivity
    rw [scaled, below, Set.mem_ofPred_eq, div_le_iff₀ hpos, le_div_iff₀ hlength, mul_comm alpha]
  constructor
  · intro hq
    obtain rfl | ⟨j, hj, rfl⟩ := h.1
    · exact absurd hq (not_le.mpr halpha)
    · have hmem := (hscaled j).mp hq
      obtain ⟨k, hk, hmax⟩ := Set.exists_max_image (below s alpha) id (Set.toFinite _) ⟨j, hmem⟩
      exact ⟨k, ⟨hk, hmax⟩, hj.trans (hs.le (hmax j hmem))⟩
  · rintro ⟨k, hk, hpk⟩
    exact (h.2 (Set.mem_insert_of_mem _ ⟨k, hpk, rfl⟩)).trans ((hscaled k).mpr hk.1)

end

end Paic.StepUp
