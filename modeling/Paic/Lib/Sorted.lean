import Mathlib

/-!
# Lists in the order of a key

A list sorted by a key that no two of its elements share is fixed by which
elements it has. `last` is the slice of the last `n` elements; in such a list
an element is in it when fewer than `n` elements come after.
-/

namespace Paic.Sorted

variable {α β κ : Type*} [LinearOrder κ]

/-- `sorted(l, key=key)` -/
def byKey (key : α → κ) (l : List α) : List α := l.insertionSort fun a b => key a ≤ key b

/-- The elements are in the order of a key that no two of them share. -/
def Strict (key : α → κ) (l : List α) : Prop := l.Pairwise fun a b => key a < key b

section
variable {key : α → κ} {l l' : List α}

theorem byKey_perm (key : α → κ) (l : List α) : (byKey key l).Perm l := List.perm_insertionSort _ _

theorem mem_byKey : a ∈ byKey key l ↔ a ∈ l := (byKey_perm key l).mem_iff

theorem byKey_sorted (key : α → κ) (l : List α) :
    (byKey key l).Pairwise fun a b => key a ≤ key b := by
  have htrans : ∀ a b c : α, key a ≤ key b → key b ≤ key c → key a ≤ key c := fun _ _ _ => le_trans
  have htotal : ∀ a b : α, key a ≤ key b ∨ key b ≤ key a := fun _ _ => le_total _ _
  let := IsTrans.mk htrans
  let := Std.Total.mk htotal
  exact List.pairwise_insertionSort _ _

theorem byKey_strict (h : (l.map key).Nodup) : Strict key (byKey key l) := by
  have hnodup : ((byKey key l).map key).Nodup := ((byKey_perm key l).map key).nodup_iff.mpr h
  rw [List.Nodup, List.pairwise_map] at hnodup
  exact (byKey_sorted key l).imp₂ (fun _ _ hle hne => lt_of_le_of_ne hle hne) hnodup

theorem Strict.nodup (h : Strict key l) : (l.map key).Nodup := by
  rw [List.Nodup, List.pairwise_map]
  exact h.imp fun hlt => ne_of_lt hlt

/-- What is sorted without ties is fixed by its elements. -/
theorem Strict.eq_of_mem_iff (h : Strict key l) (h' : Strict key l') (hmem : ∀ a, a ∈ l ↔ a ∈ l') :
    l = l' := by
  have hperm : l.Perm l' :=
    (List.perm_ext_iff_of_nodup h.nodup.of_map h'.nodup.of_map).mpr hmem
  exact hperm.eq_of_pairwise (fun a b _ _ hab hba => absurd hab (lt_asymm hba)) h h'

theorem Strict.filter (h : Strict key l) (p : α → Bool) : Strict key (l.filter p) :=
  List.Pairwise.filter p h

theorem Strict.sublist (h : Strict key l') (hsub : l.Sublist l') : Strict key l :=
  List.Pairwise.sublist hsub h

/-- Sorting what a filter keeps is filtering what was sorted. -/
theorem filter_byKey (h : (l.map key).Nodup) (p : α → Bool) :
    (byKey key l).filter p = byKey key (l.filter p) := by
  have hsub : ((l.filter p).map key).Nodup := h.sublist (List.filter_sublist.map key)
  refine ((byKey_strict h).filter p).eq_of_mem_iff (byKey_strict hsub) fun a => ?_
  simp only [List.mem_filter, mem_byKey]

/-- What is in order already stays as it is. -/
theorem Strict.byKey_eq (h : Strict key l) : byKey key l = l :=
  (byKey_strict h.nodup).eq_of_mem_iff h fun _ => mem_byKey

/-- Sorted lists are alike when their elements are. -/
theorem byKey_congr (h : (l.map key).Nodup) (hperm : l.Perm l') : byKey key l = byKey key l' := by
  refine (byKey_strict h).eq_of_mem_iff (byKey_strict ((hperm.map key).nodup_iff.mp h)) fun a => ?_
  rw [mem_byKey, mem_byKey, hperm.mem_iff]

/-- An element stands where the elements up to its key are counted. -/
theorem Strict.countP_le (h : Strict key l) (j : Nat) (hj : j < l.length) :
    l.countP (fun a => key a ≤ key l[j]) = j + 1 := by
  have hfront : ∀ a ∈ l.take (j + 1), decide (key a ≤ key l[j]) = true := by
    intro a ha
    obtain ⟨i, hi, rfl⟩ := List.mem_iff_getElem.mp ha
    rw [List.length_take] at hi
    rw [List.getElem_take, decide_eq_true_eq]
    rcases Nat.lt_or_eq_of_le (show i ≤ j by omega) with hlt | rfl
    · exact le_of_lt (List.pairwise_iff_getElem.mp h _ _ _ _ hlt)
    · exact le_rfl
  have hback : ∀ a ∈ l.drop (j + 1), ¬ decide (key a ≤ key l[j]) = true := by
    intro a ha
    obtain ⟨i, hi, rfl⟩ := List.mem_iff_getElem.mp ha
    rw [List.length_drop] at hi
    rw [List.getElem_drop, decide_eq_true_eq, not_le]
    exact List.pairwise_iff_getElem.mp h _ _ _ _ (by omega)
  have hsplit : ∀ p : α → Bool, l.countP p = (l.take (j + 1)).countP p + (l.drop (j + 1)).countP p :=
    fun p => by rw [← List.countP_append, List.take_append_drop]
  rw [hsplit, List.countP_eq_length.mpr hfront, List.countP_eq_zero.mpr hback,
    List.length_take]
  omega

/-- Images under a map that keeps the key are in its order too. -/
theorem Strict.map {f : α → β} {key' : β → κ} (h : Strict key l)
    (hkey : ∀ a, key' (f a) = key a) : Strict key' (l.map f) := by
  rw [Strict, List.pairwise_map]
  refine List.Pairwise.imp (fun hlt => ?_) h
  rwa [hkey, hkey]

end

-- ---------------------------------------------------------------------------
-- The last elements
-- ---------------------------------------------------------------------------

/-- `l[-n:]`; with `n` of zero that is the whole list. -/
def last (n : Nat) (l : List α) : List α := if n = 0 then l else l.drop (l.length - n)

section
variable {key : α → κ} {l : List α}

theorem last_sublist (n : Nat) (l : List α) : (last n l).Sublist l := by
  unfold last
  split
  · exact .refl _
  · exact List.drop_sublist _ _

theorem last_map (f : α → β) (n : Nat) (l : List α) : last n (l.map f) = (last n l).map f := by
  unfold last
  split
  · rfl
  · rw [List.length_map, List.map_drop]

theorem length_last (hn : n ≠ 0) (l : List α) : (last n l).length = min n l.length := by
  rw [last, if_neg hn, List.length_drop]
  omega

/-- An element of the whole list is among the last `n` when fewer than `n`
come after it. -/
theorem Strict.mem_last_iff (h : Strict key l) (hn : n ≠ 0) (a : α) :
    a ∈ last n l ↔ a ∈ l ∧ (l.filter fun b => key a < key b).length < n := by
  rw [last, if_neg hn]
  constructor
  · intro ha
    refine ⟨List.mem_of_mem_drop ha, ?_⟩
    obtain ⟨i, hi, hplace⟩ := List.mem_iff_getElem.mp ha
    rw [List.length_drop] at hi
    rw [List.getElem_drop] at hplace
    -- what comes after lies behind the element's own place
    have hfront : (l.take (l.length - n + i + 1)).filter (fun b => key a < key b) = [] := by
      refine List.filter_eq_nil_iff.mpr fun b hb => ?_
      obtain ⟨j, hj, rfl⟩ := List.mem_iff_getElem.mp hb
      rw [List.length_take] at hj
      rw [List.getElem_take, decide_eq_true_eq, not_lt, ← hplace]
      rcases Nat.lt_or_ge j (l.length - n + i) with hlt | hge
      · exact le_of_lt (List.pairwise_iff_getElem.mp h _ _ _ _ hlt)
      · obtain rfl : j = l.length - n + i := by omega
        exact le_refl _
    have hfilter : l.filter (fun b => key a < key b) =
        (l.drop (l.length - n + i + 1)).filter fun b => key a < key b := by
      conv_lhs => rw [← List.take_append_drop (l.length - n + i + 1) l, List.filter_append, hfront]
      rfl
    rw [hfilter]
    refine lt_of_le_of_lt (List.length_filter_le _ _) ?_
    rw [List.length_drop]
    omega
  · rintro ⟨ha, hafter⟩
    obtain ⟨i, hi, rfl⟩ := List.mem_iff_getElem.mp ha
    by_contra hnot
    have hlt : i < l.length - n := by
      by_contra hge
      refine hnot (List.mem_iff_getElem.mpr ⟨i - (l.length - n), ?_, ?_⟩)
      · rw [List.length_drop]
        omega
      · rw [List.getElem_drop]
        congr 1
        omega
    have hall : (l.drop (i + 1)).filter (fun b => key l[i] < key b) = l.drop (i + 1) := by
      refine List.filter_eq_self.mpr fun b hb => ?_
      obtain ⟨j, hj, rfl⟩ := List.mem_iff_getElem.mp hb
      rw [List.length_drop] at hj
      rw [List.getElem_drop, decide_eq_true_eq]
      exact List.pairwise_iff_getElem.mp h _ _ _ _ (by omega)
    have hsub := (List.drop_sublist (i + 1) l).filter (fun b => decide (key l[i] < key b))
    have hlength := hsub.length_le
    rw [hall, List.length_drop] at hlength
    omega

end

end Paic.Sorted
