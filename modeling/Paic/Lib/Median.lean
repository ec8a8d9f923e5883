import Mathlib

/-!
# The middle of a list

The middle element in sorted order, or what lies between the two middle ones.
Where more than half of the elements are, the middle is too: the elements
before it and those behind it are at most half of the list.
-/

namespace Paic.Median

variable {α : Type*} [LinearOrder α]

/-- The middle of the sorted list; `mid` is taken of the two middle elements
of a list of even length. -/
def middle (mid : α → α → α) (l : List α) : Option α :=
  let data := l.insertionSort (· ≤ ·)
  if data.length % 2 = 1 then data[data.length / 2]?
  else match data[data.length / 2 - 1]?, data[data.length / 2]? with
    | some a, some b => some (mid a b)
    | _, _ => none

/-- `mid` lies between what it is taken of. -/
structure Between (mid : α → α → α) : Prop where
  left : ∀ {a b}, a ≤ b → a ≤ mid a b
  right : ∀ {a b}, a ≤ b → mid a b ≤ b

section
variable {mid : α → α → α} {l : List α}

theorem middle_some (h : l ≠ []) : ∃ m, middle mid l = some m := by
  have hlength : (l.insertionSort (· ≤ ·)).length = l.length := List.length_insertionSort _ _
  have hpos : 0 < l.length := List.length_pos_iff.mpr h
  dsimp only [middle]
  split
  · exact ⟨_, List.getElem?_eq_getElem (by omega)⟩
  · rw [List.getElem?_eq_getElem (by omega), List.getElem?_eq_getElem (by omega)]
    exact ⟨_, rfl⟩

/-- The middle lies between two elements that have half of the list on each
side. -/
theorem middle_between (hmid : Between mid) (h : middle mid l = some m) :
    ∃ (i j : Nat) (hi : i < (l.insertionSort (· ≤ ·)).length)
      (hj : j < (l.insertionSort (· ≤ ·)).length),
      l.length ≤ 2 * i + 2 ∧ 2 * j ≤ l.length ∧
      (l.insertionSort (· ≤ ·))[i] ≤ m ∧ m ≤ (l.insertionSort (· ≤ ·))[j] := by
  have hlength : (l.insertionSort (· ≤ ·)).length = l.length := List.length_insertionSort _ _
  have hsorted : (l.insertionSort (· ≤ ·)).Pairwise (· ≤ ·) := List.pairwise_insertionSort _ _
  dsimp only [middle] at h
  split at h
  · obtain ⟨hi, rfl⟩ := List.getElem?_eq_some_iff.mp h
    exact ⟨_, _, hi, hi, by omega, by omega, le_refl _, le_refl _⟩
  · split at h
    · next a b ha hb =>
      obtain ⟨hi, rfl⟩ := List.getElem?_eq_some_iff.mp ha
      obtain ⟨hj, rfl⟩ := List.getElem?_eq_some_iff.mp hb
      obtain rfl := Option.some.inj h
      have hle := List.pairwise_iff_getElem.mp hsorted _ _ hi hj (by omega)
      exact ⟨_, _, hi, hj, by omega, by omega, hmid.left hle, hmid.right hle⟩
    · exact absurd h nofun

/-- What more than half of the elements reach, the middle reaches. -/
theorem le_middle (hmid : Between mid) (h : middle mid l = some m)
    (hmost : l.length < 2 * l.countP (lo ≤ ·)) : lo ≤ m := by
  obtain ⟨i, -, hi, -, hfront, -, hle, -⟩ := middle_between hmid h
  refine le_trans ?_ hle
  by_contra hlt
  have hlength : (l.insertionSort (· ≤ ·)).length = l.length := List.length_insertionSort _ _
  have hsorted : (l.insertionSort (· ≤ ·)).Pairwise (· ≤ ·) := List.pairwise_insertionSort _ _
  have hbefore : ((l.insertionSort (· ≤ ·)).take (i + 1)).countP (lo ≤ ·) = 0 := by
    refine List.countP_eq_zero.mpr fun b hb => ?_
    obtain ⟨k, hk, rfl⟩ := List.mem_iff_getElem.mp hb
    rw [List.length_take] at hk
    rw [List.getElem_take, decide_eq_true_eq, not_le]
    refine lt_of_le_of_lt ?_ (not_le.mp hlt)
    rcases Nat.lt_or_ge k i with hlt | hge
    · exact List.pairwise_iff_getElem.mp hsorted _ _ _ _ hlt
    · obtain rfl : k = i := by omega
      exact le_refl _
  have hcount := (List.perm_insertionSort (· ≤ ·) l).countP_eq (lo ≤ ·)
  rw [← List.take_append_drop (i + 1) (l.insertionSort (· ≤ ·)), List.countP_append, hbefore,
    Nat.zero_add] at hcount
  have hdrop := List.countP_le_length (p := (lo ≤ ·)) (l := (l.insertionSort (· ≤ ·)).drop (i + 1))
  rw [List.length_drop] at hdrop
  omega

/-- What more than half of the elements stay under, the middle does. -/
theorem middle_le (hmid : Between mid) (h : middle mid l = some m)
    (hmost : l.length < 2 * l.countP (· ≤ hi)) : m ≤ hi := by
  obtain ⟨-, j, -, hj, -, hback, -, hle⟩ := middle_between hmid h
  refine le_trans hle ?_
  by_contra hlt
  have hlength : (l.insertionSort (· ≤ ·)).length = l.length := List.length_insertionSort _ _
  have hsorted : (l.insertionSort (· ≤ ·)).Pairwise (· ≤ ·) := List.pairwise_insertionSort _ _
  have hafter : ((l.insertionSort (· ≤ ·)).drop j).countP (· ≤ hi) = 0 := by
    refine List.countP_eq_zero.mpr fun b hb => ?_
    obtain ⟨k, hk, rfl⟩ := List.mem_iff_getElem.mp hb
    rw [List.length_drop] at hk
    rw [List.getElem_drop, decide_eq_true_eq, not_le]
    refine lt_of_lt_of_le (not_le.mp hlt) ?_
    rcases Nat.eq_zero_or_pos k with rfl | hpos
    · exact le_refl _
    · exact List.pairwise_iff_getElem.mp hsorted _ _ _ _ (by omega)
  have hcount := (List.perm_insertionSort (· ≤ ·) l).countP_eq (· ≤ hi)
  rw [← List.take_append_drop j (l.insertionSort (· ≤ ·)), List.countP_append, hafter,
    Nat.add_zero] at hcount
  have htake := List.countP_le_length (p := (· ≤ hi)) (l := (l.insertionSort (· ≤ ·)).take j)
  rw [List.length_take] at htake
  omega

/-- The middle of equal elements is their value. -/
theorem middle_const (hmid : Between mid) (hne : l ≠ []) (hall : ∀ a ∈ l, a = c) :
    middle mid l = some c := by
  obtain ⟨m, hm⟩ : ∃ m, middle mid l = some m := middle_some hne
  have hpos : 0 < l.length := List.length_pos_iff.mpr hne
  have hle : l.countP (c ≤ ·) = l.length :=
    List.countP_eq_length.mpr fun a ha => by simp [hall a ha]
  have hge : l.countP (· ≤ c) = l.length :=
    List.countP_eq_length.mpr fun a ha => by simp [hall a ha]
  have hlo : c ≤ m := le_middle hmid hm (by omega)
  have hhi : m ≤ c := middle_le hmid hm (by omega)
  rw [hm, le_antisymm hhi hlo]

end

end Paic.Median
