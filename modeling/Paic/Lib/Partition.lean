import Mathlib

/-!
# A table split by a key

The parts of a list are its elements with one value of a key. Taken one after
the other they are the whole list, in another order.
-/

namespace Paic.Partition

variable {α κ : Type*} [DecidableEq κ]

/-- The values, each where it first occurs. -/
def distinct (l : List κ) : List κ := l.reverse.dedup.reverse

@[simp] theorem mem_distinct {l : List κ} : k ∈ distinct l ↔ k ∈ l := by
  rw [distinct, List.mem_reverse, List.mem_dedup, List.mem_reverse]

theorem distinct_nodup (l : List κ) : (distinct l).Nodup :=
  List.nodup_reverse.mpr (List.nodup_dedup _)

/-- The elements with one value of the key. -/
def part (key : α → κ) (l : List α) (k : κ) : List α := l.filter fun a => key a = k

theorem mem_part {key : α → κ} {l : List α} : a ∈ part key l k ↔ a ∈ l ∧ key a = k := by
  rw [part, List.mem_filter, decide_eq_true_eq]

/-- The parts of a list, in the order their keys first occur. -/
def parts (key : α → κ) (l : List α) : List (List α) :=
  (distinct (l.map key)).map (part key l)

theorem mem_parts {key : α → κ} {l : List α} :
    p ∈ parts key l ↔ ∃ a ∈ l, part key l (key a) = p := by
  simp [parts]

theorem part_ne {key : α → κ} {l : List α} (h : k' ≠ k) :
    part key (l.filter fun a => key a ≠ k) k' = part key l k' := by
  rw [part, part, List.filter_filter]
  refine List.filter_congr fun a _ => ?_
  by_cases ha : key a = k'
  · simp [ha, h]
  · simp [ha]

theorem flatMap_part_perm {key : α → κ} {ks : List κ} {l : List α} (hks : ks.Nodup)
    (hl : ∀ a ∈ l, key a ∈ ks) : (ks.flatMap (part key l)).Perm l := by
  induction ks generalizing l with
  | nil =>
    obtain rfl : l = [] := List.eq_nil_iff_forall_not_mem.mpr fun a ha => nomatch hl a ha
    exact .refl _
  | cons k ks ih =>
    rw [List.nodup_cons] at hks
    have hrest : ∀ a ∈ l.filter (fun a => key a ≠ k), key a ∈ ks := by
      intro a ha
      rw [List.mem_filter, decide_eq_true_eq] at ha
      exact (List.mem_cons.mp (hl a ha.1)).resolve_left ha.2
    have hparts : ks.flatMap (part key l) =
        ks.flatMap (part key (l.filter fun a => key a ≠ k)) :=
      List.flatMap_congr fun k' hk' => by
        have hne : k' ≠ k := ne_of_mem_of_not_mem hk' hks.1
        exact (part_ne hne).symm
    have hsplit : (part key l k ++ l.filter fun a => key a ≠ k).Perm l := by
      have h := List.filter_append_perm (fun a => decide (key a = k)) l
      simpa only [part, decide_not] using h
    rw [List.flatMap_cons, hparts]
    exact ((ih hks.2 hrest).append_left _).trans hsplit

/-- The parts make up the whole list. -/
theorem flatten_parts_perm (key : α → κ) (l : List α) : (parts key l).flatten.Perm l := by
  rw [parts, ← List.flatMap_def]
  exact flatMap_part_perm (distinct_nodup _) fun a ha => mem_distinct.mpr (List.mem_map_of_mem ha)

/-- The parts are as long together as the list. -/
theorem sum_length_part {key : α → κ} {ks : List κ} {l : List α} (hks : ks.Nodup)
    (hl : ∀ a ∈ l, key a ∈ ks) : (ks.map fun k => (part key l k).length).sum = l.length := by
  rw [← (flatMap_part_perm hks hl).length_eq, List.length_flatMap]

-- ---------------------------------------------------------------------------
-- Places
-- ---------------------------------------------------------------------------

/-- The indices of the elements that a filter keeps. -/
theorem filter_places (p : α → Bool) (l : List α) :
    ((List.range l.length).filter fun i => l[i]?.any p).map (fun i => l[i]?) =
      (l.filter p).map some := by
  induction l using List.reverseRecOn with
  | nil => rfl
  | append_singleton l a ih =>
    have hfront : ∀ i ∈ List.range l.length, (l ++ [a])[i]? = l[i]? := by
      intro i hi
      exact List.getElem?_append_left (List.mem_range.mp hi)
    have hlast : (l ++ [a])[l.length]? = some a := by simp
    have hfilter : (List.range l.length).filter (fun i => (l ++ [a])[i]?.any p) =
        (List.range l.length).filter fun i => l[i]?.any p :=
      List.filter_congr fun i hi => by rw [hfront i hi]
    have hmap : ((List.range l.length).filter fun i => l[i]?.any p).map (fun i => (l ++ [a])[i]?) =
        ((List.range l.length).filter fun i => l[i]?.any p).map fun i => l[i]? :=
      List.map_congr_left fun i hi => hfront i (List.mem_filter.mp hi).1
    rw [List.length_append, List.length_singleton, List.range_succ, List.filter_append,
      List.filter_append, List.map_append, List.map_append, hfilter, hmap, ih, List.filter_singleton,
      hlast, List.filter_singleton]
    by_cases ha : p a = true
    · simp [ha]
    · simp [ha]

end Paic.Partition
