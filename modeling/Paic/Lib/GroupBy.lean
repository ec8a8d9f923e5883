import Paic.Lib.Checks
import Paic.Lib.Partition
import Mathlib

/-!
# Grouping a table

The sums of the groups of a table, over the groups whose key is wanted, make up
the sum of the rows whose key is. A table that is put together of blocks with
different tags has each block as the rows with its tag.
-/

namespace Paic.GroupBy

open Partition (distinct part mem_part)

section
variable {α κ M : Type*} [DecidableEq κ] [AddCommMonoid M]

/-- Sums over groups are sums over rows. -/
theorem sum_part (key : α → κ) (l : List α) (f : α → M) (wanted : κ → Bool) :
    (((distinct (l.map key)).filter wanted).map fun k => ((part key l k).map f).sum).sum =
      ((l.filter fun a => wanted (key a)).map f).sum := by
  have hpart : ∀ k ∈ (distinct (l.map key)).filter wanted,
      part key (l.filter fun a => wanted (key a)) k = part key l k := by
    intro k hk
    rw [part, part, List.filter_filter]
    refine List.filter_congr fun a _ => ?_
    by_cases h : key a = k
    · rw [h, (List.mem_filter.mp hk).2, Bool.and_true]
    · rw [decide_eq_false h, Bool.false_and]
  have hkeys : ∀ a ∈ l.filter fun a => wanted (key a), key a ∈ (distinct (l.map key)).filter wanted := by
    intro a ha
    obtain ⟨ha, hwanted⟩ := List.mem_filter.mp ha
    exact List.mem_filter.mpr
      ⟨Partition.mem_distinct.mpr (List.mem_map_of_mem ha), hwanted⟩
  have hperm := Partition.flatMap_part_perm ((Partition.distinct_nodup _).filter wanted) hkeys
  rw [← (hperm.map f).sum_eq, List.map_flatMap, List.flatMap_def, List.sum_flatten, List.map_map]
  refine congrArg List.sum (List.map_congr_left fun k hk => ?_)
  rw [Function.comp_apply, hpart k hk]

end

/-- Rows that are made one for each key, with the keys that are wanted. -/
theorem map_filter_forall₂ {α β κ : Type*} {R : κ → β → Prop} {key : β → κ} {value : β → α}
    {weight : κ → α} {keys : List κ} {rows : List β} (h : List.Forall₂ R keys rows)
    (hkey : ∀ k row, R k row → key row = k) (hvalue : ∀ k row, R k row → value row = weight k)
    (wanted : κ → Bool) :
    (rows.filter fun row => wanted (key row)).map value = (keys.filter wanted).map weight := by
  induction h with
  | nil => rfl
  | @cons k row keys rows hrow hrest ih =>
    rw [List.filter_cons, List.filter_cons, hkey k row hrow]
    split
    case isTrue => rw [List.map_cons, List.map_cons, ih, hvalue k row hrow]
    case isFalse => exact ih

/-- Of blocks with different tags, the rows with a tag are its block. -/
theorem filter_flatten_mapM {α β κ : Type} {ε : Type} [DecidableEq κ] (tag : β → κ) (name : α → κ)
    {f : α → Except ε (List β)} {xs : List α} {x : α} {blocks : List (List β)}
    (h : xs.mapM f = .ok blocks) (htag : ∀ x ∈ xs, ∀ block, f x = .ok block →
      ∀ row ∈ block, tag row = name x)
    (hnames : (xs.map name).Nodup) (hx : x ∈ xs) :
    ∃ block, f x = .ok block ∧ (blocks.flatten.filter fun row => tag row = name x) = block := by
  rw [Checks.mapM_ok] at h
  induction h with
  | nil => exact absurd hx List.not_mem_nil
  | @cons y block xs blocks hblock hrest ih =>
    obtain ⟨hfirst, hothers⟩ := List.forall_mem_cons.mp htag
    obtain ⟨hnew, hnodup⟩ := List.nodup_cons.mp hnames
    have hfilter : ∀ {z}, z ∈ y :: xs →
        (block.filter fun row => tag row = name z) = if name y = name z then block else [] := by
      intro z _
      split
      case isTrue heq =>
        exact List.filter_eq_self.mpr fun row hrow =>
          decide_eq_true ((hfirst block hblock row hrow).trans heq)
      case isFalse hne =>
        refine List.filter_eq_nil_iff.mpr fun row hrow htag => hne ?_
        rw [← hfirst block hblock row hrow]
        exact of_decide_eq_true htag
    rw [List.flatten_cons, List.filter_append, hfilter hx]
    rcases List.mem_cons.mp hx with rfl | hmem
    · refine ⟨block, hblock, ?_⟩
      have hnone : (blocks.flatten.filter fun row => tag row = name x) = [] := by
        refine List.filter_eq_nil_iff.mpr fun row hrow htag => hnew ?_
        obtain ⟨other, hother, hrow⟩ := List.mem_flatten.mp hrow
        obtain ⟨z, hz, hfz⟩ := (Checks.mapM_mem (Checks.mapM_ok.mpr hrest)).mp hother
        rw [← of_decide_eq_true htag, hothers z hz other hfz row hrow]
        exact List.mem_map_of_mem hz
      rw [if_pos rfl, hnone, List.append_nil]
    · obtain ⟨found, hfound, hrows⟩ := ih hothers hnodup hmem
      have hne : name y ≠ name x := fun heq => hnew (heq ▸ List.mem_map_of_mem hmem)
      rw [if_neg hne, List.nil_append]
      exact ⟨found, hfound, hrows⟩

end Paic.GroupBy
