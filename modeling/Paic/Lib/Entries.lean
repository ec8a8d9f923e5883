import Paic.Lib.Checks
import Mathlib

/-!
# Named entries

A directory's entries as a list of names with what they stand for: taking a
name away, putting an entry in its place, and numbering the entries by a loop
that refuses to see a number twice.
-/

namespace Paic.Entries

open Checks (loop loop_cons)

def without (entries : List (κ × β)) [DecidableEq κ] (name : κ) : List (κ × β) :=
  entries.filter (·.1 ≠ name)

/-- The entries with a new one in the place of a name. -/
def placed [DecidableEq κ] (entries : List (κ × β)) (name : κ) (b : β) : List (κ × β) :=
  without entries name ++ [(name, b)]

section
variable {κ β : Type} [DecidableEq κ] {l : List (κ × β)} {name : κ}

theorem mem_without : e ∈ without l name ↔ e ∈ l ∧ e.1 ≠ name := by simp [without]

@[simp] theorem without_without : without (without l name) name = without l name := by
  simp [without, List.filter_filter]

theorem without_nodup (h : (l.map Prod.fst).Nodup) : ((without l name).map Prod.fst).Nodup :=
  h.sublist (List.filter_sublist.map _)

theorem mem_placed : e ∈ placed l name b ↔ e = (name, b) ∨ e ∈ l ∧ e.1 ≠ name := by
  rw [placed, List.mem_append, List.mem_singleton, mem_without, or_comm]

@[simp] theorem without_placed : without (placed l name b) name = without l name := by
  rw [placed, without, List.filter_append, ← without, without_without]
  simp

theorem placed_nodup (h : (l.map Prod.fst).Nodup) : ((placed l name b).map Prod.fst).Nodup := by
  rw [placed, List.map_append, List.map_singleton]
  refine (without_nodup h).append (List.nodup_singleton _) (List.disjoint_singleton.mpr ?_)
  intro hmem
  obtain ⟨e, he, hname⟩ := List.mem_map.mp hmem
  exact (mem_without.mp he).2 hname

theorem without_of_not_found (h : l.lookup name = none) : without l name = l := by
  rw [List.lookup_eq_none_iff] at h
  refine List.filter_eq_self.mpr fun e he => ?_
  have hne := h e he
  simp only [bne_iff_ne, ne_eq] at hne
  simpa using fun h : e.1 = name => hne h.symm

theorem lookup_without (h : other ≠ name) : (without l name).lookup other = l.lookup other := by
  induction l with
  | nil => rfl
  | cons entry rest ih =>
    obtain ⟨key, value⟩ := entry
    simp only [without] at ih ⊢
    by_cases hk : key = name
    · have hne : (other == key) = false := by simpa [hk] using h
      rw [List.filter_cons_of_neg (by simp [hk]), ih, List.lookup_cons, hne]
    · rw [List.filter_cons_of_pos (by simp [hk]), List.lookup_cons, List.lookup_cons, ih]

theorem lookup_without_self : (without l name).lookup name = none := by
  rw [List.lookup_eq_none_iff]
  intro e he
  simpa using Ne.symm (mem_without.mp he).2

@[simp] theorem lookup_placed_self : (placed l name b).lookup name = some b := by
  rw [placed, List.lookup_append, lookup_without_self]
  simp

theorem lookup_placed (h : other ≠ name) : (placed l name b).lookup other = l.lookup other := by
  have hne : (other == name) = false := by simpa using h
  rw [placed, List.lookup_append, lookup_without h, List.lookup_cons, hne]
  simp

/-- Entries that differ in one name only are found alike under the others. -/
theorem lookup_eq_of_without {l' : List (κ × β)} (h : without l' name = without l name)
    (hne : other ≠ name) : l'.lookup other = l.lookup other := by
  rw [← lookup_without hne, h, lookup_without hne]

theorem mem_iff_of_without {l' : List (κ × β)} (h : without l' name = without l name)
    (hne : e.1 ≠ name) : e ∈ l' ↔ e ∈ l := by
  have hw : e ∈ without l' name ↔ e ∈ without l name := by rw [h]
  simpa [mem_without, hne] using hw

theorem mem_of_lookup {b : β} (h : l.lookup name = some b) : (name, b) ∈ l := by
  obtain ⟨l₁, l₂, hsplit, -⟩ := List.lookup_eq_some_iff.mp h
  rw [hsplit]
  simp

theorem lookup_of_mem {b : β} (hn : (l.map Prod.fst).Nodup) (h : (name, b) ∈ l) :
    l.lookup name = some b := by
  induction l with
  | nil => exact absurd h List.not_mem_nil
  | cons e rest ih =>
    rw [List.map_cons, List.nodup_cons] at hn
    rcases List.mem_cons.mp h with rfl | h
    · exact List.lookup_cons_self
    · have hne : (name == e.1) = false := by
        simpa using fun heq : name = e.1 => hn.1 (heq ▸ List.mem_map.mpr ⟨_, h, rfl⟩)
      rw [show e = (e.1, e.2) from rfl, List.lookup_cons, hne]
      exact ih hn.2 h

/-- Where an entry stands does not count when no name comes twice. -/
theorem lookup_of_perm {l' : List (κ × β)} (h : l.Perm l') (hn : (l.map Prod.fst).Nodup) (name : κ) :
    l.lookup name = l'.lookup name := by
  have hn' : (l'.map Prod.fst).Nodup := (h.map Prod.fst).nodup_iff.mp hn
  refine Option.ext fun b => ?_
  rw [show l.lookup name = some b ↔ (name, b) ∈ l from ⟨mem_of_lookup, lookup_of_mem hn⟩,
    show l'.lookup name = some b ↔ (name, b) ∈ l' from ⟨mem_of_lookup, lookup_of_mem hn'⟩,
    h.mem_iff]

/-- A value found under an index is found under what the index stands for. -/
theorem lookup_zip_map {α γ : Type} [DecidableEq α] {f : α → κ} {l : List α} {a : α}
    (h : ∀ b ∈ l, f b = f a → b = a) (values : List γ) :
    ((l.map f).zip values).lookup (f a) = (l.zip values).lookup a := by
  induction l generalizing values with
  | nil => rfl
  | cons b l ih =>
    cases values with
    | nil => rfl
    | cons v values =>
      have hrest := ih (fun c hc => h c (List.mem_cons_of_mem _ hc)) values
      by_cases hb : a = b
      · subst hb
        simp [List.lookup_cons]
      · have hf : f a ≠ f b := fun heq => hb (h b List.mem_cons_self heq.symm).symm
        rw [List.map_cons, List.zip_cons_cons, List.zip_cons_cons, List.lookup_cons,
          List.lookup_cons, beq_false_of_ne hf, beq_false_of_ne hb]
        exact hrest

/-- When only one part can hold a name, the name is looked up in that part. -/
theorem lookup_flatMap {α : Type} [DecidableEq α] {f : α → List (κ × β)} (parts : List α) (a : α)
    (h : ∀ a' ∈ parts, a' ≠ a → (f a').lookup name = none) :
    (parts.flatMap f).lookup name = if a ∈ parts then (f a).lookup name else none := by
  induction parts with
  | nil => rfl
  | cons c parts ih =>
    rw [List.flatMap_cons, List.lookup_append,
      ih fun a' ha' => h a' (List.mem_cons_of_mem _ ha')]
    by_cases hc : c = a
    · subst hc
      rw [if_pos List.mem_cons_self]
      split
      · exact Option.or_self
      · exact Option.or_none
    · rw [h c List.mem_cons_self hc, Option.none_or]
      refine if_congr ?_ rfl rfl
      rw [List.mem_cons]
      exact (or_iff_right fun heq => hc heq.symm).symm

/-- Changing the entries of one name leaves the others. -/
theorem without_map {f : κ × β → κ × β} (hkey : ∀ e, (f e).1 = e.1)
    (hother : ∀ e, e.1 ≠ name → f e = e) : without (l.map f) name = without l name := by
  induction l with
  | nil => rfl
  | cons e rest ih =>
    simp only [without] at ih ⊢
    by_cases he : e.1 = name
    · rw [List.map_cons, List.filter_cons_of_neg (by simp [hkey, he]), ih,
        List.filter_cons_of_neg (by simp [he])]
    · rw [List.map_cons, List.filter_cons_of_pos (by simp [hkey, he]), ih,
        List.filter_cons_of_pos (by simp [he]), hother e he]

end

/-- A loop that collects numbered entries ends when no number comes twice. -/
theorem loop_numbers {ν κ : Type} {add : List (ν × κ) → α → Except ε (List (ν × κ))}
    {number : α → ν} {name : α → κ} {entries : List α} {roots roots' : List (ν × κ)}
    (hadd : ∀ e ∈ entries, ∀ roots roots', add roots e = .ok roots' ↔
      number e ∉ roots.map Prod.fst ∧ roots' = roots ++ [(number e, name e)])
    (hroots : (roots.map Prod.fst).Nodup) :
    loop add roots entries = .ok roots' ↔
      (roots.map Prod.fst ++ entries.map number).Nodup ∧
        roots' = roots ++ entries.map fun e => (number e, name e) := by
  induction entries generalizing roots with
  | nil => simp [hroots, eq_comm]
  | cons e rest ih =>
    have hadd' := hadd e List.mem_cons_self
    have ih := fun roots => @ih roots fun e he => hadd e (List.mem_cons_of_mem _ he)
    rw [loop_cons]
    simp only [hadd', List.map_cons]
    constructor
    · rintro ⟨_, ⟨hfresh, rfl⟩, hloop⟩
      have hnext : ((roots ++ [(number e, name e)]).map Prod.fst).Nodup := by
        rw [List.map_append]
        exact hroots.append (List.nodup_singleton _) (List.disjoint_singleton.mpr hfresh)
      obtain ⟨hnodup, rfl⟩ := (ih _ hnext).mp hloop
      exact ⟨by simpa using hnodup, by simp⟩
    · rintro ⟨hnodup, rfl⟩
      have hfresh : number e ∉ roots.map Prod.fst := fun hmem =>
        (List.nodup_append.mp hnodup).2.2 _ hmem _ List.mem_cons_self rfl
      have hnodup' : ((roots ++ [(number e, name e)]).map Prod.fst ++ rest.map number).Nodup := by
        simpa using hnodup
      exact ⟨_, ⟨hfresh, rfl⟩, (ih _ (List.nodup_append.mp hnodup').1).mpr ⟨hnodup', by simp⟩⟩

end Paic.Entries
