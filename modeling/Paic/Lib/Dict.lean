import Mathlib

/-!
# Dictionaries in the order of insertion

A dictionary has each key once. Setting a key it has replaces the value
where it stands; a new key comes last. `assign` sets a key or takes it away,
and putting back what stood at a key undoes a `set`.
-/

namespace Paic

structure Dict (κ β : Type) where
  entries : List (κ × β)
  keys_nodup : (entries.map Prod.fst).Nodup

namespace Dict

variable {κ β : Type} {d d' : Dict κ β} {k j : κ} {v w : β}

@[ext] theorem ext (h : d.entries = d'.entries) : d = d' := by
  cases d
  cases d'
  simpa using h

def empty : Dict κ β := ⟨[], by simp⟩

variable [DecidableEq κ]

def get (d : Dict κ β) (k : κ) : Option β := d.entries.lookup k

def replaced (k : κ) (v : β) : List (κ × β) → List (κ × β)
  | [] => [(k, v)]
  | e :: rest => if e.1 = k then (k, v) :: rest else e :: replaced k v rest

def dropped (k : κ) (entries : List (κ × β)) : List (κ × β) := entries.filter fun e => e.1 ≠ k

theorem mem_keys_replaced {l : List (κ × β)} :
    j ∈ (replaced k v l).map Prod.fst ↔ j = k ∨ j ∈ l.map Prod.fst := by
  induction l with
  | nil => simp [replaced]
  | cons e rest ih =>
    by_cases h : e.1 = k
    · simp [replaced, h]
    · simp only [replaced, if_neg h, List.map_cons, List.mem_cons, ih]
      tauto

theorem replaced_nodup {l : List (κ × β)} (h : (l.map Prod.fst).Nodup) :
    ((replaced k v l).map Prod.fst).Nodup := by
  induction l with
  | nil => simp [replaced]
  | cons e rest ih =>
    rw [List.map_cons, List.nodup_cons] at h
    by_cases he : e.1 = k
    · subst he
      simpa [replaced] using h
    · rw [replaced, if_neg he, List.map_cons, List.nodup_cons]
      refine ⟨fun hmem => ?_, ih h.2⟩
      rcases mem_keys_replaced.mp hmem with hk | hrest
      · exact he hk
      · exact h.1 hrest

theorem dropped_nodup {l : List (κ × β)} (h : (l.map Prod.fst).Nodup) :
    ((dropped k l).map Prod.fst).Nodup :=
  h.sublist (List.filter_sublist.map _)

def set (d : Dict κ β) (k : κ) (v : β) : Dict κ β :=
  ⟨replaced k v d.entries, replaced_nodup d.keys_nodup⟩

def pop (d : Dict κ β) (k : κ) : Dict κ β := ⟨dropped k d.entries, dropped_nodup d.keys_nodup⟩

def assign (d : Dict κ β) (k : κ) : Option β → Dict κ β
  | some v => d.set k v
  | none => d.pop k

@[simp] theorem get_empty : (empty : Dict κ β).get k = none := rfl

theorem lookup_cons {e : κ × β} {rest : List (κ × β)} :
    (e :: rest).lookup j = if j = e.1 then some e.2 else rest.lookup j := by
  by_cases h : j = e.1
  · rw [List.lookup_cons, beq_iff_eq.mpr h, if_pos h]
  · rw [List.lookup_cons, beq_eq_false_iff_ne.mpr h, if_neg h]

theorem lookup_replaced {l : List (κ × β)} :
    (replaced k v l).lookup j = if j = k then some v else l.lookup j := by
  induction l with
  | nil => rw [replaced, lookup_cons]
  | cons e rest ih =>
    by_cases he : e.1 = k
    · rw [replaced, if_pos he, lookup_cons, lookup_cons, he]
      split <;> rfl
    · rw [replaced, if_neg he, lookup_cons, ih, lookup_cons]
      by_cases h : j = k
      · rw [if_neg (h ▸ Ne.symm he), if_pos h, if_pos h]
      · rw [if_neg h, if_neg h]

theorem lookup_dropped {l : List (κ × β)} :
    (dropped k l).lookup j = if j = k then none else l.lookup j := by
  induction l with
  | nil => simp [dropped]
  | cons e rest ih =>
    unfold dropped at ih
    by_cases he : e.1 = k
    · rw [dropped, List.filter_cons_of_neg (by simpa using he), ih, lookup_cons, he]
      split <;> rfl
    · rw [dropped, List.filter_cons_of_pos (by simpa using he), lookup_cons, ih, lookup_cons]
      by_cases h : j = k
      · rw [if_neg (h ▸ Ne.symm he), if_pos h, if_pos h]
      · rw [if_neg h, if_neg h]

theorem get_set : (d.set k v).get j = if j = k then some v else d.get j := lookup_replaced

theorem get_pop : (d.pop k).get j = if j = k then none else d.get j := lookup_dropped

theorem get_assign {o : Option β} : (d.assign k o).get j = if j = k then o else d.get j := by
  cases o
  · exact get_pop
  · exact get_set

theorem dropped_replaced {l : List (κ × β)} (h : l.lookup k = none) :
    dropped k (replaced k v l) = l := by
  induction l with
  | nil => simp [replaced, dropped]
  | cons e rest ih =>
    have he : e.1 ≠ k := by
      rintro rfl
      simp [lookup_cons] at h
    rw [lookup_cons, if_neg (Ne.symm he)] at h
    rw [replaced, if_neg he, dropped, List.filter_cons_of_pos (by simpa using he)]
    exact congrArg (e :: ·) (ih h)

theorem replaced_replaced {l : List (κ × β)} (h : l.lookup k = some w) :
    replaced k w (replaced k v l) = l := by
  induction l with
  | nil => simp at h
  | cons e rest ih =>
    by_cases he : e.1 = k
    · rw [lookup_cons, if_pos he.symm] at h
      obtain rfl := Option.some.inj h
      subst he
      simp [replaced]
    · rw [lookup_cons, if_neg (Ne.symm he)] at h
      rw [replaced, if_neg he, replaced, if_neg he, ih h]

/-- Putting back what stood at the key undoes a `set`. -/
theorem assign_set : (d.set k v).assign k (d.get k) = d := by
  cases h : d.get k with
  | none => exact Dict.ext (dropped_replaced h)
  | some w => exact Dict.ext (replaced_replaced h)

theorem get_mem (h : d.get k = some v) : (k, v) ∈ d.entries := by
  obtain ⟨l₁, l₂, heq, -⟩ := List.lookup_eq_some_iff.mp h
  rw [heq]
  simp

theorem mem_get (h : (k, v) ∈ d.entries) : d.get k = some v := by
  obtain ⟨l₁, l₂, heq⟩ := List.append_of_mem h
  refine List.lookup_eq_some_iff.mpr ⟨l₁, l₂, heq, fun p hp => ?_⟩
  have hnodup := d.keys_nodup
  rw [heq, List.map_append, List.map_cons, List.nodup_append] at hnodup
  have := hnodup.2.2 p.1 (List.mem_map_of_mem hp) k (by simp)
  simpa using Ne.symm this

theorem mem_entries_iff : (k, v) ∈ d.entries ↔ d.get k = some v := ⟨mem_get, get_mem⟩

end Dict

end Paic
