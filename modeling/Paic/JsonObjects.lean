import Paic.Json
import Paic.Lib.Entries
import Mathlib

/-!
# Objects as maps

An object is written with its keys in order, and no key comes twice in one
that was read. `sorted` brings a value to the order in which it is written:
two values are the same to Python when they are written the same.
-/

namespace Paic.Json

mutual
def sorted : Json → Json
  | .arr items => .arr (sortedItems items)
  | .obj fields => .obj (sortedFields fields)
  | value => value

def sortedItems : List Json → List Json
  | [] => []
  | j :: rest => sorted j :: sortedItems rest

def sortedFields : List (String × Json) → List (String × Json)
  | [] => []
  | (key, j) :: rest => (sortedFields rest).orderedInsert (fun a b => a.1 ≤ b.1) (key, sorted j)
end

mutual
/-- No object in the value has a key twice. -/
def unique : Json → Bool
  | .arr items => uniqueItems items
  | .obj fields => decide (fields.map Prod.fst).Nodup && uniqueFields fields
  | _ => true

def uniqueItems : List Json → Bool
  | [] => true
  | j :: rest => unique j && uniqueItems rest

def uniqueFields : List (String × Json) → Bool
  | [] => true
  | (_, j) :: rest => unique j && uniqueFields rest
end

/-- Two values that are written the same. -/
def Same (a b : Json) : Prop := a.sorted = b.sorted

instance (a b : Json) : Decidable (Same a b) := by unfold Same; infer_instance

theorem sortedFields_eq (fields : List (String × Json)) : sortedFields fields =
    (fields.map fun field => (field.1, field.2.sorted)).insertionSort fun a b => a.1 ≤ b.1 := by
  induction fields with
  | nil => rfl
  | cons field rest ih =>
    rw [sortedFields, ih]
    rfl

theorem sortedFields_perm (fields : List (String × Json)) :
    (sortedFields fields).Perm (fields.map fun field => (field.1, field.2.sorted)) := by
  rw [sortedFields_eq]
  exact List.perm_insertionSort _ _

theorem sortedFields_keys (fields : List (String × Json)) :
    ((sortedFields fields).map Prod.fst).Perm (fields.map Prod.fst) := by
  have h := (sortedFields_perm fields).map Prod.fst
  rwa [List.map_map] at h

theorem sortedFields_pairwise (fields : List (String × Json)) :
    (sortedFields fields).Pairwise fun a b => a.1 ≤ b.1 := by
  rw [sortedFields_eq]
  exact List.pairwise_insertionSort _ _

/-- Fields in the order of their keys are fixed by which fields they are. -/
theorem eq_of_sorted {fields fields' : List (String × Json)} (h : fields.Perm fields')
    (hkeys : (fields.map Prod.fst).Nodup) (hs : fields.Pairwise fun a b => a.1 ≤ b.1)
    (hs' : fields'.Pairwise fun a b => a.1 ≤ b.1) : fields = fields' := by
  refine h.eq_of_pairwise ?_ hs hs'
  intro a b ha hb hab hba
  exact List.inj_on_of_nodup_map hkeys ha (h.mem_iff.mpr hb) (String.le_antisymm hab hba)

/-- The order of the keys is not part of an object. -/
theorem sortedFields_of_perm {fields fields' : List (String × Json)} (h : fields.Perm fields')
    (hkeys : (fields.map Prod.fst).Nodup) : sortedFields fields = sortedFields fields' := by
  refine eq_of_sorted ?_ ((sortedFields_keys fields).nodup_iff.mpr hkeys)
    (sortedFields_pairwise fields) (sortedFields_pairwise fields')
  exact ((sortedFields_perm fields).trans (h.map _)).trans (sortedFields_perm fields').symm

theorem lookup_map_sorted (fields : List (String × Json)) (key : String) :
    (fields.map fun field => (field.1, field.2.sorted)).lookup key =
      (fields.lookup key).map sorted := by
  induction fields with
  | nil => rfl
  | cons field rest ih =>
    rw [List.map_cons, List.lookup_cons, show field = (field.1, field.2) from rfl, List.lookup_cons]
    cases key == field.1 with
    | true => rfl
    | false => exact ih

theorem lookup_sortedFields {fields : List (String × Json)} (hkeys : (fields.map Prod.fst).Nodup)
    (key : String) : (sortedFields fields).lookup key = (fields.lookup key).map sorted := by
  rw [Entries.lookup_of_perm (sortedFields_perm fields) ((sortedFields_keys fields).nodup_iff.mpr hkeys),
    lookup_map_sorted]

/-- Objects that are the same have the same values. -/
theorem Same.lookup {fields fields' : List (String × Json)} (h : (obj fields).Same (obj fields'))
    (hkeys : (fields.map Prod.fst).Nodup) (hkeys' : (fields'.map Prod.fst).Nodup) (key : String) :
    (fields.lookup key).map sorted = (fields'.lookup key).map sorted := by
  rw [← lookup_sortedFields hkeys, ← lookup_sortedFields hkeys', obj.inj h]

/-- Leaving keys out and sorting come to the same in either order. -/
theorem sortedFields_filter {fields : List (String × Json)} (hkeys : (fields.map Prod.fst).Nodup)
    (keep : String → Bool) : (sortedFields fields).filter (keep ·.1) =
      sortedFields (fields.filter (keep ·.1)) := by
  refine eq_of_sorted ?_ ?_ ((sortedFields_pairwise fields).filter _) (sortedFields_pairwise _)
  · have h := (sortedFields_perm fields).filter (keep ·.1)
    rw [List.filter_map] at h
    exact h.trans (sortedFields_perm (fields.filter (keep ·.1))).symm
  · exact ((sortedFields_keys fields).nodup_iff.mpr hkeys).sublist (List.filter_sublist.map _)

/-- An object is fixed by one of its fields and the rest. -/
theorem sortedFields_eq_of_rest {fields fields' : List (String × Json)} {key : String}
    (hkeys : (fields.map Prod.fst).Nodup) (hkeys' : (fields'.map Prod.fst).Nodup)
    (hlookup : fields.lookup key = some value) (hlookup' : fields'.lookup key = some value)
    (hrest : sortedFields (fields.filter (·.1 ≠ key)) = sortedFields (fields'.filter (·.1 ≠ key))) :
    sortedFields fields = sortedFields fields' := by
  have hsplit : ∀ {l : List (String × Json)}, (l.map Prod.fst).Nodup → l.lookup key = some value →
      l.Perm ((key, value) :: l.filter (·.1 ≠ key)) := by
    intro l hl hlookup
    obtain ⟨l₁, l₂, rfl, hnot⟩ := List.lookup_eq_some_iff.mp hlookup
    have hnone : ∀ m : List (String × Json), (∀ e ∈ m, e.1 ≠ key) →
        m.filter (·.1 ≠ key) = m := fun m hm =>
      List.filter_eq_self.mpr fun e he => by simpa using hm e he
    rw [List.map_append, List.map_cons, List.nodup_append, List.nodup_cons] at hl
    have h₁ : l₁.filter (·.1 ≠ key) = l₁ := hnone l₁ fun e he heq =>
      hl.2.2 e.1 (List.mem_map.mpr ⟨e, he, rfl⟩) key List.mem_cons_self heq
    have h₂ : l₂.filter (·.1 ≠ key) = l₂ := hnone l₂ fun e he heq =>
      hl.2.1.1 (heq ▸ List.mem_map.mpr ⟨e, he, rfl⟩)
    rw [List.filter_append, h₁, List.filter_cons_of_neg (by simp), h₂]
    exact List.perm_middle
  rw [sortedFields_of_perm (hsplit hkeys hlookup) hkeys,
    sortedFields_of_perm (hsplit hkeys' hlookup') hkeys', sortedFields, sortedFields, hrest]

-- ---------------------------------------------------------------------------
-- Keys that come once
-- ---------------------------------------------------------------------------

theorem fields_unique {fields : List (String × Json)} (h : (obj fields).unique = true) :
    uniqueFields fields = true := by
  simp only [unique, Bool.and_eq_true] at h
  exact h.2

theorem keys_unique {fields : List (String × Json)} (h : (obj fields).unique = true) :
    (fields.map Prod.fst).Nodup := by
  simp only [unique, Bool.and_eq_true, decide_eq_true_eq] at h
  exact h.1

theorem uniqueFields_iff {fields : List (String × Json)} :
    uniqueFields fields = true ↔ ∀ field ∈ fields, field.2.unique = true := by
  induction fields with
  | nil => simp [uniqueFields]
  | cons field rest ih => simp [uniqueFields, ih]

theorem filter_unique {fields : List (String × Json)} {keep : String × Json → Bool}
    (h : (obj fields).unique = true) : (obj (fields.filter keep)).unique = true := by
  rw [unique, Bool.and_eq_true, decide_eq_true_eq]
  refine ⟨(keys_unique h).sublist (List.filter_sublist.map _), uniqueFields_iff.mpr ?_⟩
  exact fun field hf => uniqueFields_iff.mp (fields_unique h) field (List.mem_filter.mp hf).1

theorem lookup_unique {fields : List (String × Json)} (h : uniqueFields fields = true)
    (hlookup : fields.lookup key = some j) : j.unique = true := by
  induction fields with
  | nil => exact absurd hlookup nofun
  | cons field rest ih =>
    obtain ⟨other, value⟩ := field
    simp only [uniqueFields, Bool.and_eq_true] at h
    rw [List.lookup_cons] at hlookup
    cases hk : key == other with
    | true =>
      rw [hk] at hlookup
      exact Option.some.inj hlookup ▸ h.1
    | false =>
      rw [hk] at hlookup
      exact ih h.2 hlookup

end Paic.Json

namespace Paic

/-- No two of the values have the same digest. -/
def CollisionFree [Hashing] (values : List Json) : Prop :=
  ∀ a ∈ values, ∀ b ∈ values, digest a = digest b → a.Same b

end Paic
